import CatalogDesk.Settings.Basic

/-! # Settings as data -/

namespace CatalogDesk

namespace Decode

/-- A count below a limit; `kind` names the counts in messages. -/
def bounded (kind : String) (limit : Nat) : Json → Result Nat
  | .number (.integer i) =>
    if 0 ≤ i && i < limit then .ok i.toNat
    else .error (.invalidValue (.number (.integer i)) kind)
  | v => .error (.invalidType v kind)

/-- A field with a default. -/
def fieldOr (m : Json.Members) (key : String) (default : α) (read : Json → Result α) :
    Result α := do
  return (← field? m key read).getD default

/-- A size of a page. -/
def size : Json → Result Nat := bounded "usize" wideLimit

end Decode

open Decode

namespace GatewaySettings

def ofMembers (m : Json.Members) : Result GatewaySettings := do
  let d : GatewaySettings := {}
  let baseUrl ← fieldOr m "base_url" d.baseUrl text
  let timeoutSeconds ← fieldOr m "request_timeout_secs" d.timeoutSeconds count
  return { baseUrl, timeoutSeconds }

def ofItems (xs : List Json) : Result GatewaySettings := do
  let d : GatewaySettings := {}
  let baseUrl ← itemOr xs 0 d.baseUrl text
  let timeoutSeconds ← itemOr xs 1 d.timeoutSeconds count
  return { baseUrl, timeoutSeconds }

def decode : Json → Result GatewaySettings := record "struct ApiConfig" 2 ofMembers ofItems

end GatewaySettings

namespace ViewSettings

def ofMembers (m : Json.Members) : Result ViewSettings := do
  let d : ViewSettings := {}
  let noticeSeconds ← fieldOr m "notification_duration" d.noticeSeconds count
  let pageSize ← fieldOr m "page_size" d.pageSize size
  let viewerPageSize ← fieldOr m "viewer_page_size" d.viewerPageSize size
  return { pageSize, viewerPageSize, noticeSeconds }

def ofItems (xs : List Json) : Result ViewSettings := do
  let d : ViewSettings := {}
  let pageSize ← itemOr xs 0 d.pageSize size
  let viewerPageSize ← itemOr xs 1 d.viewerPageSize size
  let noticeSeconds ← itemOr xs 2 d.noticeSeconds count
  return { pageSize, viewerPageSize, noticeSeconds }

def decode : Json → Result ViewSettings := record "struct UiConfig" 3 ofMembers ofItems

end ViewSettings

namespace StoreSettings

def ofMembers (m : Json.Members) : Result StoreSettings := do
  let d : StoreSettings := {}
  let debounce ← fieldOr m "debounce_ms" d.debounce count
  let pageSize ← fieldOr m "page_size" d.pageSize size
  return { pageSize, debounce }

def ofItems (xs : List Json) : Result StoreSettings := do
  let d : StoreSettings := {}
  let pageSize ← itemOr xs 0 d.pageSize size
  let debounce ← itemOr xs 1 d.debounce count
  return { pageSize, debounce }

def decode : Json → Result StoreSettings := record "struct StoreConfig" 2 ofMembers ofItems

end StoreSettings

namespace PublishSettings

/-- A number of polls. -/
def attempts : Json → Result Nat := bounded "u32" narrowLimit

def ofMembers (m : Json.Members) : Result PublishSettings := do
  let d : PublishSettings := {}
  let maxAttempts ← fieldOr m "max_attempts" d.maxAttempts attempts
  let interval ← fieldOr m "poll_interval_ms" d.interval count
  return { interval, maxAttempts }

def ofItems (xs : List Json) : Result PublishSettings := do
  let d : PublishSettings := {}
  let interval ← itemOr xs 0 d.interval count
  let maxAttempts ← itemOr xs 1 d.maxAttempts attempts
  return { interval, maxAttempts }

def decode : Json → Result PublishSettings :=
  record "struct PublishConfig" 2 ofMembers ofItems

end PublishSettings

namespace Settings

/-- The settings from the fields of an object. -/
def ofMembers (m : Json.Members) : Result Settings := do
  let gateway ← fieldOr m "api" {} GatewaySettings.decode
  let logLevel ← fieldOr m "log_level" .info LogLevel.decode
  let publish ← fieldOr m "publish" {} PublishSettings.decode
  let store ← fieldOr m "store" {} StoreSettings.decode
  let view ← fieldOr m "ui" {} ViewSettings.decode
  return { logLevel, gateway, view, store, publish }

/-- The settings from a list of their groups. -/
def ofItems (xs : List Json) : Result Settings := do
  let logLevel ← itemOr xs 0 .info LogLevel.decode
  let gateway ← itemOr xs 1 {} GatewaySettings.decode
  let view ← itemOr xs 2 {} ViewSettings.decode
  let store ← itemOr xs 3 {} StoreSettings.decode
  let publish ← itemOr xs 4 {} PublishSettings.decode
  return { logLevel, gateway, view, store, publish }

def decode : Json → Result Settings :=
  record "struct AppConfig" 5 ofMembers ofItems

def encode (s : Settings) : Json :=
  .ofMembers [("log_level", s.logLevel.encode),
    ("api", .ofMembers [("base_url", .text s.gateway.baseUrl),
      ("request_timeout_secs", .nat s.gateway.timeoutSeconds)]),
    ("ui", .ofMembers [("page_size", .nat s.view.pageSize),
      ("viewer_page_size", .nat s.view.viewerPageSize),
      ("notification_duration", .nat s.view.noticeSeconds)]),
    ("store", .ofMembers [("page_size", .nat s.store.pageSize),
      ("debounce_ms", .nat s.store.debounce)]),
    ("publish", .ofMembers [("poll_interval_ms", .nat s.publish.interval),
      ("max_attempts", .nat s.publish.maxAttempts)])]

end Settings

end CatalogDesk
