import CatalogDesk.Settings.LogLevel
import CatalogDesk.Toml.Reader
import CatalogDesk.Toml.Text

/-! # Settings

    The settings of the console come from a document that a person edits, in which every
    value may be left out.  A document that cannot be read, or has a value of the wrong
    kind, counts as if it were not there.

    Main definitions: `Settings` with its defaults, `Settings.ofText` reads a document,
    `Settings.toText` writes one. -/

namespace CatalogDesk

/-- The connection to the gateway. -/
structure GatewaySettings where
  baseUrl : String := "http://localhost:8000/api/v1"
  /-- How long a request may take. -/
  timeoutSeconds : Nat := 30
  deriving DecidableEq, Inhabited, Repr

/-- Tables and notices. -/
structure ViewSettings where
  pageSize : Nat := 10
  viewerPageSize : Nat := 20
  noticeSeconds : Nat := 5
  deriving DecidableEq, Inhabited, Repr

/-- Browsing the store. -/
structure StoreSettings where
  pageSize : Nat := 12
  /-- Milliseconds between a change of a filter and its search. -/
  debounce : Nat := 300
  deriving DecidableEq, Inhabited, Repr

/-- Watching a publication. -/
structure PublishSettings where
  /-- Milliseconds between two polls. -/
  interval : Nat := 2000
  maxAttempts : Nat := 30
  deriving DecidableEq, Inhabited, Repr

/-- All settings. -/
structure Settings where
  /-- Where the document was looked for, if that was given. -/
  configPath : Option String := none
  logPath : Option String := none
  /-- The query line to open the store with. -/
  storeQuery : Option String := none
  logLevel : LogLevel := .info
  gateway : GatewaySettings := {}
  view : ViewSettings := {}
  store : StoreSettings := {}
  publish : PublishSettings := {}
  deriving DecidableEq, Inhabited, Repr

/-! ## Counts -/

/-- The counts of 64 bits end before this one. -/
def wideLimit : Nat := Nat.pow 2 64

/-- The counts of 32 bits end before this one. -/
def narrowLimit : Nat := Nat.pow 2 32

/-! ## Reading a document -/

namespace Toml.Value

def asText? : Value → Option String
  | .text s => some s
  | _ => none

def asCount? (limit : Nat) : Value → Option Nat
  | .integer i => if 0 ≤ i && i < limit then some i.toNat else none
  | _ => none

/-- Is there nothing in the value? -/
def isEmpty : Value → Bool
  | .list _ [] => true
  | .table _ [] => true
  | _ => false

/-- A level: its name, or a table with nothing under its name. -/
def asLevel? (v : Value) : Option LogLevel :=
  let named (s : String) : Option LogLevel := LogLevel.all.find? fun l => l.label = s
  match v with
  | .text s => named s
  | .table _ [(name, inner)] => if inner.isEmpty then named name else none
  | _ => none

end Toml.Value

namespace Settings

open Toml

/-- A field of a table, or at its place in a list; the default if it is left out. -/
def field (v : Value) (index : Nat) (key : String) (read : Value → Option α) (default : α) :
    Option α :=
  match v with
  | .table _ entries =>
    match Entries.get? key entries with
    | none => some default
    | some w => read w
  | .list _ items =>
    match items[index]? with
    | none => some default
    | some w => read w
  | _ => none

def readGateway (v : Value) : Option GatewaySettings := do
  let baseUrl ← field v 0 "base_url" Value.asText? ({} : GatewaySettings).baseUrl
  let timeoutSeconds ← field v 1 "request_timeout_secs" (Value.asCount? wideLimit)
    ({} : GatewaySettings).timeoutSeconds
  return { baseUrl, timeoutSeconds }

def readView (v : Value) : Option ViewSettings := do
  let count := Value.asCount? wideLimit
  let pageSize ← field v 0 "page_size" count ({} : ViewSettings).pageSize
  let viewerPageSize ← field v 1 "viewer_page_size" count ({} : ViewSettings).viewerPageSize
  let noticeSeconds ← field v 2 "notification_duration" count ({} : ViewSettings).noticeSeconds
  return { pageSize, viewerPageSize, noticeSeconds }

def readStore (v : Value) : Option StoreSettings := do
  let count := Value.asCount? wideLimit
  let pageSize ← field v 0 "page_size" count ({} : StoreSettings).pageSize
  let debounce ← field v 1 "debounce_ms" count ({} : StoreSettings).debounce
  return { pageSize, debounce }

def readPublish (v : Value) : Option PublishSettings := do
  let interval ← field v 0 "poll_interval_ms" (Value.asCount? wideLimit)
    ({} : PublishSettings).interval
  let maxAttempts ← field v 1 "max_attempts" (Value.asCount? narrowLimit)
    ({} : PublishSettings).maxAttempts
  return { interval, maxAttempts }

/-- The settings of a document. -/
def ofEntries (entries : Entries) : Option Settings := do
  let v : Value := .table .headed entries
  let logLevel ← field v 0 "log_level" Value.asLevel? .info
  let gateway ← field v 1 "api" readGateway {}
  let view ← field v 2 "ui" readView {}
  let store ← field v 3 "store" readStore {}
  let publish ← field v 4 "publish" readPublish {}
  return { logLevel, gateway, view, store, publish }

/-- The settings that a text describes; the defaults if it cannot be read. -/
def ofText (s : String) : Settings :=
  ((Toml.read? s).bind ofEntries).getD {}

/-! ## Writing a document -/

/-- The document of the settings. -/
def toText (s : Settings) : String :=
  textLine "log_level" s.logLevel.label ++
  tableText "api" (textLine "base_url" s.gateway.baseUrl ++
    countLine "request_timeout_secs" s.gateway.timeoutSeconds) ++
  tableText "ui" (countLine "page_size" s.view.pageSize ++
    countLine "viewer_page_size" s.view.viewerPageSize ++
    countLine "notification_duration" s.view.noticeSeconds) ++
  tableText "store" (countLine "page_size" s.store.pageSize ++
    countLine "debounce_ms" s.store.debounce) ++
  tableText "publish" (countLine "poll_interval_ms" s.publish.interval ++
    countLine "max_attempts" s.publish.maxAttempts)

/-- What loading leaves: the settings, and the document to write if there was none. -/
structure Loaded where
  settings : Settings
  written : Option String
  deriving DecidableEq, Inhabited, Repr

/-- The settings of the document, if there is one, and else the defaults, which are
    written down. -/
def load (content : Option String) : Loaded :=
  match content with
  | some text => ⟨ofText text, none⟩
  | none => ⟨{}, some (toText {})⟩

/-! ## Durations in milliseconds -/

def requestTimeout (s : Settings) : Nat := s.gateway.timeoutSeconds * 1000

def noticeDuration (s : Settings) : Nat := s.view.noticeSeconds * 1000

end Settings

end CatalogDesk
