import CatalogDesk.Catalog.Refusal
import CatalogDesk.Form.CharacteristicForm
import CatalogDesk.Form.OfferingForm
import CatalogDesk.Form.PricingForm
import CatalogDesk.Form.SpecificationForm
import CatalogDesk.Json.Printer
import CatalogDesk.Notice.Basic
import CatalogDesk.Rehearsal.Given
import CatalogDesk.Session.Client
import CatalogDesk.Store.Filters
import CatalogDesk.Task.Scheduler

/-! # What is seen: values

    Small values of the console as data, in the form in which a rehearsal shows them. -/

namespace CatalogDesk.Rehearsal

def optText : Option String → Json := .ofOption .text

def optNat : Option Nat → Json := .ofOption .nat

def pairJson (p : String × String) : Json := .texts [p.1, p.2]

def pairsJson (ps : List (String × String)) : Json := .list (ps.map pairJson)

def failureJson (f : Failure) : Json :=
  let kind := match f.kind with
    | .transport => "transport"
    | .status => "status"
    | .payload => "payload"
  .ofMembers [("kind", .text kind), ("status", optNat f.status), ("message", .text f.message)]

/-- The outcome of a request. -/
def outcomeJson (encode : β → Json) : Except Failure β → Json
  | .ok b => .ofMembers [("ok", encode b)]
  | .error f => .ofMembers [("err", failureJson f)]

/-- The outcome of an action on a record. -/
def actionJson (encode : β → Json) : Except ActionError β → Json
  | .ok b => .ofMembers [("ok", encode b)]
  | .error (.refused why) => .ofMembers [("rejected", .text why.message)]
  | .error (.request f) => .ofMembers [("request", failureJson f)]

def filtersJson (f : Filters) : Json :=
  .ofMembers [("q", .text f.q), ("min_price", .text f.minPrice), ("max_price", .text f.maxPrice),
    ("channel", .text f.channel), ("characteristic", .texts f.characteristics)]

def levelName : NoticeLevel → String
  | .info => "info"
  | .success => "success"
  | .warn => "warn"
  | .error => "error"

def toastJson (t : Toast) : Json := .texts [levelName t.level, t.message]

def bodyJson : RequestBody → Json
  | .empty => .null
  | .json v => .ofMembers [("json", v)]
  | .form ps => .ofMembers [("form", pairsJson ps)]

def requestJson (r : Request) : Json :=
  .ofMembers [("method", .text r.method.label), ("path", .text r.path),
    ("query", pairsJson r.query), ("body", bodyJson r.body), ("bearer", optText r.bearer)]

def answerJson (a : Answer) : Json :=
  .ofMembers [("status", .nat a.status), ("body", a.body.getD .null)]

/-! ## What is seen: forms -/

def modeJson : FormMode → Json
  | .create => .text "create"
  | .edit id => .ofMembers [("edit", .text id)]

def errorsJson (e : FieldErrors) : Json := pairsJson e.entries

def optionsJson (os : List SelectOption) : Json :=
  .list (os.map fun o => .texts [o.id, o.label])

def characteristicFormJson (f : CharacteristicForm) : Json :=
  .ofMembers [("name", .text f.name), ("value", .text f.value),
    ("unit_of_measure", .text f.unit.label), ("mode", modeJson f.mode),
    ("errors", errorsJson f.errors)]

def specificationFormJson (f : SpecificationForm) : Json :=
  .ofMembers [("name", .text f.name), ("characteristic_ids", .texts f.characteristicIds),
    ("options", optionsJson f.options), ("loading", .bool f.loadingOptions),
    ("mode", modeJson f.mode), ("errors", errorsJson f.errors)]

def pricingFormJson (f : PricingForm) : Json :=
  .ofMembers [("name", .text f.name), ("value", .text f.value), ("unit", .text f.unit),
    ("currency", .text f.currency.label), ("mode", modeJson f.mode),
    ("errors", errorsJson f.errors)]

def offeringFormJson (f : OfferingForm) : Json :=
  .ofMembers [("name", .text f.name), ("description", .text f.description),
    ("specification_ids", .texts f.specificationIds), ("price_ids", .texts f.priceIds),
    ("sales_channels", .texts (f.channels.map SalesChannel.label)),
    ("specification_options", optionsJson f.specificationOptions),
    ("price_options", optionsJson f.priceOptions), ("loading", .bool f.loadingOptions),
    ("mode", modeJson f.mode), ("errors", errorsJson f.errors)]

def checkedJson (encode : π → Json) : Except FieldErrors π → Json
  | .ok payload => .ofMembers [("ok", encode payload)]
  | .error e => .ofMembers [("invalid", errorsJson e), ("display", .text e.summary)]

def saveRequestJson (encode : π → Json) (r : SaveRequest π) : Json :=
  .ofMembers [("mode", modeJson r.mode), ("path", .text r.path), ("payload", encode r.payload)]

def saveOutcomeJson (encode : α → Json) : SaveOutcome α → Json
  | .invalid => .text "invalid"
  | .saved record => .ofMembers [("saved", encode record), ("is_saved", .bool true)]
  | .failed m => .ofMembers [("failed", .text m)]

/-! ## What is seen: background work, watches and the session -/

/-- The scheduler with the prepared replies and the settings of a rehearsal. -/
def schedulerOf (j : Json) : Scheduler β :=
  { gateway := prepare {} (j.listAt "routes"),
    watcher :=
      { interval := j.natAt "interval_ms" 2000, maxAttempts := j.natAt "max_attempts" 30 } }

def requestsJson (s : Scheduler β) : Json := .list (s.sent.map requestJson)

def toastsJson (s : Scheduler β) : Json := .list (s.toasts.map toastJson)

def publishedIds (events : List (TaskEvent β)) : List RecordId :=
  events.filterMap fun e => match e with
    | .published o => some o.id
    | _ => none

def publishedJson (s : Scheduler β) : Json := .texts (publishedIds s.events)

/-- The scheduler after all that can be seen has been looked at. -/
def lookedAt (s : Scheduler β) : Scheduler β :=
  { s with
    sent := [], toasts := [],
    events := s.events.filter fun e => match e with
      | .published _ => false
      | _ => true }

def watchStateJson : WatchState → Json
  | .idle => .text "idle"
  | .polling n => .ofMembers [("polling", .nat n)]
  | .succeeded o => .ofMembers [("succeeded", o.encode)]
  | .failed m => .ofMembers [("failed", .text m)]
  | .timedOut => .text "timed_out"

def stateJson (w : Watcher) (handle : Nat) : Json :=
  watchStateJson ((w.state? handle).getD .idle)

/-- A watch as its owner sees it. -/
def handleJson (w : Watcher) (handle : Nat) (id : RecordId) : Json :=
  .ofMembers [("id", .text id), ("state", stateJson w handle),
    ("terminal", .bool ((w.state? handle).any WatchState.isTerminal)),
    ("finished", .bool (w.isFinished handle)), ("watching", .bool (w.isWatching id))]

def itemsJson (items : Items) : Json := .ofMembers (items.map fun p => (p.1, .text p.2))

def sessionEventJson : SessionEvent → Json
  | .loggedOut => .text "logged_out"
  | .loggedIn u => .ofMembers [("logged_in", .text u.username)]

def authErrorName : AuthError → String
  | .missingCredential _ => "missing_credential"
  | .rejected _ => "rejected"
  | .invalidToken => "invalid_token"
  | .request _ => "request"
  | .storage _ => "storage"

/-- The outcome of a login. -/
def loginJson : Except AuthError User → Json
  | .ok u => .ofMembers [("ok", .text u.username)]
  | .error e => .ofMembers [("err", .text (authErrorName e)), ("display", .text e.message),
    ("user_message", .text e.userMessage), ("recoverable", .bool e.isRecoverable)]

def sessionJson (s : Scheduler β) : List (String × Json) :=
  let c := s.context
  [("authenticated", .bool c.isAuthenticated), ("user", .ofOption User.encode c.user),
    ("token", optText (c.client.token.map (·.value))), ("storage", itemsJson c.store.items),
    ("events", .list (c.events.map sessionEventJson)), ("requests", requestsJson s)]

end CatalogDesk.Rehearsal
