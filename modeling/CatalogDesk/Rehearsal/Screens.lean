import CatalogDesk.Rehearsal.Scene
import CatalogDesk.Rehearsal.Seen.Values
import CatalogDesk.Rehearsal.Seen.Store
import CatalogDesk.Screen.Builder
import CatalogDesk.Screen.Shop
import CatalogDesk.Screen.Viewer

/-! # Rehearsing the screens

    The store, the viewer and the builder without the program around them: work that a
    screen asks for is shown, and its outcome is given by a step. -/

namespace CatalogDesk.Rehearsal

open Draw

def hintsJson (hints : KeyHints) : Json := pairsJson hints

/-! ## The store -/

/-- The store screen with the searches that were issued. -/
structure ShopRun where
  shop : Shop
  tickets : List SearchTicket := []
  /-- Did the last step complete a search that was still wanted? -/
  applied : Option Bool := none

namespace ShopRun

/-- Notes a search that was issued. -/
def issued (r : ShopRun) (s : SearchTicket × Shop) : Answered (List Json × ShopRun) :=
  .ok ([ticketJson s.1], { r with shop := s.2, tickets := r.tickets ++ [s.1], applied := none })

def press (r : ShopRun) (k : Key) : Json × ShopRun :=
  let (action, shop) := r.shop.press k
  let r := { r with shop, applied := none }
  match action with
  | .none => (.null, r)
  | .edited f => (.ofMembers [("filters", filtersJson f)], r)
  | .search t =>
    (.ofMembers [("search", ticketJson t)], { r with tickets := r.tickets ++ [t] })

def act (r : ShopRun) (s : Json) (name : String) : Answered (List Json × ShopRun) := do
  match name with
  | "start" => r.issued r.shop.start
  | "apply" => r.issued (r.shop.applyFilters (filtersOf (s.valueAt "filters")))
  | "complete" =>
    match r.tickets[s.natAt "ticket" 0]? with
    | none => .error .noTicket
    | some t =>
      let (applied, shop) := r.shop.complete t (← decoded (outcomeOf SearchPage.decode s))
      quietly { r with shop, applied := some applied }
  | _ => unknownStep name

def see (r : ShopRun) (actions : List Json) : Json × ShopRun :=
  (.ofMembers [("actions", .list actions), ("applied", .ofOption .bool r.applied),
    ("focus", .text (if r.shop.onFilters then "filters" else "results")),
    ("location", .text r.shop.browser.location), ("state", browserJson r.shop.browser),
    ("hints", hintsJson r.shop.hints)], { r with applied := none })

def scene : Scene ShopRun where
  press := press
  act := act
  see := see
  draw r _ _ := (r.shop.draw, r)

end ShopRun

def rehearseShop (j : Json) : Answered Json :=
  ShopRun.scene.rehearse j
    { shop := .ofLocation (j.textAt "location") (j.natAt "page_size" 12) }

/-! ## The viewer -/

/-- A record by its collection, its number and its name. -/
def recordJson (r : CatalogRecord) : Json := .texts [r.collection.title, r.id, r.name]

def viewerActionJson : ViewerAction → Json
  | .none => .null
  | .reload c => .ofMembers [("reload", .text c.title)]
  | .edit r => .ofMembers [("edit", recordJson r)]
  | .delete r => .ofMembers [("delete", recordJson r)]
  | .publish o => .ofMembers [("publish", .text o.id)]
  | .retire o => .ofMembers [("retire", .text o.id)]

def viewerScene : Scene Viewer where
  press v k := (viewerActionJson (v.press k).1, (v.press k).2)
  act v s name := do
    let kind := collectionOf (s.textAt "kind")
    match name with
    | "show" => return ([viewerActionJson (v.choose kind).1], (v.choose kind).2)
    | "reload" => return ([viewerActionJson v.reload.1], v.reload.2)
    | "loading" => quietly (v.setLoading kind)
    | "apply" => quietly (v.apply kind (← decoded (outcomeOf (CatalogRecords.decode kind) s)))
    | _ => unknownStep name
  see v actions :=
    (.ofMembers [("actions", .list actions), ("resource", .text v.active.title),
      ("selected", .ofOption recordJson v.selected?),
      ("pending_delete", .ofOption recordJson v.doomed), ("hints", .nat v.hints.length)], v)
  draw v _ _ := (v.draw, v)

def rehearseViewer (j : Json) : Answered Json :=
  viewerScene.rehearse j (.new (j.natAt "page_size" 10) (j.natAt "viewer_page_size" 20))

/-! ## The builder -/

/-- The builder with what it brought up, and the offerings that it asked to watch. -/
structure BuilderRun where
  builder : Builder := .new
  toasts : List Toast := []
  watched : List RecordId := []
  result : Json := .null

def builderActionJson : BuilderAction → Json
  | .none => .null
  | .saveCharacteristic r =>
    .ofMembers [("save_characteristic", saveRequestJson CharacteristicDraft.encode r)]
  | .saveSpecification r =>
    .ofMembers [("save_specification", saveRequestJson SpecificationDraft.encode r)]
  | .savePricing r => .ofMembers [("save_pricing", saveRequestJson PriceDraft.encode r)]
  | .saveDraft r => .ofMembers [("save_draft", saveRequestJson OfferingDraft.encode r)]
  | .publish r => .ofMembers [("publish", saveRequestJson OfferingDraft.encode r)]
  | .loadSpecificationOptions => .text "load_specification_options"
  | .loadOfferingOptions => .text "load_offering_options"

namespace BuilderRun

def press (r : BuilderRun) (k : Key) : Json × BuilderRun :=
  let (action, toasts, builder) := r.builder.press k
  (builderActionJson action, { r with builder, toasts := r.toasts ++ toasts })

/-- Work that a step asks for. -/
def asked (r : BuilderRun) (p : BuilderAction × Builder) : Answered (List Json × BuilderRun) :=
  .ok ([builderActionJson p.1], { r with builder := p.2 })

/-- The builder after an outcome, with the notices that it brought up. -/
def completed (r : BuilderRun) (toasts : List Toast) (builder : Builder) :
    Answered (List Json × BuilderRun) :=
  quietly { r with builder, toasts := r.toasts ++ toasts }

def complete (r : BuilderRun) (s : Json) : Answered (List Json × BuilderRun) := do
  let b := r.builder
  let one (p : Toast × Builder) := r.completed [p.1] p.2
  match collectionOf (s.textAt "kind") with
  | .characteristics =>
    one (b.completeCharacteristic (← decoded (outcomeOf Characteristic.decode s)))
  | .specifications =>
    one (b.completeSpecification (← decoded (outcomeOf Specification.decode s)))
  | .prices => one (b.completePricing (← decoded (outcomeOf Price.decode s)))
  | .offerings => one (b.completeDraft (← decoded (outcomeOf Offering.decode s)))

/-- An offering is watched once. -/
def watch (r : BuilderRun) (o : Offering) : BuilderRun :=
  let again := r.watched.contains o.id
  { r with
    watched := if again then r.watched else r.watched ++ [o.id]
    result := .ofMembers [("started", .text o.id),
      ("finished", if again then .null else .bool false)] }

def completePublish (r : BuilderRun) (s : Json) : Answered (List Json × BuilderRun) := do
  let saved ← match s.present? "saved" with
    | some v => some <$> decoded (Offering.decode v)
    | none => pure none
  let result ← decoded (outcomeOf Offering.decode s)
  let (outcome, toast, builder) :=
    r.builder.completePublish (result.mapError fun failure => ⟨saved, failure⟩)
  let r := { r with builder, toasts := r.toasts ++ [toast] }
  match outcome with
  | .accepted o => quietly (r.watch o)
  | .failed m => quietly { r with result := .ofMembers [("failed", .text m)] }

def applyOptions (r : BuilderRun) (s : Json) : Answered (List Json × BuilderRun) := do
  if s.textAt "kind" == "specification" then
    let result ← decoded (outcomeOf (Decode.list Characteristic.decode) s)
    let (toasts, builder) := r.builder.applySpecificationOptions result
    r.completed toasts builder
  else
    let result : Except Failure OfferingOptions ← match s.get? "error" with
      | some e => pure (.error (failureOf e))
      | none =>
        let specifications ←
          decoded (Decode.list Specification.decode (.list (s.listAt "specifications")))
        let prices ← decoded (Decode.list Price.decode (.list (s.listAt "prices")))
        pure (.ok ⟨specifications, prices⟩)
    let (toasts, builder) := r.builder.applyOfferingOptions result
    r.completed toasts builder

def act (r : BuilderRun) (s : Json) (name : String) : Answered (List Json × BuilderRun) := do
  match name with
  | "tab" =>
    match BuilderTab.all[s.natAt "index" 0]? with
    | some tab => r.asked (r.builder.showTab tab)
    | none => .error .outOfBounds
  | "edit" =>
    let record ← decoded (recordOf (collectionOf (s.textAt "kind")) (s.valueAt "record"))
    match r.builder.edit record with
    | .ok p => r.asked p
    | .error why => quietly { r with result := .ofMembers [("refused", .text why.message)] }
  | "complete" => r.complete s
  | "complete_publish" => r.completePublish s
  | "options" => r.applyOptions s
  | _ => unknownStep name

def see (r : BuilderRun) (actions : List Json) : Json × BuilderRun :=
  (.ofMembers [("actions", .list actions), ("result", r.result),
    ("tab", .text r.builder.tab.title), ("toasts", .list (r.toasts.map toastJson)),
    ("watched", .texts r.watched), ("hints", .nat r.builder.hints.length)],
    { r with toasts := [], result := .null })

def scene : Scene BuilderRun where
  press := press
  act := act
  see := see
  draw r _ _ := (r.builder.draw, r)

end BuilderRun

def rehearseBuilder (j : Json) : Answered Json := BuilderRun.scene.rehearse j {}

end CatalogDesk.Rehearsal
