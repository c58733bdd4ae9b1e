import CatalogDesk.Screen.Builder.Action

/-! # The panel of an offering -/

namespace CatalogDesk

open Draw

/-- What is going on with the form of an offering. -/
inductive OfferingBusy
  | saving
  | publishing
  deriving DecidableEq, Repr

/-- What is shown of it. -/
def OfferingBusy.label : OfferingBusy → String
  | .saving => "Saving..."
  | .publishing => "Publishing..."

/-- The form of an offering on the screen. -/
structure OfferingPanel where
  form : OfferingForm := .new
  name : TextField := { label := " Name ", placeholder := "e.g. Fiber 500 Bundle" }
  description : TextField := { label := " Description ", placeholder := "Optional" }
  specifications : Checklist := {}
  prices : Checklist := {}
  channels : Checklist := {}
  field : Nat := 0
  busy : Option OfferingBusy := none
  deriving DecidableEq, Repr

namespace OfferingPanel

/-- Name, description, specifications, prices and channels. -/
def fields : Nat := 5

/-- The sales channels to choose from. -/
def channelOptions : List SelectOption := SalesChannel.all.map fun c => ⟨c.label, c.label⟩

/-- Shows the form and its messages in the fields. -/
def showForm (p : OfferingPanel) : OfferingPanel :=
  { p with
    name := (p.name.setValue p.form.name).setError (p.form.errors.get? "name")
    description := p.description.setValue p.form.description }

/-- Shows another form, without its options. -/
def load (p : OfferingPanel) (form : OfferingForm) : OfferingPanel :=
  { p with form, field := 0 }.showForm

/-- Asks for the options anew. -/
def reloadOptions (p : OfferingPanel) : BuilderAction × OfferingPanel :=
  (.loadOfferingOptions, { p with form := p.form.beginOptions })

/-- Takes the options that were loaded. -/
def applyOptions (p : OfferingPanel) (result : Except Failure OfferingOptions) :
    List Toast × OfferingPanel :=
  let (toasts, form) := p.form.applyOptions result
  (toasts, { p with form })

/-- Shows where the focus is, if the panel has it. -/
def setFocused (p : OfferingPanel) (focused : Bool) : OfferingPanel :=
  { p with
    name := p.name.setFocused (focused && p.field == 0)
    description := p.description.setFocused (focused && p.field == 1)
    specifications := p.specifications.setFocused (focused && p.field == 2)
    prices := p.prices.setFocused (focused && p.field == 3)
    channels := p.channels.setFocused (focused && p.field == 4) }

/-- The form with what was typed. -/
def typed (p : OfferingPanel) : OfferingForm :=
  { p.form with name := p.name.value, description := p.description.value }

/-- Checks what was typed and asks to save it, unless something is going on. -/
def saveDraft (p : OfferingPanel) : BuilderAction × OfferingPanel :=
  if p.busy.isSome then (.none, p)
  else
    match p.typed.prepareDraft with
    | (some r, form) => (.saveDraft r, { { p with form }.showForm with busy := some .saving })
    | (none, form) => (.none, { p with form }.showForm)

/-- Checks what was typed and asks to publish it, unless something is going on. -/
def publish (p : OfferingPanel) : BuilderAction × List Toast × OfferingPanel :=
  if p.busy.isSome then (.none, [], p)
  else
    match p.typed.preparePublish with
    | (.ready r, toasts, form) =>
      (.publish r, toasts, { { p with form }.showForm with busy := some .publishing })
    | (_, toasts, form) => (.none, toasts, { p with form }.showForm)

/-- What a key does to the field that has the focus. -/
def pressField (p : OfferingPanel) (k : Key) : OfferingPanel :=
  match p.field with
  | 0 => { p with name := (p.name.press k).2 }
  | 1 => { p with description := (p.description.press k).2 }
  | 2 =>
    match p.specifications.press k p.form.specificationOptions with
    | (some id, specifications) =>
      { p with specifications, form := p.form.toggleSpecification id }
    | (none, specifications) => { p with specifications }
  | 3 =>
    match p.prices.press k p.form.priceOptions with
    | (some id, prices) => { p with prices, form := p.form.togglePrice id }
    | (none, prices) => { p with prices }
  | _ =>
    let (picked, channels) := p.channels.press k channelOptions
    match picked.bind SalesChannel.ofLabel? with
    | some c => { p with channels, form := p.form.toggleChannel c }
    | none => { p with channels }

/-- What a key does. -/
def press (p : OfferingPanel) (k : Key) : BuilderAction × List Toast × OfferingPanel :=
  let quiet (r : BuilderAction × OfferingPanel) : BuilderAction × List Toast × OfferingPanel :=
    (r.1, [], r.2)
  if k.isControl 's' then quiet p.saveDraft
  else if k.isControl 'p' then p.publish
  else if k.isControl 'r' then quiet p.reloadOptions
  else if k.isControl 'n' then quiet (p.load .new).reloadOptions
  else match k.code with
    | .tab => quiet (.none, { p with field := Panel.nextField p.field fields })
    | .backTab => quiet (.none, { p with field := Panel.previousField p.field fields })
    | _ => quiet (.none, p.pressField k)

/-- Takes the outcome of saving. -/
def completeDraft (p : OfferingPanel) (result : Except Failure Offering) :
    Toast × OfferingPanel :=
  let (_, toast, form) := p.form.completeDraft result
  (toast, { p with form, busy := none }.showForm)

/-- Takes the outcome of publishing. -/
def completePublish (p : OfferingPanel) (result : Except PublishFailure Offering) :
    PublishOutcome × Toast × OfferingPanel :=
  let (outcome, toast, form) := p.form.completePublish result
  (outcome, toast, { p with form, busy := none }.showForm)

/-- The list of the specifications. -/
def specificationList (p : OfferingPanel) : ChecklistView where
  label := "Specifications"
  options := p.form.specificationOptions
  selected := p.form.specificationIds
  state := p.specifications
  loading := p.form.loadingOptions

/-- The list of the pricing plans. -/
def priceList (p : OfferingPanel) : ChecklistView where
  label := "Pricing Plans"
  options := p.form.priceOptions
  selected := p.form.priceIds
  state := p.prices
  loading := p.form.loadingOptions

/-- The list of the sales channels, which need not be loaded. -/
def channelList (p : OfferingPanel) : ChecklistView where
  label := "Sales Channels"
  options := channelOptions
  selected := p.form.channels.map (·.label)
  state := p.channels

/-- Draws the panel. -/
def draw (p : OfferingPanel) : Drawing := fun a s =>
  let part := a.within.downward [.exactly 3, .exactly 3, .growing 1, .exactly 5]
  let column := (part 2).across [.percent 50, .percent 50]
  let s := (Panel.frame "Offering" p.form.mode (p.busy.map (·.label))).draw a s
  let s := p.name.draw (part 0) s
  let s := p.description.draw (part 1) s
  let s := p.specificationList.draw (column 0) s
  let s := p.priceList.draw (column 1) s
  p.channelList.draw (part 3) s

end OfferingPanel

end CatalogDesk
