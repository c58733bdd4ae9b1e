import CatalogDesk.Screen.Builder.Action

/-! # The panel of a pricing plan -/

namespace CatalogDesk

open Draw

/-- The form of a pricing plan on the screen. -/
structure PricingPanel where
  form : PricingForm := .new
  name : TextField := { label := " Name ", placeholder := "e.g. Basic Monthly" }
  value : TextField := { label := " Price ", placeholder := "0.00", numeric := true }
  unit : TextField := { label := " Unit " }
  field : Nat := 0
  /-- Is the form being saved? -/
  busy : Bool := false
  deriving DecidableEq, Repr

namespace PricingPanel

/-- Name, price, unit and currency. -/
def fields : Nat := 4

/-- Shows the messages of the form at the fields. -/
def showErrors (p : PricingPanel) : PricingPanel :=
  { p with
    name := p.name.setError (p.form.errors.get? "name")
    value := p.value.setError (p.form.errors.get? "value")
    unit := p.unit.setError (p.form.errors.get? "unit") }

/-- Shows the form in the fields. -/
def showForm (p : PricingPanel) : PricingPanel :=
  { p with
    name := p.name.setValue p.form.name
    value := p.value.setValue p.form.value
    unit := p.unit.setValue p.form.unit }.showErrors

/-- Shows another form. -/
def load (p : PricingPanel) (form : PricingForm) : PricingPanel :=
  { p with form, field := 0 }.showForm

/-- The panel of a new plan. -/
def new : PricingPanel := showForm {}

/-- Shows where the focus is, if the panel has it. -/
def setFocused (p : PricingPanel) (focused : Bool) : PricingPanel :=
  { p with
    name := p.name.setFocused (focused && p.field == 0)
    value := p.value.setFocused (focused && p.field == 1)
    unit := p.unit.setFocused (focused && p.field == 2) }

/-- Checks what was typed and asks to save it, unless it is being saved. -/
def submit (p : PricingPanel) : BuilderAction × PricingPanel :=
  if p.busy then (.none, p)
  else
    let typed :=
      { p.form with name := p.name.value, value := p.value.value, unit := p.unit.value }
    match typed.prepare with
    | (some r, form) => (.savePricing r, { { p with form }.showErrors with busy := true })
    | (none, form) => (.none, { p with form }.showErrors)

/-- What a key does to the field that has the focus. -/
def pressField (p : PricingPanel) (k : Key) : PricingPanel :=
  match p.field with
  | 0 => { p with name := (p.name.press k).2 }
  | 1 => { p with value := (p.value.press k).2 }
  | 2 => { p with unit := (p.unit.press k).2 }
  | _ =>
    if Panel.cycles k then { p with form := { p.form with currency := p.form.currency.next } }
    else p

/-- What a key does. -/
def press (p : PricingPanel) (k : Key) : BuilderAction × PricingPanel :=
  if k.isControl 's' then p.submit
  else if k.isControl 'n' then (.none, p.load .new)
  else match k.code with
    | .tab => (.none, { p with field := Panel.nextField p.field fields })
    | .backTab => (.none, { p with field := Panel.previousField p.field fields })
    | .enter => if p.field < 3 then p.submit else (.none, p.pressField k)
    | _ => (.none, p.pressField k)

/-- Takes the outcome of saving. -/
def complete (p : PricingPanel) (result : Except Failure Price) : Toast × PricingPanel :=
  let (outcome, toast, form) := p.form.complete result
  let p := { p with form, busy := false }
  match outcome with
  | .saved _ => (toast, p.showForm)
  | _ => (toast, p)

/-- Draws the panel. -/
def draw (p : PricingPanel) : Drawing := fun a s =>
  let busy := if p.busy then some "Saving..." else none
  let part := a.within.downward [.exactly 3, .exactly 3, .growing 1]
  let column := (part 1).across [.growing 2, .growing 2, .growing 1]
  let s := (Panel.frame "Pricing Plan" p.form.mode busy).draw a s
  let s := p.name.draw (part 0) s
  let s := p.value.draw (column 0) s
  let s := p.unit.draw (column 1) s
  Panel.drawChoice "Currency" p.form.currency.label (p.field == 3) (column 2) s

end PricingPanel

end CatalogDesk
