import CatalogDesk.Screen.Builder.Action

/-! # The panel of a characteristic -/

namespace CatalogDesk

open Draw

/-- The form of a characteristic on the screen. -/
structure CharacteristicPanel where
  form : CharacteristicForm := .new
  name : TextField := { label := " Name ", placeholder := "e.g. Download Speed" }
  value : TextField := { label := " Value ", placeholder := "e.g. 500" }
  field : Nat := 0
  /-- Is the form being saved? -/
  busy : Bool := false
  deriving DecidableEq, Repr

namespace CharacteristicPanel

/-- Name, value and unit. -/
def fields : Nat := 3

/-- Shows the messages of the form at the fields. -/
def showErrors (p : CharacteristicPanel) : CharacteristicPanel :=
  { p with
    name := p.name.setError (p.form.errors.get? "name")
    value := p.value.setError (p.form.errors.get? "value") }

/-- Shows the form in the fields. -/
def showForm (p : CharacteristicPanel) : CharacteristicPanel :=
  { p with
    name := p.name.setValue p.form.name
    value := p.value.setValue p.form.value }.showErrors

/-- Shows another form. -/
def load (p : CharacteristicPanel) (form : CharacteristicForm) : CharacteristicPanel :=
  { p with form, field := 0 }.showForm

/-- Shows where the focus is, if the panel has it. -/
def setFocused (p : CharacteristicPanel) (focused : Bool) : CharacteristicPanel :=
  { p with
    name := p.name.setFocused (focused && p.field == 0)
    value := p.value.setFocused (focused && p.field == 1) }

/-- Checks what was typed and asks to save it, unless it is being saved. -/
def submit (p : CharacteristicPanel) : BuilderAction × CharacteristicPanel :=
  if p.busy then (.none, p)
  else
    let typed := { p.form with name := p.name.value, value := p.value.value }
    match typed.prepare with
    | (some r, form) => (.saveCharacteristic r, { { p with form }.showErrors with busy := true })
    | (none, form) => (.none, { p with form }.showErrors)

/-- What a key does to the field that has the focus. -/
def pressField (p : CharacteristicPanel) (k : Key) : CharacteristicPanel :=
  match p.field with
  | 0 => { p with name := (p.name.press k).2 }
  | 1 => { p with value := (p.value.press k).2 }
  | _ =>
    if Panel.cycles k then { p with form := { p.form with unit := p.form.unit.next } } else p

/-- What a key does. -/
def press (p : CharacteristicPanel) (k : Key) : BuilderAction × CharacteristicPanel :=
  if k.isControl 's' then p.submit
  else if k.isControl 'n' then (.none, p.load .new)
  else match k.code with
    | .tab => (.none, { p with field := Panel.nextField p.field fields })
    | .backTab => (.none, { p with field := Panel.previousField p.field fields })
    | .enter => if p.field < 2 then p.submit else (.none, p.pressField k)
    | _ => (.none, p.pressField k)

/-- Takes the outcome of saving. -/
def complete (p : CharacteristicPanel) (result : Except Failure Characteristic) :
    Toast × CharacteristicPanel :=
  let (outcome, toast, form) := p.form.complete result
  let p := { p with form, busy := false }
  match outcome with
  | .saved _ => (toast, p.showForm)
  | _ => (toast, p)

/-- Draws the panel. -/
def draw (p : CharacteristicPanel) : Drawing := fun a s =>
  let busy := if p.busy then some "Saving..." else none
  let part := a.within.downward [.exactly 3, .exactly 3, .exactly 3, .growing 1]
  let s := (Panel.frame "Characteristic" p.form.mode busy).draw a s
  let s := p.name.draw (part 0) s
  let s := p.value.draw (part 1) s
  Panel.drawChoice "Unit of measure" p.form.unit.label (p.field == 2) (part 2) s

end CharacteristicPanel

end CatalogDesk
