import CatalogDesk.Screen.Builder.Action

/-! # The panel of a specification -/

namespace CatalogDesk

open Draw

/-- The form of a specification on the screen. -/
structure SpecificationPanel where
  form : SpecificationForm := .new
  name : TextField := { label := " Name ", placeholder := "e.g. Fiber Router" }
  characteristics : Checklist := {}
  field : Nat := 0
  /-- Is the form being saved? -/
  busy : Bool := false
  deriving DecidableEq, Repr

namespace SpecificationPanel

/-- Name and characteristics. -/
def fields : Nat := 2

/-- Shows the form and its messages in the fields. -/
def showForm (p : SpecificationPanel) : SpecificationPanel :=
  { p with name := (p.name.setValue p.form.name).setError (p.form.errors.get? "name") }

/-- Shows another form, without its options. -/
def load (p : SpecificationPanel) (form : SpecificationForm) : SpecificationPanel :=
  { p with form, field := 0 }.showForm

/-- Asks for the options anew. -/
def reloadOptions (p : SpecificationPanel) : BuilderAction × SpecificationPanel :=
  (.loadSpecificationOptions, { p with form := p.form.beginOptions })

/-- Takes the options that were loaded. -/
def applyOptions (p : SpecificationPanel) (result : Except Failure (List Characteristic)) :
    List Toast × SpecificationPanel :=
  let (toasts, form) := p.form.applyOptions result
  (toasts, { p with form })

/-- Shows where the focus is, if the panel has it. -/
def setFocused (p : SpecificationPanel) (focused : Bool) : SpecificationPanel :=
  { p with
    name := p.name.setFocused (focused && p.field == 0)
    characteristics := p.characteristics.setFocused (focused && p.field == 1) }

/-- Checks what was typed and asks to save it, unless it is being saved. -/
def submit (p : SpecificationPanel) : BuilderAction × SpecificationPanel :=
  if p.busy then (.none, p)
  else
    match { p.form with name := p.name.value }.prepare with
    | (some r, form) => (.saveSpecification r, { { p with form }.showForm with busy := true })
    | (none, form) => (.none, { p with form }.showForm)

/-- What a key does to the field that has the focus. -/
def pressField (p : SpecificationPanel) (k : Key) : SpecificationPanel :=
  match p.field with
  | 0 => { p with name := (p.name.press k).2 }
  | _ =>
    match p.characteristics.press k p.form.options with
    | (some id, characteristics) =>
      { p with characteristics, form := p.form.toggleCharacteristic id }
    | (none, characteristics) => { p with characteristics }

/-- What a key does. -/
def press (p : SpecificationPanel) (k : Key) : BuilderAction × SpecificationPanel :=
  if k.isControl 's' then p.submit
  else if k.isControl 'r' then p.reloadOptions
  else if k.isControl 'n' then (p.load .new).reloadOptions
  else match k.code with
    | .tab => (.none, { p with field := Panel.nextField p.field fields })
    | .backTab => (.none, { p with field := Panel.previousField p.field fields })
    | .enter => if p.field == 0 then p.submit else (.none, p.pressField k)
    | _ => (.none, p.pressField k)

/-- Takes the outcome of saving. -/
def complete (p : SpecificationPanel) (result : Except Failure Specification) :
    Toast × SpecificationPanel :=
  let (_, toast, form) := p.form.complete result
  (toast, { p with form, busy := false }.showForm)

/-- The list of the characteristics. -/
def list (p : SpecificationPanel) : ChecklistView where
  label := "Characteristics"
  options := p.form.options
  selected := p.form.characteristicIds
  state := p.characteristics
  loading := p.form.loadingOptions
  error := p.form.errors.get? "characteristic_ids"

/-- Draws the panel. -/
def draw (p : SpecificationPanel) : Drawing := fun a s =>
  let busy := if p.busy then some "Saving..." else none
  let part := a.within.downward [.exactly 3, .growing 1]
  let s := (Panel.frame "Specification" p.form.mode busy).draw a s
  p.list.draw (part 1) (p.name.draw (part 0) s)

end SpecificationPanel

end CatalogDesk
