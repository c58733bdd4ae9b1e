import CatalogDesk.Catalog.Action
import CatalogDesk.Form.Save

/-! # The form of a characteristic -/

namespace CatalogDesk

structure CharacteristicForm where
  name : String := ""
  value : String := ""
  unit : UnitOfMeasure := .none
  mode : FormMode := .create
  errors : FieldErrors := .empty
  deriving DecidableEq, Inhabited, Repr

namespace CharacteristicForm

def new : CharacteristicForm := {}

/-- The form opened with a record. -/
def edit (c : Characteristic) : CharacteristicForm :=
  { name := c.name, value := c.value, unit := c.unit, mode := .edit c.id }

/-- What is to be sent, or the messages at the fields. -/
def validate (f : CharacteristicForm) : Except FieldErrors CharacteristicDraft :=
  let errors := FieldErrors.empty
    |>.requireText "name" f.name "Name is required"
    |>.requireText "value" f.value "Value is required"
  errors.toExcept ⟨Text.trim f.name, Text.trim f.value, f.unit⟩

/-- Checks the form; its messages are those of this check. -/
def prepare (f : CharacteristicForm) :
    Option (SaveRequest CharacteristicDraft) × CharacteristicForm :=
  match f.validate with
  | .ok draft => (some ⟨f.mode, .characteristics, draft⟩, { f with errors := .empty })
  | .error errors => (none, { f with errors })

def send (r : SaveRequest CharacteristicDraft) : Work (Except Failure Characteristic) :=
  r.send CharacteristicDraft.encode Characteristic.decode

/-- Applies the outcome of saving: a form that created a record is emptied. -/
def complete (f : CharacteristicForm) (result : Except Failure Characteristic) :
    SaveOutcome Characteristic × Toast × CharacteristicForm :=
  match result with
  | .ok saved =>
    if f.mode.isEdit then (.saved saved, ⟨.success, "Characteristic updated successfully!"⟩, f)
    else (.saved saved, ⟨.success, "Characteristic created successfully!"⟩, new)
  | .error e =>
    let message := e.messageOr ("Failed to " ++ f.mode.verb ++ " characteristic")
    (.failed message, ⟨.error, message⟩, f)

/-- Checks the form, saves it and applies the outcome. -/
def submit (f : CharacteristicForm) : Work (SaveOutcome Characteristic × CharacteristicForm) :=
  submitForm f.prepare send complete

end CharacteristicForm

end CatalogDesk
