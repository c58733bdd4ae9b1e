import CatalogDesk.Catalog.Action
import CatalogDesk.Form.Save

/-! # The form of a specification

    A specification selects characteristics from options that are loaded apart from the
    form; the form can be used before they are there. -/

namespace CatalogDesk

structure SpecificationForm where
  name : String := ""
  characteristicIds : List RecordId := []
  options : List SelectOption := []
  loadingOptions : Bool := false
  mode : FormMode := .create
  errors : FieldErrors := .empty
  deriving DecidableEq, Inhabited, Repr

namespace SpecificationForm

def new : SpecificationForm := {}

/-- The form opened with a record. -/
def edit (s : Specification) : SpecificationForm :=
  { name := s.name, characteristicIds := s.characteristicIds, mode := .edit s.id }

def toggleCharacteristic (f : SpecificationForm) (id : RecordId) : SpecificationForm :=
  { f with characteristicIds := toggle f.characteristicIds id }

/-! ## Options -/

def beginOptions (f : SpecificationForm) : SpecificationForm :=
  { f with loadingOptions := true }

/-- Loads the characteristics that can be selected. -/
def fetchOptions : Work (Except Failure (List Characteristic)) :=
  Work.get Collection.characteristics.path [] (Decode.list Characteristic.decode)

/-- The option of a characteristic, with its value. -/
def optionOf (c : Characteristic) : SelectOption :=
  ⟨c.id, if c.unit = .none then c.name ++ ": " ++ c.value
    else c.name ++ ": " ++ c.value ++ " " ++ c.unit.label⟩

/-- Takes over loaded options; a failure leaves the form as it is and is shown. -/
def applyOptions (f : SpecificationForm) (result : Except Failure (List Characteristic)) :
    List Toast × SpecificationForm :=
  match result with
  | .ok cs => ([], { f with loadingOptions := false, options := cs.map optionOf })
  | .error _ =>
    ([⟨.error, "Failed to load characteristics"⟩], { f with loadingOptions := false })

/-! ## Saving -/

/-- What is to be sent, or the messages at the fields. -/
def validate (f : SpecificationForm) : Except FieldErrors SpecificationDraft :=
  let errors := FieldErrors.empty
    |>.requireText "name" f.name "Name is required"
    |>.require (!f.characteristicIds.isEmpty) "characteristic_ids"
      "Select at least one characteristic"
  errors.toExcept ⟨Text.trim f.name, f.characteristicIds⟩

/-- Checks the form; its messages are those of this check. -/
def prepare (f : SpecificationForm) :
    Option (SaveRequest SpecificationDraft) × SpecificationForm :=
  match f.validate with
  | .ok draft => (some ⟨f.mode, .specifications, draft⟩, { f with errors := .empty })
  | .error errors => (none, { f with errors })

def send (r : SaveRequest SpecificationDraft) : Work (Except Failure Specification) :=
  r.send SpecificationDraft.encode Specification.decode

/-- Applies the outcome of saving: a form that created a record is emptied, and keeps
    its options. -/
def complete (f : SpecificationForm) (result : Except Failure Specification) :
    SaveOutcome Specification × Toast × SpecificationForm :=
  match result with
  | .ok saved =>
    if f.mode.isEdit then (.saved saved, ⟨.success, "Specification updated successfully!"⟩, f)
    else
      (.saved saved, ⟨.success, "Specification created successfully!"⟩,
        { f with name := "", characteristicIds := [], errors := .empty })
  | .error e =>
    let message := e.messageOr ("Failed to " ++ f.mode.verb ++ " specification")
    (.failed message, ⟨.error, message⟩, f)

/-- Checks the form, saves it and applies the outcome. -/
def submit (f : SpecificationForm) : Work (SaveOutcome Specification × SpecificationForm) :=
  submitForm f.prepare send complete

end SpecificationForm

end CatalogDesk
