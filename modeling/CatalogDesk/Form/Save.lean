import CatalogDesk.Catalog.Record
import CatalogDesk.Form.FieldErrors
import CatalogDesk.Task.Work
import CatalogDesk.Text.Blank

/-! # Saving a form

    A form creates a record or changes the one with which it was opened.  Saving has
    three parts: the fields are checked and a request is made of them, the request is
    sent, and its outcome is applied to the form. -/

namespace CatalogDesk

/-- Does the form create a record or change one? -/
inductive FormMode where
  | create
  | edit (id : RecordId)
  deriving DecidableEq, Inhabited, Repr

namespace FormMode

def isEdit : FormMode → Bool
  | .create => false
  | .edit _ => true

/-- What the form does, as a verb. -/
def verb : FormMode → String
  | .create => "create"
  | .edit _ => "update"

end FormMode

/-- A checked form, ready to be sent. -/
structure SaveRequest (π : Type) where
  mode : FormMode
  collection : Collection
  payload : π
  deriving DecidableEq, Inhabited, Repr

namespace SaveRequest

variable {π : Type}

/-- The path of the collection when creating, and of the record when changing it. -/
def path (r : SaveRequest π) : String :=
  match r.mode with
  | .create => r.collection.path
  | .edit id => r.collection.recordPath id

/-- Sends the form. -/
def send (r : SaveRequest π) (encode : π → Json) (read : Json → Decode.Result α) :
    Work (Except Failure α) :=
  match r.mode with
  | .create => Work.post r.path (encode r.payload) read
  | .edit _ => Work.put r.path (encode r.payload) read

end SaveRequest

/-- What became of a form that was saved. -/
inductive SaveOutcome (α : Type) where
  /-- A field is not right; the messages are at the form. -/
  | invalid
  | saved (record : α)
  | failed (message : String)
  deriving DecidableEq, Inhabited, Repr

/-- Sends a form that was checked, and applies the outcome.  A form that is not right is not
    sent. -/
def submitForm (checked : Option (SaveRequest π) × φ)
    (send : SaveRequest π → Work (Except Failure α))
    (complete : φ → Except Failure α → SaveOutcome α × Toast × φ) : Work (SaveOutcome α × φ) :=
  match checked with
  | (none, f) => .done (.invalid, f)
  | (some request, f) => do
    let result ← send request
    let (outcome, toast, f) := complete f result
    .toast toast (.done (outcome, f))

/-- An entry that can be selected. -/
structure SelectOption where
  id : RecordId
  label : String
  deriving DecidableEq, Inhabited, Repr

/-- Adds an item to a selection, or removes its first occurrence. -/
def toggle [BEq α] (selection : List α) (item : α) : List α :=
  if selection.contains item then selection.erase item else selection ++ [item]

/-- Notes a message at a field that is blank. -/
def FieldErrors.requireText (e : FieldErrors) (field value message : String) : FieldErrors :=
  e.require (Text.trim value ≠ "") field message

end CatalogDesk
