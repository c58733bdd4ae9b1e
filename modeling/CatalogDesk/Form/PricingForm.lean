import CatalogDesk.Catalog.Action
import CatalogDesk.Form.Save

/-! # The form of a pricing plan

    The amount is kept as it is typed and read as a number when the form is checked. -/

namespace CatalogDesk

structure PricingForm where
  name : String := ""
  /-- The amount as typed. -/
  value : String := ""
  unit : String := "per month"
  currency : Currency := .usd
  mode : FormMode := .create
  errors : FieldErrors := .empty
  deriving DecidableEq, Inhabited, Repr

namespace PricingForm

def new : PricingForm := {}

/-- The form opened with a plan; a locked plan cannot be opened. -/
def edit (p : Price) : Except Refusal PricingForm :=
  if p.isEditable then
    .ok { name := p.name, value := p.value.text, unit := p.unit, currency := p.currency,
          mode := .edit p.id }
  else .error .priceLocked

/-- The amount that a text stands for, or what is wrong with it. -/
def amountOf (s : String) : Except String Binary64 :=
  match Binary64.ofText (Text.trim s) with
  | .ok x => if x.isFinite && x.isPositive then .ok x else .error "Price must be positive"
  | .error _ => .error "Price must be a number"

/-- What is to be sent, or the messages at the fields. -/
def validate (f : PricingForm) : Except FieldErrors PriceDraft :=
  let errors := FieldErrors.empty.requireText "name" f.name "Name is required"
  let (amount, errors) := match amountOf f.value with
    | .ok x => (x, errors)
    | .error message => (Binary64.zero, errors.add "value" message)
  let errors := errors.requireText "unit" f.unit "Unit is required"
  errors.toExcept ⟨Text.trim f.name, amount, Text.trim f.unit, f.currency⟩

/-- Checks the form; its messages are those of this check. -/
def prepare (f : PricingForm) : Option (SaveRequest PriceDraft) × PricingForm :=
  match f.validate with
  | .ok draft => (some ⟨f.mode, .prices, draft⟩, { f with errors := .empty })
  | .error errors => (none, { f with errors })

def send (r : SaveRequest PriceDraft) : Work (Except Failure Price) :=
  r.send PriceDraft.encode Price.decode

/-- Applies the outcome of saving: a form that created a record is emptied. -/
def complete (f : PricingForm) (result : Except Failure Price) :
    SaveOutcome Price × Toast × PricingForm :=
  match result with
  | .ok saved =>
    if f.mode.isEdit then (.saved saved, ⟨.success, "Pricing plan updated successfully!"⟩, f)
    else (.saved saved, ⟨.success, "Pricing plan created successfully!"⟩, new)
  | .error e =>
    let message := e.messageOr ("Failed to " ++ f.mode.verb ++ " pricing")
    (.failed message, ⟨.error, message⟩, f)

/-- Checks the form, saves it and applies the outcome. -/
def submit (f : PricingForm) : Work (SaveOutcome Price × PricingForm) :=
  submitForm f.prepare send complete

end PricingForm

end CatalogDesk
