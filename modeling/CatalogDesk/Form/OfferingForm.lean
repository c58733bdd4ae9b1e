import CatalogDesk.Catalog.Action
import CatalogDesk.Form.Save

/-! # The form of an offering

    An offering is saved as a draft, or saved and then published.  Publishing asks for
    at least one specification, one pricing plan and one sales channel; saving a draft
    only for a name.  If the offering was saved but could not be published, the form
    changes that record from then on. -/

namespace CatalogDesk

/-- The records that an offering can bundle. -/
structure OfferingOptions where
  specifications : List Specification
  prices : List Price
  deriving DecidableEq, Inhabited, Repr

/-- Why an offering was not published; `saved` is the record if it was stored. -/
structure PublishFailure where
  saved : Option Offering
  failure : Failure
  deriving DecidableEq, Inhabited, Repr

structure OfferingForm where
  name : String := ""
  description : String := ""
  specificationIds : List RecordId := []
  priceIds : List RecordId := []
  channels : List SalesChannel := [.online]
  specificationOptions : List SelectOption := []
  priceOptions : List SelectOption := []
  loadingOptions : Bool := false
  mode : FormMode := .create
  errors : FieldErrors := .empty
  deriving DecidableEq, Inhabited, Repr

/-- What became of an attempt to publish that was sent. -/
inductive PublishOutcome where
  /-- The backend has begun to publish. -/
  | accepted (offering : Offering)
  | failed (message : String)
  deriving DecidableEq, Inhabited, Repr

/-- What a check before publishing comes to. -/
inductive PublishCheck where
  /-- A field is not right; the messages are at the form. -/
  | invalid
  | refused (why : Refusal)
  | ready (request : SaveRequest OfferingDraft)
  deriving DecidableEq, Inhabited, Repr

/-- What an attempt to publish comes to. -/
inductive PublishAttempt where
  /-- A field is not right; the messages are at the form. -/
  | invalid
  | refused (why : Refusal)
  | failed (message : String)
  /-- The backend has begun to publish; the number of the watch, unless the offering is
      watched already. -/
  | started (offering : Offering) (watch : Option Nat)
  deriving DecidableEq, Inhabited, Repr

namespace OfferingForm

def new : OfferingForm := {}

/-- The form opened with an offering, which must be a draft. -/
def edit (o : Offering) : Except Refusal OfferingForm :=
  if o.isEditable then
    .ok { name := o.name, description := o.description.getD "",
          specificationIds := o.specificationIds, priceIds := o.priceIds,
          channels := o.channels, mode := .edit o.id }
  else .error (.notEditable o.status)

def toggleSpecification (f : OfferingForm) (id : RecordId) : OfferingForm :=
  { f with specificationIds := toggle f.specificationIds id }

def togglePrice (f : OfferingForm) (id : RecordId) : OfferingForm :=
  { f with priceIds := toggle f.priceIds id }

def toggleChannel (f : OfferingForm) (c : SalesChannel) : OfferingForm :=
  { f with channels := toggle f.channels c }

/-- An empty form with the options of this one. -/
def reset (f : OfferingForm) : OfferingForm :=
  { new with specificationOptions := f.specificationOptions, priceOptions := f.priceOptions }

/-! ## Options -/

def beginOptions (f : OfferingForm) : OfferingForm :=
  { f with loadingOptions := true }

/-- Loads specifications and pricing plans at once. -/
def fetchOptions : Work (Except Failure OfferingOptions) := do
  let result ← Work.getBoth
    Collection.specifications.path (Decode.list Specification.decode)
    Collection.prices.path (Decode.list Price.decode)
  return result.map fun (specifications, prices) => ⟨specifications, prices⟩

/-- Takes over loaded options; a failure leaves the form as it is and is shown. -/
def applyOptions (f : OfferingForm) (result : Except Failure OfferingOptions) :
    List Toast × OfferingForm :=
  match result with
  | .ok options =>
    ([], { f with
      loadingOptions := false,
      specificationOptions := options.specifications.map fun s => ⟨s.id, s.name⟩,
      priceOptions := options.prices.map fun p =>
        ⟨p.id, p.name ++ " (" ++ p.displayAmount ++ ")"⟩ })
  | .error _ =>
    ([⟨.error, "Failed to load dependencies"⟩], { f with loadingOptions := false })

/-! ## Saving -/

/-- What is to be sent, or the messages at the fields. -/
def validate (f : OfferingForm) : Except FieldErrors OfferingDraft :=
  let errors := FieldErrors.empty.requireText "name" f.name "Name is required"
  let description := Text.trim f.description
  errors.toExcept ⟨Text.trim f.name, if description = "" then none else some description,
    f.specificationIds, f.priceIds, f.channels⟩

/-- Checks the form; its messages are those of this check. -/
def prepareDraft (f : OfferingForm) : Option (SaveRequest OfferingDraft) × OfferingForm :=
  match f.validate with
  | .ok draft => (some ⟨f.mode, .offerings, draft⟩, { f with errors := .empty })
  | .error errors => (none, { f with errors })

def send (r : SaveRequest OfferingDraft) : Work (Except Failure Offering) :=
  r.send OfferingDraft.encode Offering.decode

/-- Applies the outcome of saving a draft: a form that created a record is emptied. -/
def completeDraft (f : OfferingForm) (result : Except Failure Offering) :
    SaveOutcome Offering × Toast × OfferingForm :=
  match result with
  | .ok saved =>
    (.saved saved, ⟨.success, "Offering draft saved!"⟩, if f.mode.isEdit then f else f.reset)
  | .error e =>
    let message := e.messageOr "Failed to save draft"
    (.failed message, ⟨.error, message⟩, f)

/-- Checks the form, saves it and applies the outcome. -/
def saveDraft (f : OfferingForm) : Work (SaveOutcome Offering × OfferingForm) :=
  match f.prepareDraft with
  | (none, f) => .done (.invalid, f)
  | (some request, f) => do
    let result ← send request
    let (outcome, toast, f) := f.completeDraft result
    .toast toast (.done (outcome, f))

/-! ## Publishing -/

/-- Checks the fields and then what publishing asks for. -/
def preparePublish (f : OfferingForm) : PublishCheck × List Toast × OfferingForm :=
  match f.prepareDraft with
  | (none, f) => (.invalid, [], f)
  | (some request, f) =>
    let missing := PublishRequirement.missing request.payload.specificationIds
      request.payload.priceIds request.payload.channels
    if missing = [] then
      (.ready request, [⟨.info, "Initiating publication saga..."⟩], f)
    else
      let why := Refusal.publishRequirements missing
      (.refused why, [⟨.error, why.message⟩], f)

/-- Saves the offering and asks the backend to publish what was saved. -/
def sendPublish (r : SaveRequest OfferingDraft) : Work (Except PublishFailure Offering) := do
  match ← send r with
  | .error failure => return .error ⟨none, failure⟩
  | .ok saved =>
    match ← Work.request (Offering.actionRequest saved.id "publish") with
    | .ok _ => return .ok saved
    | .error failure => return .error ⟨some saved, failure⟩

/-- Applies the outcome of publishing.  An accepted offering is to be watched. -/
def completePublish (f : OfferingForm) (result : Except PublishFailure Offering) :
    PublishOutcome × Toast × OfferingForm :=
  match result with
  | .ok offering => (.accepted offering, ⟨.success, publishStartedMessage⟩, f.reset)
  | .error e =>
    let mode := match e.saved with
      | some saved => .edit saved.id
      | none => f.mode
    let message := e.failure.messageOr "Failed to initiate publication"
    (.failed message, ⟨.error, message⟩, { f with mode })

/-- Checks the form, saves and publishes it, and applies the outcome.  An offering that was
    accepted is watched. -/
def publish (f : OfferingForm) : Work (PublishAttempt × OfferingForm) :=
  match f.preparePublish with
  | (.invalid, toasts, f) => Work.showAll toasts (.done (.invalid, f))
  | (.refused why, toasts, f) => Work.showAll toasts (.done (.refused why, f))
  | (.ready request, toasts, f) => Work.showAll toasts do
    let result ← sendPublish request
    let (outcome, toast, f) := f.completePublish result
    .toast toast <|
      match outcome with
      | .accepted o => .watch o.id fun watch => .done (.started o watch.toOption, f)
      | .failed message => .done (.failed message, f)

end OfferingForm

end CatalogDesk
