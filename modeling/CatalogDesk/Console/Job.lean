import CatalogDesk.Catalog.Action
import CatalogDesk.Screen.Builder.Action
import CatalogDesk.Session.Login
import CatalogDesk.Store.Search

/-! # Jobs

    What the console has done in the background.  A job is plain data, so the console can
    be followed without its surroundings; `Job.work` says which requests the job takes,
    and ends with the one outcome that answers it. -/

namespace CatalogDesk

/-- A job for the background. -/
inductive Job
  | signIn (c : Credentials)
  | saveCharacteristic (r : SaveRequest CharacteristicDraft)
  | saveSpecification (r : SaveRequest SpecificationDraft)
  | savePrice (r : SaveRequest PriceDraft)
  | saveDraft (r : SaveRequest OfferingDraft)
  /-- To save an offering from its form and publish it. -/
  | submitOffering (r : SaveRequest OfferingDraft)
  /-- To fetch what a specification can be made of. -/
  | fetchCharacteristics
  /-- To fetch what an offering can be made of. -/
  | fetchOptions
  | list (c : Collection)
  | delete (r : CatalogRecord)
  /-- To publish an offering of the table. -/
  | publish (o : Offering)
  | retire (o : Offering)
  | search (t : SearchTicket)
  deriving DecidableEq, Repr

/-- What comes back from the background: the answers to jobs, and what the watches and
    the debouncer report by themselves. -/
inductive Outcome
  | signedIn (result : Except AuthError User)
  | characteristicSaved (result : Except Failure Characteristic)
  | specificationSaved (result : Except Failure Specification)
  | priceSaved (result : Except Failure Price)
  | draftSaved (result : Except Failure Offering)
  | offeringSubmitted (result : Except PublishFailure Offering)
  | characteristicsFetched (result : Except Failure (List Characteristic))
  | optionsFetched (result : Except Failure OfferingOptions)
  | listed (c : Collection) (result : Except Failure CatalogRecords)
  /-- An action on a record of the collection has ended, perhaps with a watch. -/
  | recordDone (c : Collection) (result : Except ActionError (Option Nat))
  | searched (t : SearchTicket) (result : Except Failure SearchPage)
  /-- A watched offering was published. -/
  | published (o : Offering)
  /-- No other edit of the filters has followed for a while. -/
  | settled (f : Filters)

/-- An action without a watch. -/
def unwatched (result : Except ActionError Unit) : Except ActionError (Option Nat) :=
  result.map fun _ => none

/-- What the job takes. -/
def Job.work : Job → Work Outcome
  | .signIn c => return .signedIn (← c.login)
  | .saveCharacteristic r => return .characteristicSaved (← CharacteristicForm.send r)
  | .saveSpecification r => return .specificationSaved (← SpecificationForm.send r)
  | .savePrice r => return .priceSaved (← PricingForm.send r)
  | .saveDraft r => return .draftSaved (← OfferingForm.send r)
  | .submitOffering r => return .offeringSubmitted (← OfferingForm.sendPublish r)
  | .fetchCharacteristics => return .characteristicsFetched (← SpecificationForm.fetchOptions)
  | .fetchOptions => return .optionsFetched (← OfferingForm.fetchOptions)
  | .list c => return .listed c (← c.list)
  | .delete r => return .recordDone r.collection (unwatched (← r.delete))
  | .publish o => return .recordDone .offerings (← o.publish)
  | .retire o => return .recordDone .offerings (unwatched (← o.retire))
  | .search t => return .searched t (← t.search)

/-- The job that the builder asks for, if any. -/
def Job.ofBuilder? : BuilderAction → Option Job
  | .none => none
  | .saveCharacteristic r => some (.saveCharacteristic r)
  | .saveSpecification r => some (.saveSpecification r)
  | .savePricing r => some (.savePrice r)
  | .saveDraft r => some (.saveDraft r)
  | .publish r => some (.submitOffering r)
  | .loadSpecificationOptions => some .fetchCharacteristics
  | .loadOfferingOptions => some .fetchOptions

end CatalogDesk
