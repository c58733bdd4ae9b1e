import CatalogDesk.Catalog.Offering
import CatalogDesk.Net.Failure

/-! # Refused actions

    Actions that the rules of the catalog forbid are refused before any request is
    sent. -/

namespace CatalogDesk

/-- Why an action is refused. -/
inductive Refusal where
  | publishRequirements (missing : List PublishRequirement)
  | notPublishable (status : Lifecycle)
  | notRetirable (status : Lifecycle)
  | notDeletable (status : Lifecycle)
  | notEditable (status : Lifecycle)
  | priceLocked
  deriving DecidableEq, Inhabited, Repr

namespace Refusal

/-- Labels with commas, and the word `and` before the last of several. -/
def enumerate : List String → String
  | [] => ""
  | [only] => only
  | labels =>
    String.intercalate ", " labels.dropLast ++ ", and " ++ labels.getLast?.getD ""

def message : Refusal → String
  | .publishRequirements missing =>
    "Cannot publish: Needs at least " ++
      enumerate (missing.map PublishRequirement.label) ++ "."
  | .notPublishable s =>
    "Cannot publish: offering is " ++ s.label ++ ", only DRAFT offerings can be published."
  | .notRetirable s =>
    "Cannot retire: offering is " ++ s.label ++ ", only PUBLISHED offerings can be retired."
  | .notDeletable s => "Cannot delete: offering is " ++ s.label ++ ". Retire it first."
  | .notEditable s =>
    "Cannot edit: offering is " ++ s.label ++ ", only DRAFT offerings can be edited."
  | .priceLocked => "Pricing plan is locked by a published offering"

end Refusal

/-- Why an action on a record did not succeed. -/
inductive ActionError where
  | refused (why : Refusal)
  | request (failure : Failure)
  deriving DecidableEq, Inhabited, Repr

def ActionError.message : ActionError → String
  | .refused why => why.message
  | .request failure => failure.message

/-- Why an offering cannot be watched. -/
inductive WatchError where
  | alreadyWatching (id : RecordId)
  deriving DecidableEq, Inhabited, Repr

def WatchError.message : WatchError → String
  | .alreadyWatching id => "offering " ++ id ++ " is already being watched"

end CatalogDesk
