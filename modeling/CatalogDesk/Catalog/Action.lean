import CatalogDesk.Catalog.Record
import CatalogDesk.Catalog.Refusal
import CatalogDesk.Task.Work
import CatalogDesk.Text.Case

/-! # Actions on records

    Listing a collection, and deleting, retiring and publishing single records.  Every
    action on a record ends with one notice; one that the rules forbid is refused before
    a request is sent. -/

namespace CatalogDesk

/-- The message of a failed request, or another one where that would be blank. -/
def Failure.messageOr (f : Failure) (fallback : String) : String :=
  if Text.trim f.message = "" then fallback else f.message

/-- Says that the backend has begun to publish. -/
def publishStartedMessage : String := "Publication saga started! Check status in Viewer."

namespace Collection

/-- Reads the records of the collection; a failure is shown. -/
def list (c : Collection) : Work (Except Failure CatalogRecords) := do
  let result ← Work.get c.path [] (CatalogRecords.decode c)
  match result with
  | .ok records => return .ok records
  | .error f =>
    Work.notify .error ("Failed to load " ++ Text.toLower c.title)
    return .error f

end Collection

namespace CatalogRecord

/-- Shows why an action is refused. -/
def refuse (why : Refusal) : Work (Except ActionError α) := do
  Work.notify .error why.message
  return .error (.refused why)

/-- Shows that the request of an action failed. -/
def fail (f : Failure) (fallback : String) : Work (Except ActionError α) := do
  Work.notify .error (f.messageOr fallback)
  return .error (.request f)

/-- Why the record must not be deleted. -/
def deleteRefusal? : CatalogRecord → Option Refusal
  | .price p => if p.isEditable then none else some .priceLocked
  | .offering o => if o.canDelete then none else some (.notDeletable o.status)
  | _ => none

/-- Deletes the record. -/
def delete (r : CatalogRecord) : Work (Except ActionError Unit) :=
  match r.deleteRefusal? with
  | some why => refuse why
  | none => do
    let result ← Work.delete (r.collection.recordPath r.id)
    match result with
    | .error f => fail f ("Failed to delete " ++ Text.toLower r.collection.singular)
    | .ok () =>
      Work.notify .success (r.collection.singular ++ " deleted successfully!")
      return .ok ()

end CatalogRecord

namespace Offering

/-- The path of an action on the offering. -/
def actionPath (id : RecordId) (action : String) : String :=
  Collection.offerings.recordPath id ++ "/" ++ action

/-- The request of an action. -/
def actionRequest (id : RecordId) (action : String) : Request :=
  { method := .post, path := actionPath id action }

/-- Retires the offering. -/
def retire (o : Offering) : Work (Except ActionError Unit) :=
  if !o.canRetire then CatalogRecord.refuse (.notRetirable o.status)
  else do
    let reply ← Work.request (actionRequest o.id "retire")
    match reply with
    | .error f => CatalogRecord.fail f "Failed to retire offering"
    | .ok _ =>
      Work.notify .success ("\"" ++ o.name ++ "\" retired")
      return .ok ()

/-- Why the offering must not be published. -/
def publishRefusal? (o : Offering) : Option Refusal :=
  if o.status ≠ .draft then some (.notPublishable o.status)
  else if o.missingRequirements ≠ [] then some (.publishRequirements o.missingRequirements)
  else none

/-- Publishes the offering and watches it; the number of the watch, unless the offering
    is watched already. -/
def publish (o : Offering) : Work (Except ActionError (Option Nat)) :=
  match o.publishRefusal? with
  | some why => CatalogRecord.refuse why
  | none => do
    let reply ← Work.request (actionRequest o.id "publish")
    match reply with
    | .error f => CatalogRecord.fail f "Failed to initiate publication"
    | .ok _ =>
      Work.notify .success publishStartedMessage
      .watch o.id fun handle => .done (.ok handle.toOption)

end Offering

end CatalogDesk
