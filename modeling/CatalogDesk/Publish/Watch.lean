import CatalogDesk.Catalog.Record
import CatalogDesk.Catalog.Offering
import CatalogDesk.Net.Failure
import CatalogDesk.Notice.Basic
import CatalogDesk.Task.Work

/-! # Watching a publication

    After the backend has accepted to publish an offering, the offering is polled until
    it is published, cannot be published any more, or the polls are used up.  A watch
    passes through its polls one by one; between them it sleeps, and during a poll it
    waits for the answer. -/

namespace CatalogDesk

/-- What can be seen of a watch. -/
inductive WatchState where
  | idle
  | polling (attempt : Nat)
  | succeeded (offering : Offering)
  | failed (reason : String)
  | timedOut
  deriving DecidableEq, Inhabited, Repr

/-- Has the watch come to its end by itself? -/
def WatchState.isTerminal : WatchState → Bool
  | .succeeded _ => true
  | .failed _ => true
  | .timedOut => true
  | _ => false

/-- Where the task of a watch is. -/
inductive WatchPhase where
  /-- Before its first step. -/
  | starting
  /-- Before a poll, waiting for its time. -/
  | sleeping (attempt : Nat)
  /-- During a poll, waiting for the answer. -/
  | asking (attempt : Nat)
  /-- The task has come to its end, or was stopped. -/
  | ended
  deriving DecidableEq, Inhabited, Repr

/-- A watch of one offering. -/
structure Watch where
  id : RecordId
  state : WatchState := .idle
  phase : WatchPhase := .starting
  deriving DecidableEq, Inhabited, Repr

namespace Watch

/-- Is the task still there? -/
def isLive (w : Watch) : Bool :=
  w.phase != .ended

/-- Is there nothing left to wait for? -/
def isFinished (w : Watch) : Bool :=
  w.state.isTerminal || !w.isLive

/-- The request of a poll. -/
def pollRequest (id : RecordId) : Request :=
  { method := .get, path := Collection.offerings.recordPath id }

/-- What the answer to a poll decides: nothing if the watch has to go on. -/
def verdict : Except Failure Offering → Option WatchState
  | .ok o =>
    match o.status with
    | .published => some (.succeeded o)
    | .retired =>
      some (.failed ("\"" ++ o.name ++ "\" was retired before it was published"))
    | .draft => none
    | .publishing => none
  | .error f =>
    if f.isUnauthorized then some (.failed "Session expired while waiting for publication")
    else if f.status = some 403 || f.status = some 404 then some (.failed f.message)
    else none

/-- The notice at the end of a watch. -/
def closingToast? : WatchState → Option Toast
  | .succeeded o => some ⟨.success, "\"" ++ o.name ++ "\" is now published!"⟩
  | .failed reason => some ⟨.error, "Publication failed: " ++ reason⟩
  | .timedOut =>
    some ⟨.error, "Publication is taking longer than expected. Check its status in the Viewer."⟩
  | _ => none

/-- The offering that the end of a watch reports as published. -/
def published? : WatchState → Option Offering
  | .succeeded o => some o
  | _ => none

end Watch

end CatalogDesk
