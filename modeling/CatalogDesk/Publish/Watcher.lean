import CatalogDesk.Publish.Watch

/-! # The watcher

    The watcher runs any number of watches, at most one of each offering: an offering
    is active from the moment its watch is accepted until the watch ends or is
    stopped.  Watches are numbered in the order in which they were accepted, and keep
    their number after their end.

    Every function here is one step of one task, from one waiting to the next. -/

namespace CatalogDesk

/-- The watches, and the settings of their polls. -/
structure Watcher where
  /-- Milliseconds between polls. -/
  interval : Nat := 2000
  maxAttempts : Nat := 30
  /-- The offerings with a watch that has not ended. -/
  active : List RecordId := []
  watches : List Watch := []
  deriving DecidableEq, Inhabited, Repr

/-- What a step of a watch leads to. -/
inductive WatchStep where
  /-- The watch sleeps until the next poll. -/
  | sleep
  /-- The watch has ended in this state. -/
  | conclude (state : WatchState)
  /-- The watch had been stopped. -/
  | nothing
  deriving DecidableEq, Inhabited, Repr

namespace Watcher

def isWatching (w : Watcher) (id : RecordId) : Bool :=
  w.active.contains id

/-- Accepts a watch, unless one of the offering is active; the number of the watch. -/
def watch (w : Watcher) (id : RecordId) : Except WatchError (Nat × Watcher) :=
  if w.isWatching id then .error (.alreadyWatching id)
  else
    .ok (w.watches.length, { w with active := w.active ++ [id], watches := w.watches ++ [{ id }] })

/-- Replaces a watch. -/
def put (w : Watcher) (handle : Nat) (watch : Watch) : Watcher :=
  { w with watches := w.watches.set handle watch }

/-- Frees the place of an offering. -/
def release (w : Watcher) (id : RecordId) : Watcher :=
  { w with active := w.active.erase id }

/-- Stops a watch; one that has ended stays as it is. -/
def stop (w : Watcher) (handle : Nat) : Watcher :=
  match w.watches[handle]? with
  | none => w
  | some x => if x.isLive then (w.put handle { x with phase := .ended }).release x.id else w

/-- Ends a watch in a state. -/
def conclude (w : Watcher) (handle : Nat) (x : Watch) (state : WatchState) :
    WatchStep × Watcher :=
  (.conclude state, (w.put handle { x with state, phase := .ended }).release x.id)

/-- Goes to a poll, if there is one left. -/
def beginAttempt (w : Watcher) (handle : Nat) (x : Watch) (attempt : Nat) :
    WatchStep × Watcher :=
  if attempt ≤ w.maxAttempts then
    (.sleep, w.put handle { x with state := .polling attempt, phase := .sleeping attempt })
  else w.conclude handle x .timedOut

/-- The first step of a watch. -/
def start (w : Watcher) (handle : Nat) : WatchStep × Watcher :=
  match w.watches[handle]? with
  | none => (.nothing, w)
  | some x => if x.phase = .starting then w.beginAttempt handle x 1 else (.nothing, w)

/-- The time of a poll has come: the request to send. -/
def ask (w : Watcher) (handle : Nat) : Option Request × Watcher :=
  match w.watches[handle]? with
  | none => (none, w)
  | some x =>
    match x.phase with
    | .sleeping attempt =>
      (some (Watch.pollRequest x.id), w.put handle { x with phase := .asking attempt })
    | _ => (none, w)

/-- Does the watch wait for the answer to a poll? -/
def isAsking (w : Watcher) (handle : Nat) : Bool :=
  (w.watches[handle]?).any fun x =>
    match x.phase with
    | .asking _ => true
    | _ => false

/-- The outcome of a poll has arrived. -/
def answer (w : Watcher) (handle : Nat) (result : Except Failure Offering) :
    WatchStep × Watcher :=
  match w.watches[handle]? with
  | none => (.nothing, w)
  | some x =>
    match x.phase with
    | .asking attempt =>
      match Watch.verdict result with
      | some state => w.conclude handle x state
      | none => w.beginAttempt handle x (attempt + 1)
    | _ => (.nothing, w)

/-- What can be seen of a watch. -/
def state? (w : Watcher) (handle : Nat) : Option WatchState :=
  (w.watches[handle]?).map (·.state)

/-- Is there nothing left to wait for? -/
def isFinished (w : Watcher) (handle : Nat) : Bool :=
  (w.watches[handle]?).all Watch.isFinished

/-- What is told to who waits for a watch; nothing while there is something left to wait
    for. -/
def wait? (w : Watcher) (handle : Nat) : Option WatchState :=
  if w.isFinished handle then w.state? handle else none

end Watcher

end CatalogDesk
