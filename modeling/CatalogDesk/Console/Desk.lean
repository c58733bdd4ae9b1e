import CatalogDesk.Console.Steps
import CatalogDesk.Task.Scheduler

/-! # The console at work

    A desk is the console with the background work that it ordered.  Whatever comes back
    from the background waits in queues: changes of the session, notices, and outcomes.
    The queues are emptied in this order whenever the background has nothing left to do
    at the moment; what the console orders meanwhile is carried out at once, and may fill
    the queues again. -/

namespace CatalogDesk

/-- The console and the background. -/
structure Desk where
  console : Console
  scheduler : Scheduler Outcome := {}
  /-- Outcomes that the console has not taken yet. -/
  outcomes : List Outcome := []
  /-- The time by which notices are displayed. -/
  wall : Int := 0
  /-- Notices queued so far that nobody has looked at. -/
  shown : List Toast := []

namespace Desk

/-- The desk with the settings and a session that was stored; whoever loses the session
    has to sign in again. -/
def new (s : Settings) (r : Remembered) (gateway : Gateway) (store : SessionStore) : Desk where
  console := .new s r
  scheduler :=
    { gateway, context := .restore store .endSession,
      watcher := { interval := s.publish.interval, maxAttempts := s.publish.maxAttempts } }

/-- What the console sees. -/
def surroundings (d : Desk) : Surroundings where
  session := d.scheduler.context
  now := d.scheduler.now
  wall := d.wall

/-! ## Orders -/

/-- Carries out an order. -/
def carryOut (d : Desk) : Order → Desk
  | .job j => { d with scheduler := d.scheduler.spawn j.work }
  | .toast t => { d with scheduler := d.scheduler.addToast t }
  | .logout => { d with scheduler := { d.scheduler with context := d.scheduler.context.logout } }
  | .watch id =>
    match d.scheduler.startWatch id with
    | (.ok handle, scheduler) => { d with scheduler, console := d.console.keep [handle] }
    | (.error _, scheduler) => { d with scheduler }
  | .remind delay => { d with scheduler := d.scheduler.ringAfter delay }

/-- The console after a step, with its orders carried out. -/
def follow (d : Desk) (p : List Order × Console) : Desk :=
  p.1.foldl carryOut { d with console := p.2 }

/-- Opens the first screen. -/
def start (d : Desk) : Desk := d.follow (d.console.start d.scheduler.context)

/-- Presses a key. -/
def press (d : Desk) (k : Key) : Desk := d.follow (d.console.press d.surroundings k)

/-- Lets the console see that time has passed. -/
def tick (d : Desk) : Desk :=
  { d with console := d.console.tick d.scheduler.watcher d.wall }

/-! ## The queues -/

/-- Queues what the background tells.  When a bell rings, an edit of the filters is due,
    unless another one has followed. -/
def queue (d : Desk) : TaskEvent Outcome → Desk
  | .finished o => { d with outcomes := d.outcomes ++ [o] }
  | .published o => { d with outcomes := d.outcomes ++ [.published o] }
  | .rang =>
    let (edit, edits) := d.console.edits.deliver d.scheduler.now
    { d with
      console := { d.console with edits }
      outcomes := d.outcomes ++ edit.toList.map .settled }

/-- Runs the background work that is ready, and queues what it tells. -/
def work (d : Desk) : Desk :=
  let scheduler := d.scheduler.settle
  scheduler.events.foldl queue { d with scheduler := { scheduler with events := [] } }

/-- The console hears of the changes of the session. -/
def attendSession (d : Desk) : Desk :=
  let context := d.scheduler.context
  context.events.foldl (fun d e => d.follow (d.console.hear e))
    { d with scheduler := { d.scheduler with context := { context with events := [] } } }

/-- The console queues the notices. -/
def attendToasts (d : Desk) : Desk :=
  let toasts := d.scheduler.toasts
  { d with
    scheduler := { d.scheduler with toasts := [] }
    console := toasts.foldl Console.display d.console
    shown := d.shown ++ toasts }

/-- The console takes the outcomes. -/
def attendOutcomes (d : Desk) : Desk :=
  d.outcomes.foldl (fun d o => d.follow (d.console.take d.scheduler.context o))
    { d with outcomes := [] }

/-- Is there nothing to do until time passes? -/
def isIdle (d : Desk) : Bool :=
  d.scheduler.ready.isEmpty && d.scheduler.starting.isEmpty && d.scheduler.events.isEmpty &&
    d.scheduler.context.events.isEmpty && d.scheduler.toasts.isEmpty && d.outcomes.isEmpty

/-- One round: the background works, and the queues are emptied. -/
def round (d : Desk) : Desk := d.work.attendSession.attendToasts.attendOutcomes

/-- Goes on until there is nothing to do, for so many rounds at most. -/
def settleWithin (d : Desk) : Nat → Desk
  | 0 => d
  | fuel + 1 => if d.isIdle then d else d.round.settleWithin fuel

/-- More rounds than it takes.  Signing in, a watch that was begun, and an action on a
    record may each lead to further jobs; those lead to notices at most. -/
def manyRounds : Nat := 100

/-- Goes on until there is nothing to do. -/
def settle (d : Desk) : Desk := d.settleWithin manyRounds

/-! ## Time -/

/-- A moment at which nothing happens. -/
def arrive (d : Desk) (target : Nat) : Desk :=
  { d with scheduler := { d.scheduler with now := max d.scheduler.now target } }

/-- Wakes what is due at a moment. -/
def wakeAt (d : Desk) (time : Nat) : Desk := { d with scheduler := d.scheduler.wakeAt time }

/-- Lets time pass until the given moment, with at most `fuel` moments at which something
    happens. -/
def advanceWithin (d : Desk) (target : Nat) : Nat → Desk
  | 0 => d.arrive target
  | fuel + 1 =>
    match d.scheduler.nextDue? with
    | none => d.arrive target
    | some due =>
      if due ≤ target then (d.wakeAt due).settle.advanceWithin target fuel else d.arrive target

/-- Lets so many milliseconds pass.  Every moment at which something happens is later
    than the one before, so there are at most as many as milliseconds. -/
def sleep (d : Desk) (ms : Nat) : Desk :=
  d.settle.advanceWithin (d.scheduler.now + ms) (ms + 1)

end Desk

end CatalogDesk
