import CatalogDesk.Net.Gateway
import CatalogDesk.Publish.Watcher
import CatalogDesk.Session.Context

/-! # Running background work

    Tasks run one at a time, each until it has to wait: for a reply that takes a while,
    or for the time of a poll.  Time is counted in milliseconds and moves only when all
    tasks wait; then the next timer that is due wakes its task.  Timers that are due at
    the same time wake their tasks in the order in which they were set.  A bell is a timer
    without a task: its owner is told that it rang.

    Main operations: `spawn` adds a task, `settle` runs all tasks that are ready,
    `wakeNext?` moves time to the next timer, and `advance` runs until a given time. -/

namespace CatalogDesk

/-- What the tasks leave for their owner. -/
inductive TaskEvent (α : Type) where
  | finished (result : α)
  | published (offering : Offering)
  /-- A bell that was set has rung. -/
  | rang

/-- A request under way: its reply, and the bearer with which it was sent. -/
structure Flight where
  bearer : Option String
  reply : Reply
  deriving Inhabited

/-- What happens when a timer is due. -/
inductive Wake (α : Type) where
  | reply (flight : Flight) (next : Reply → Work α)
  /-- One of two requests; the other's answer is there already, or still under way with
      the given time of arrival. -/
  | either (first second : Flight × Nat) (vetFirst vetSecond : Answer → Option Failure)
      (next : Except Failure (Answer × Answer) → Work α)
  /-- The other request has been answered; `swapped` tells that it was the second. -/
  | other (answered : Answer) (swapped : Bool) (flight : Flight)
      (vet : Answer → Option Failure) (next : Except Failure (Answer × Answer) → Work α)
  | poll (handle : Nat)
  | pollReply (handle : Nat) (flight : Flight)
  | bell

/-- A timer; of two that are due at the same time the one with the smaller order comes
    first. -/
structure Timer (α : Type) where
  due : Nat
  order : Nat
  wake : Wake α

/-- The tasks and all that they share. -/
structure Scheduler (α : Type) where
  now : Nat := 0
  gateway : Gateway := {}
  context : SessionContext := {}
  watcher : Watcher := {}
  /-- Tasks that are ready, in the order in which they run. -/
  ready : List (Work α) := []
  /-- Watches before their first step. -/
  starting : List Nat := []
  timers : List (Timer α) := []
  /-- Timers set so far. -/
  timerCount : Nat := 0
  /-- Requests sent so far that nobody has looked at. -/
  sent : List Request := []
  /-- Notices that nobody has handled yet. -/
  toasts : List Toast := []
  /-- Results that nobody has handled yet. -/
  events : List (TaskEvent α) := []

namespace Scheduler

variable {α : Type}

/-- Adds a task. -/
def spawn (s : Scheduler α) (w : Work α) : Scheduler α :=
  { s with ready := s.ready ++ [w] }

def setTimer (s : Scheduler α) (delay : Nat) (wake : Wake α) : Scheduler α :=
  { s with
    timers := s.timers ++ [⟨s.now + delay, s.timerCount, wake⟩],
    timerCount := s.timerCount + 1 }

/-- A bell has rung. -/
def ring (s : Scheduler α) : Scheduler α :=
  { s with events := s.events ++ [.rang] }

/-- Sets a bell. -/
def ringAfter (s : Scheduler α) (delay : Nat) : Scheduler α :=
  if delay = 0 then s.ring else s.setTimer delay .bell

/-- Sends a request: it is noted, its bearer is attached and its reply chosen. -/
def send (s : Scheduler α) (r : Request) : Flight × Nat × Scheduler α :=
  let bearer := s.context.client.bearer
  let (prepared, gateway) := s.gateway.answer r
  (⟨bearer, prepared.reply⟩, prepared.delay,
    { s with gateway, sent := s.sent ++ [{ r with bearer }] })

/-- A reply arrives. -/
def receive (s : Scheduler α) (f : Flight) : Reply × Scheduler α :=
  let (reply, context) := s.context.receive f.bearer f.reply
  (reply, { s with context })

def addToast (s : Scheduler α) (t : Toast) : Scheduler α :=
  { s with toasts := s.toasts ++ [t] }

/-- Accepts a watch; its task starts after the tasks that are ready. -/
def startWatch (s : Scheduler α) (id : RecordId) : Except WatchError Nat × Scheduler α :=
  match s.watcher.watch id with
  | .error e => (.error e, s)
  | .ok (handle, watcher) => (.ok handle, { s with watcher, starting := s.starting ++ [handle] })

/-- The verdict on the reply to one of two requests. -/
def vetted (vet : Answer → Option Failure) : Reply → Except Failure Answer
  | .error f => .error f
  | .ok a =>
    match vet a with
    | none => .ok a
    | some f => .error f

/-- The answers to two requests in the order in which they were sent. -/
def pairUp (swapped : Bool) (answered latest : Answer) : Answer × Answer :=
  if swapped then (latest, answered) else (answered, latest)

/-- Runs a task until it waits or ends. -/
def run (s : Scheduler α) : Work α → Scheduler α
  | .done a => { s with events := s.events ++ [.finished a] }
  | .send r k =>
    let (flight, delay, s) := s.send r
    if delay = 0 then
      let (reply, s) := s.receive flight
      s.run (k reply)
    else s.setTimer delay (.reply flight k)
  | .sendBoth r₁ r₂ v₁ v₂ k =>
    let (f₁, d₁, s) := s.send r₁
    if d₁ = 0 then
      let (reply, s) := s.receive f₁
      match vetted v₁ reply with
      | .error e => s.run (k (.error e))
      | .ok a =>
        let (f₂, d₂, s) := s.send r₂
        if d₂ = 0 then
          let (reply, s) := s.receive f₂
          match vetted v₂ reply with
          | .error e => s.run (k (.error e))
          | .ok b => s.run (k (.ok (a, b)))
        else s.setTimer d₂ (.other a false f₂ v₂ k)
    else
      let (f₂, d₂, s) := s.send r₂
      if d₂ = 0 then
        let (reply, s) := s.receive f₂
        match vetted v₂ reply with
        | .error e => s.run (k (.error e))
        | .ok b => s.setTimer d₁ (.other b true f₁ v₁ k)
      else s.setTimer (min d₁ d₂) (.either (f₁, s.now + d₁) (f₂, s.now + d₂) v₁ v₂ k)
  | .toast t k => (s.addToast t).run k
  | .login token username k =>
    let (user, context) := s.context.login token username
    { s with context }.run (k user)
  | .watch id k =>
    let (handle, s) := s.startWatch id
    s.run (k handle)

/-! ## Watches -/

/-- Carries out what a step of a watch leads to. -/
def afterStep (s : Scheduler α) (handle : Nat) (step : WatchStep) : Scheduler α :=
  match step with
  | .sleep => s.setTimer s.watcher.interval (.poll handle)
  | .nothing => s
  | .conclude state =>
    { s with
      toasts := s.toasts ++ (Watch.closingToast? state).toList,
      events := s.events ++ ((Watch.published? state).map TaskEvent.published).toList }

/-- The reply to a poll arrives.  A watch that was stopped meanwhile has given its request
    up, and nobody hears the reply. -/
def pollAnswered (s : Scheduler α) (handle : Nat) (flight : Flight) : WatchStep × Scheduler α :=
  if s.watcher.isAsking handle then
    let (reply, s) := s.receive flight
    let (step, watcher) := s.watcher.answer handle (Work.readReply Offering.decode reply)
    (step, { s with watcher })
  else (.nothing, s)

/-- The time of a poll has come: sends its request, and goes on if the reply is there at
    once. -/
def poll (s : Scheduler α) (handle : Nat) : WatchStep × Scheduler α :=
  let (request, watcher) := s.watcher.ask handle
  let s := { s with watcher }
  match request with
  | none => (.nothing, s)
  | some r =>
    let (flight, delay, s) := s.send r
    if delay = 0 then s.pollAnswered handle flight
    else (.nothing, s.setTimer delay (.pollReply handle flight))

/-- Polls without sleeping in between, as long as the interval is zero. -/
def continueWatch (s : Scheduler α) (handle : Nat) (step : WatchStep) : Nat → Scheduler α
  | 0 => s.afterStep handle step
  | attempts + 1 =>
    if step = .sleep && s.watcher.interval = 0 then
      let (step, s) := s.poll handle
      s.continueWatch handle step attempts
    else s.afterStep handle step

/-- Carries a step of a watch on to where the watch waits.  No watch has more polls than
    the limit. -/
def followWatch (s : Scheduler α) (handle : Nat) (step : WatchStep) : Scheduler α :=
  s.continueWatch handle step (s.watcher.maxAttempts + 1)

/-- The first step of a watch. -/
def beginWatch (s : Scheduler α) (handle : Nat) : Scheduler α :=
  let (step, watcher) := s.watcher.start handle
  { s with watcher }.followWatch handle step

/-- Starts the watches that were accepted. -/
def beginWatches (s : Scheduler α) : Scheduler α :=
  s.starting.foldl beginWatch { s with starting := [] }

/-! ## Time -/

/-- Runs the tasks that are ready. -/
def settle (s : Scheduler α) : Scheduler α :=
  (s.ready.foldl run { s with ready := [] }).beginWatches

/-- The first of two requests is looked at; the other one may have arrived too. -/
def wakeEither (s : Scheduler α) (first second : Flight × Nat)
    (vetFirst vetSecond : Answer → Option Failure)
    (next : Except Failure (Answer × Answer) → Work α) : Scheduler α :=
  let later (t : Nat) : Nat := t - s.now
  if second.2 ≤ s.now then
    let (reply, s) := s.receive second.1
    match vetted vetSecond reply with
    | .error e => s.run (next (.error e))
    | .ok b =>
      if first.2 ≤ s.now then
        let (reply, s) := s.receive first.1
        match vetted vetFirst reply with
        | .error e => s.run (next (.error e))
        | .ok a => s.run (next (.ok (a, b)))
      else s.setTimer (later first.2) (.other b true first.1 vetFirst next)
  else
    let (reply, s) := s.receive first.1
    match vetted vetFirst reply with
    | .error e => s.run (next (.error e))
    | .ok a => s.setTimer (later second.2) (.other a false second.1 vetSecond next)

/-- Wakes the task of a timer. -/
def wake (s : Scheduler α) (t : Timer α) : Scheduler α :=
  match t.wake with
  | .reply flight next =>
    let (reply, s) := s.receive flight
    s.run (next reply)
  | .either first second v₁ v₂ next => s.wakeEither first second v₁ v₂ next
  | .other answered swapped flight vet next =>
    let (reply, s) := s.receive flight
    match vetted vet reply with
    | .error e => s.run (next (.error e))
    | .ok a => s.run (next (.ok (pairUp swapped answered a)))
  | .poll handle =>
    let (step, s) := s.poll handle
    s.followWatch handle step
  | .pollReply handle flight =>
    let (step, s) := s.pollAnswered handle flight
    s.followWatch handle step
  | .bell => s.ring

/-- The time of the next timer. -/
def nextDue? (s : Scheduler α) : Option Nat :=
  (s.timers.map (·.due)).min?

/-- Moves time to the given moment and wakes the tasks whose timers are due by then. -/
def wakeAt (s : Scheduler α) (time : Nat) : Scheduler α :=
  let due := (s.timers.filter (·.due ≤ time)).mergeSort fun a b =>
    a.due < b.due || (a.due = b.due && a.order ≤ b.order)
  let s := { s with now := time, timers := s.timers.filter (time < ·.due) }
  (due.foldl wake s).beginWatches

/-- Lets time pass until the given moment, timer by timer, with at most `fuel` moments
    at which something happens. -/
def advanceWithin (s : Scheduler α) (target : Nat) : Nat → Scheduler α
  | 0 => { s with now := max s.now target }
  | fuel + 1 =>
    match s.nextDue? with
    | none => { s with now := max s.now target }
    | some due =>
      if due ≤ target then (s.wakeAt due).advanceWithin target fuel
      else { s with now := max s.now target }

/-- Lets time pass until the given moment.  Every moment at which something happens is
    later than the one before, so there are at most as many as milliseconds. -/
def advance (s : Scheduler α) (target : Nat) : Scheduler α :=
  s.settle.advanceWithin target (target + 1 - s.now)

/-- Stops a watch. -/
def stopWatch (s : Scheduler α) (handle : Nat) : Scheduler α :=
  { s with watcher := s.watcher.stop handle }

end Scheduler

end CatalogDesk
