import CatalogDesk.Catalog.Refusal
import CatalogDesk.Json.Decode
import CatalogDesk.Rehearsal.Given
import CatalogDesk.Session.Error
import CatalogDesk.Settings.Arguments
import CatalogDesk.Task.Scheduler

/-! # Steps of a rehearsal

    A rehearsal is a list of steps, each a data value that names what is done.  Every
    step leaves one entry that shows what can be seen after it.  A step that cannot be
    carried out ends the rehearsal. -/

namespace CatalogDesk.Rehearsal

/-- Why a rehearsal cannot start, or ends before its last step. -/
inductive Fault where
  /-- There is no rehearsal of this name. -/
  | unknownRehearsal (name : String)
  | unknownForm (name : String)
  | unknownField (name : String)
  | unknownStep (name : String)
  /-- A record that is given is none. -/
  | undecodable (cause : DecodeError)
  /-- A form does not open a record. -/
  | refused (why : Refusal)
  /-- A search is completed that was never issued. -/
  | noTicket
  /-- The settings are not text. -/
  | unreadableSettings
  | badArguments (cause : ArgumentError)
  | storage (cause : StorageError)
  /-- Something lies outside of what it is a part of: a cell outside of the surface, a tab
      that does not exist, a text that is cut within a character. -/
  | outOfBounds

/-- What a rehearsal comes to. -/
abbrev Answered (α : Type) := Except Fault α

def unknownStep (name : String) : Answered α := .error (.unknownStep name)

def decoded (r : Decode.Result α) : Answered α := r.mapError .undecodable

def permitted (r : Except Refusal α) : Answered α := r.mapError .refused

/-- What a step does to a state: the state after it and its result, from the step and its
    name. -/
abbrev Play (σ : Type) := σ → Json → String → Answered (σ × Json)

/-- Carries out one step; `see` shows the state with the result of the step, and gives
    the state after it was looked at. -/
def playStep (see : σ → Json → σ × Json) (step : Play σ) (acc : σ × List Json) (s : Json) :
    Answered (σ × List Json) := do
  let (state, result) ← step acc.1 s (s.textAt "do")
  let (state, entry) := see state result
  return (state, entry :: acc.2)

/-- The entries of the steps. -/
def play (steps : List Json) (init : σ) (see : σ → Json → σ × Json) (step : Play σ) :
    Answered (List Json) := do
  let (_, entries) ← steps.foldlM (playStep see step) (init, [])
  return entries.reverse

/-- The entries of the steps of a rehearsal, under their name. -/
def playAll (j : Json) (init : σ) (see : σ → Json → σ × Json) (step : Play σ) :
    Answered Json := do
  return .ofMembers [("steps", .list (← play (j.listAt "steps") init see step))]

/-- The same with an entry for the initial state in front. -/
def playFrom (j : Json) (first : Json) (init : σ) (see : σ → Json → σ × Json)
    (step : Play σ) : Answered Json := do
  return .ofMembers [("steps", .list (first :: (← play (j.listAt "steps") init see step)))]

/-! ## Background work -/

/-- The first result that is wanted, and the scheduler without it. -/
def takeResult? (isMine : β → Bool) (s : Scheduler β) : Option (β × Scheduler β) :=
  let mine (e : TaskEvent β) : Option β := match e with
    | .finished b => if isMine b then some b else none
    | _ => none
  (s.events.findSome? mine).map fun b =>
    (b, { s with events := s.events.eraseIdx (s.events.findIdx fun e => (mine e).isSome) })

/-- Lets time pass until a wanted result is there, with at most `fuel` moments at which
    something happens. -/
def awaitWithin (isMine : β → Bool) (s : Scheduler β) : Nat → Option β × Scheduler β
  | 0 => (none, s)
  | fuel + 1 =>
    let s := s.settle
    match takeResult? isMine s with
    | some (b, s) => (some b, s)
    | none =>
      match s.nextDue? with
      | none => (none, s)
      | some due => awaitWithin isMine (s.wakeAt due) fuel

/-- More moments than any rehearsal has. -/
def manyMoments : Nat := 1000000

/-- Lets time pass until a wanted result is there. -/
def await (isMine : β → Bool) (s : Scheduler β) : Option β × Scheduler β :=
  awaitWithin isMine s manyMoments

/-- Runs a piece of work to its end. -/
def complete (s : Scheduler β) (w : Work β) : Option β × Scheduler β :=
  await (fun _ => true) (s.spawn w)

/-- Sleeps as long as a step says. -/
def slept (s : Scheduler β) (step : Json) : Scheduler β :=
  s.advance (s.now + step.natAt "ms" 0)

end CatalogDesk.Rehearsal
