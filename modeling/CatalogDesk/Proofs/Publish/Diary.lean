import CatalogDesk.Proofs.Publish.Watching
import CatalogDesk.Task.Scheduler

/-! # Diaries of watches

    What can be noticed of one watch, in order: the states that can be seen of it, the
    requests that it sends, the notice at its end and the report of its offering.  The
    diary of a watch over some events collects what its own turns add.

    Nothing escapes the diary: the state that is seen last in it is the state of the watch
    (`state_after`), and the notices and reports that a run notes, or that the scheduler
    carries out, are those of the diary (`turn_eq_perform`, `Scheduler.afterStep_eq_deeds`). -/

namespace CatalogDesk

/-! ## Deeds -/

/-- What can be noticed of a watch. -/
inductive WatchDeed
  /-- Another state can be seen. -/
  | became (state : WatchState)
  | asked (request : Request)
  | showed (toast : Toast)
  /-- The offering is reported as published. -/
  | reported (offering : Offering)

namespace WatchDeed

def state? : WatchDeed → Option WatchState
  | .became state => some state
  | _ => none

def request? : WatchDeed → Option Request
  | .asked request => some request
  | _ => none

def toast? : WatchDeed → Option Toast
  | .showed toast => some toast
  | _ => none

def report? : WatchDeed → Option Offering
  | .reported offering => some offering
  | _ => none

/-- The end of a watch: its notice comes first, and its report last. -/
def ending (state : WatchState) : List WatchDeed :=
  ((Watch.closingToast? state).map showed).toList ++
    became state :: ((Watch.published? state).map reported).toList

theorem filterMap_toast_ending (state : WatchState) :
    (ending state).filterMap toast? = (Watch.closingToast? state).toList := by
  cases state <;> rfl

theorem filterMap_report_ending (state : WatchState) :
    (ending state).filterMap report? = (Watch.published? state).toList := by
  cases state <;> rfl

theorem filterMap_state_ending (state : WatchState) :
    (ending state).filterMap state? = [state] := by
  cases state <;> rfl

/-- The state that is seen last. -/
def seen? (deeds : List WatchDeed) : Option WatchState :=
  (deeds.filterMap state?).getLast?

theorem seen?_append (before rest : List WatchDeed) :
    seen? (before ++ rest) = (seen? rest).or (seen? before) := by
  unfold seen?
  rw [List.filterMap_append, List.getLast?_append]

theorem seen?_ending (state : WatchState) : seen? (ending state) = some state := by
  unfold seen?
  rw [filterMap_state_ending]
  rfl

end WatchDeed

namespace Watcher

/-- What is noticed of a step of a watch; `w` is the watcher after the step. -/
def deeds (w : Watcher) (handle : Nat) : WatchStep → List WatchDeed
  | .sleep => ((w.state? handle).map .became).toList
  | .conclude state => WatchDeed.ending state
  | .nothing => []

theorem filterMap_toast_deeds (w : Watcher) (handle : Nat) (step : WatchStep) :
    (w.deeds handle step).filterMap WatchDeed.toast? =
      (step.said?.bind Watch.closingToast?).toList := by
  cases step with
  | sleep =>
    unfold deeds
    cases w.state? handle <;> rfl
  | conclude state => exact WatchDeed.filterMap_toast_ending state
  | nothing => rfl

theorem filterMap_report_deeds (w : Watcher) (handle : Nat) (step : WatchStep) :
    (w.deeds handle step).filterMap WatchDeed.report? =
      (step.said?.bind Watch.published?).toList := by
  cases step with
  | sleep =>
    unfold deeds
    cases w.state? handle <;> rfl
  | conclude state => exact WatchDeed.filterMap_report_ending state
  | nothing => rfl

/-! ### The state that can be seen

    What a step of a task lets be seen is the state of its watch after the step. -/

theorem state?_put {w : Watcher} {handle : Nat} {x : Watch}
    (found : w.watches[handle]? = some x) (x' : Watch) :
    (w.put handle x').state? handle = some x'.state := by
  unfold state?
  rw [getElem?_put_self found]
  rfl

theorem state?_of_found {w : Watcher} {handle : Nat} {x : Watch}
    (found : w.watches[handle]? = some x) : w.state? handle = some x.state := by
  unfold state?
  rw [found]
  rfl

theorem wait?_of_found {w : Watcher} {handle : Nat} {x : Watch}
    (found : w.watches[handle]? = some x) :
    w.wait? handle = if x.isFinished then some x.state else none := by
  unfold wait? isFinished
  rw [state?_of_found found, found]
  rfl

theorem state?_stop (w : Watcher) (handle : Nat) :
    (w.stop handle).state? handle = w.state? handle := by
  unfold stop
  split
  · rfl
  · rename_i x found
    split
    · exact (state?_put found _).trans (state?_of_found found).symm
    · rfl

theorem state?_ask (w : Watcher) (handle : Nat) :
    (w.ask handle).2.state? handle = w.state? handle := by
  unfold ask
  split
  · rfl
  · rename_i x found
    split
    · exact (state?_put found _).trans (state?_of_found found).symm
    · rfl

theorem state?_conclude {w : Watcher} {handle : Nat} {x : Watch}
    (found : w.watches[handle]? = some x) (state : WatchState) :
    (w.conclude handle x state).2.state? handle =
      (WatchDeed.seen? (WatchDeed.ending state)).or (w.state? handle) := by
  rw [WatchDeed.seen?_ending]
  exact state?_put found _

theorem state?_beginAttempt {w : Watcher} {handle : Nat} {x : Watch}
    (found : w.watches[handle]? = some x) (attempt : Nat) :
    (w.beginAttempt handle x attempt).2.state? handle =
      (WatchDeed.seen? ((w.beginAttempt handle x attempt).2.deeds handle
        (w.beginAttempt handle x attempt).1)).or (w.state? handle) := by
  unfold beginAttempt
  split
  · unfold deeds
    rw [state?_put found]
    rfl
  · exact state?_conclude found .timedOut

theorem state?_start (w : Watcher) (handle : Nat) :
    (w.start handle).2.state? handle =
      (WatchDeed.seen? ((w.start handle).2.deeds handle (w.start handle).1)).or
        (w.state? handle) := by
  unfold start
  split
  · rfl
  · rename_i x found
    split
    · exact state?_beginAttempt found 1
    · rfl

theorem state?_answer (w : Watcher) (handle : Nat) (result : Except Failure Offering) :
    (w.answer handle result).2.state? handle =
      (WatchDeed.seen? ((w.answer handle result).2.deeds handle (w.answer handle result).1)).or
        (w.state? handle) := by
  unfold answer
  split
  · rfl
  · rename_i x found
    split
    · rename_i attempt _
      split
      · exact state?_conclude found _
      · exact state?_beginAttempt found (attempt + 1)
    · rfl

end Watcher

/-- What the scheduler leaves for its owner after a step of a watch. -/
theorem Scheduler.afterStep_eq_deeds {α : Type} (s : Scheduler α) (handle : Nat)
    (step : WatchStep) :
    (s.afterStep handle step).toasts =
        s.toasts ++ (s.watcher.deeds handle step).filterMap WatchDeed.toast? ∧
      (s.afterStep handle step).events = s.events ++
        ((s.watcher.deeds handle step).filterMap WatchDeed.report?).map TaskEvent.published := by
  rw [Watcher.filterMap_toast_deeds, Watcher.filterMap_report_deeds]
  cases step with
  | sleep => exact ⟨(List.append_nil _).symm, (List.append_nil _).symm⟩
  | nothing => exact ⟨(List.append_nil _).symm, (List.append_nil _).symm⟩
  | conclude state => cases state <;> exact ⟨rfl, rfl⟩

/-! ## Diaries -/

namespace WatchRun

/-- The turn of a task: what is noticed of it, and the watcher after it. -/
def perform (r : WatchRun) (handle : Nat) (t : WatchTurn) : List WatchDeed × Watcher :=
  if r.stopping.contains handle then ([], r.watcher.stop handle)
  else
    match t with
    | .started =>
      let (step, watcher) := r.watcher.start handle
      (watcher.deeds handle step, watcher)
    | .due =>
      let (request, watcher) := r.watcher.ask handle
      ((request.map .asked).toList, watcher)
    | .answered result =>
      let (step, watcher) := r.watcher.answer handle result
      (watcher.deeds handle step, watcher)
    | .woken => ([], r.watcher)

/-- What a watch does at an event; at those that are not its own it does nothing. -/
def deedsAt (r : WatchRun) (handle : Nat) : WatchEvent → List WatchDeed
  | .turn other t => if other = handle then (r.perform handle t).1 else []
  | _ => []

/-- What a watch does during some events. -/
def diary (r : WatchRun) (handle : Nat) : List WatchEvent → List WatchDeed
  | [] => []
  | e :: events => r.deedsAt handle e ++ (r.step e).diary handle events

theorem after_append (r : WatchRun) (before rest : List WatchEvent) :
    r.after (before ++ rest) = (r.after before).after rest :=
  List.foldl_append

theorem diary_append (r : WatchRun) (handle : Nat) (before rest : List WatchEvent) :
    r.diary handle (before ++ rest) =
      r.diary handle before ++ (r.after before).diary handle rest := by
  induction before generalizing r with
  | nil => rfl
  | cons e before ih =>
    show r.deedsAt handle e ++ (r.step e).diary handle (before ++ rest) = _
    rw [ih, ← List.append_assoc]
    rfl

theorem deedsAt_of_ne {r : WatchRun} {e : WatchEvent} {handle : Nat}
    (hother : e.handle? ≠ some handle) : r.deedsAt handle e = [] := by
  cases e with
  | turn other t => exact if_neg fun heq => hother (congrArg some heq)
  | _ => rfl

/-- A task that is woken in vain does nothing. -/
theorem deedsAt_woken (r : WatchRun) (handle : Nat) :
    r.deedsAt handle (.turn handle .woken) = [] := by
  show (if handle = handle then (r.perform handle .woken).1 else []) = []
  rw [if_pos rfl]
  unfold perform
  split <;> rfl

/-- The watch does nothing while others have their turns, and it is woken in vain at most. -/
theorem diary_of_idle {r : WatchRun} {events : List WatchEvent} {handle : Nat}
    (idle : ∀ e ∈ events, e.handle? = some handle → e = .turn handle .woken) :
    r.diary handle events = [] := by
  induction events generalizing r with
  | nil => rfl
  | cons e events ih =>
    have hnone : r.deedsAt handle e = [] := by
      by_cases hown : e.handle? = some handle
      · rw [idle e List.mem_cons_self hown]
        exact r.deedsAt_woken handle
      · exact deedsAt_of_ne hown
    show r.deedsAt handle e ++ (r.step e).diary handle events = []
    rw [hnone, ih fun e' hmem => idle e' (List.mem_cons_of_mem e hmem)]
    rfl

/-- The notices and reports that a run notes of a turn are those of the deeds. -/
theorem turn_eq_perform {r : WatchRun} {handle : Nat} {x : Watch}
    (found : r.watcher.watches[handle]? = some x) (t : WatchTurn) :
    r.turn handle t = { r with
      watcher := (r.perform handle t).2,
      toasts := r.toasts ++ ((r.perform handle t).1.filterMap WatchDeed.toast?).map (x.id, ·),
      reports :=
        r.reports ++ ((r.perform handle t).1.filterMap WatchDeed.report?).map (x.id, ·) } := by
  -- A request is neither a notice nor a report.
  have hquiet (watcher : Watcher) (request : Option Request) :
      ({ r with watcher } : WatchRun) = { r with
        watcher,
        toasts := r.toasts ++ ((request.map WatchDeed.asked).toList.filterMap
          WatchDeed.toast?).map (x.id, ·),
        reports := r.reports ++ ((request.map WatchDeed.asked).toList.filterMap
          WatchDeed.report?).map (x.id, ·) } := by
    cases request <;> simp [WatchDeed.toast?, WatchDeed.report?]
  -- Of a step both are noted only where it says that the watch has ended.
  have hheard (step : WatchStep) (watcher : Watcher) :
      r.hear handle step.said? watcher = { r with
        watcher,
        toasts := r.toasts ++ ((watcher.deeds handle step).filterMap
          WatchDeed.toast?).map (x.id, ·),
        reports := r.reports ++ ((watcher.deeds handle step).filterMap
          WatchDeed.report?).map (x.id, ·) } := by
    rw [Watcher.filterMap_toast_deeds, Watcher.filterMap_report_deeds]
    cases step with
    | conclude state =>
      rw [show (WatchStep.conclude state).said? = some state from rfl, hear_some found]
      cases state <;> rfl
    | _ => simp [WatchStep.said?]
  unfold turn perform
  split
  · exact hquiet _ none
  · cases t with
    | started => exact hheard _ _
    | due => exact hquiet _ _
    | answered result => exact hheard _ _
    | woken => exact hquiet _ none

theorem watcher_tell (r : WatchRun) (handle : Nat) : (r.tell handle).watcher = r.watcher := by
  obtain ⟨stopping, htell, -⟩ := r.tell_eq handle
  rw [htell]

theorem watcher_turn (r : WatchRun) (handle : Nat) (t : WatchTurn) :
    (r.turn handle t).watcher = (r.perform handle t).2 := by
  unfold turn perform
  split
  · rfl
  · cases t with
    | started => exact watcher_hear _ _ _ _
    | answered result => exact watcher_hear _ _ _ _
    | _ => rfl

theorem state?_perform (r : WatchRun) (handle : Nat) (t : WatchTurn) :
    (r.perform handle t).2.state? handle =
      (WatchDeed.seen? (r.perform handle t).1).or (r.watcher.state? handle) := by
  unfold perform
  split
  · exact r.watcher.state?_stop handle
  · cases t with
    | started => exact r.watcher.state?_start handle
    | due =>
      dsimp only
      rw [Watcher.state?_ask]
      cases (r.watcher.ask handle).1 <;> rfl
    | answered result => exact r.watcher.state?_answer handle result
    | woken => rfl

/-- **Step lemma.** An event lets no state be seen but those of the watch's deeds. -/
theorem state_step {r : WatchRun} (e : WatchEvent) {handle : Nat} {state : WatchState}
    (h : r.watcher.state? handle = some state) :
    (r.step e).watcher.state? handle =
      some ((WatchDeed.seen? (r.deedsAt handle e)).getD state) := by
  by_cases hown : e.handle? = some handle
  · -- To tell the watch to stop changes nothing yet, and its turn is what it performs.
    cases e with
    | watch id => cases hown
    | cancel other =>
      show (r.tell other).watcher.state? handle = _
      rw [watcher_tell]
      exact h
    | drop other =>
      show (r.tell other).watcher.state? handle = _
      rw [watcher_tell]
      exact h
    | turn other t =>
      cases hown
      show (r.turn handle t).watcher.state? handle =
        some ((WatchDeed.seen? (if _ then _ else _)).getD _)
      rw [watcher_turn, state?_perform, h, if_pos rfl]
      cases WatchDeed.seen? (r.perform handle t).1 <;> rfl
  · rw [deedsAt_of_ne hown]
    obtain ⟨x, found, hx⟩ := Option.map_eq_some_iff.mp h
    exact Option.map_eq_some_iff.mpr ⟨x, frame_step e hown found, hx⟩

/-- **Run lemma.** The state of a watch is the one that its diary shows last. -/
theorem state_after {r : WatchRun} {handle : Nat} {state : WatchState}
    (h : r.watcher.state? handle = some state) (events : List WatchEvent) :
    (r.after events).watcher.state? handle =
      some ((WatchDeed.seen? (r.diary handle events)).getD state) := by
  induction events generalizing r state with
  | nil => exact h
  | cons e events ih =>
    show ((r.step e).after events).watcher.state? handle =
      some ((WatchDeed.seen? (r.deedsAt handle e ++ (r.step e).diary handle events)).getD state)
    rw [ih (state_step e h), WatchDeed.seen?_append]
    cases WatchDeed.seen? ((r.step e).diary handle events) <;> rfl

end WatchRun

end CatalogDesk
