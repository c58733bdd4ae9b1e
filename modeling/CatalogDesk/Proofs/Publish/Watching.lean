import CatalogDesk.Proofs.Publish.Places

/-! # Runs of the watcher

    A run interleaves what the owners of watches do with the turns of their tasks, in any
    order: a poll may be due at any time, and any answer may come.  To stop a watch is to
    tell its task, which takes note at its next turn, whatever that turn was for; until
    then the watch keeps its place.

    A run also notes what leaves the watcher: the accepted watches, the notices and the
    offerings reported as published, each with the offering of its watch.

    Main result: `watching_sound` says that `Sound` holds after every run. -/

namespace CatalogDesk

/-! ## Events -/

/-- What the turn of a task is for. -/
inductive WatchTurn
  /-- The first step. -/
  | started
  /-- The time of a poll has come. -/
  | due
  | answered (result : Except Failure Offering)
  /-- Nothing but to take note of having been told to stop. -/
  | woken

/-- What can happen to the watcher and its watches. -/
inductive WatchEvent
  | watch (id : RecordId)
  /-- The owner of a watch cancels it. -/
  | cancel (handle : Nat)
  /-- The owner of a watch lets go of it. -/
  | drop (handle : Nat)
  /-- The task of a watch runs from one waiting to the next. -/
  | turn (handle : Nat) (turn : WatchTurn)

/-- The watch that an event is about. -/
def WatchEvent.handle? : WatchEvent → Option Nat
  | .watch _ => none
  | .cancel handle => some handle
  | .drop handle => some handle
  | .turn handle _ => some handle

/-- A watcher, and what has left it. -/
structure WatchRun where
  watcher : Watcher := {}
  /-- The watches that were told to stop. -/
  stopping : List Nat := []
  /-- The offerings of the watches accepted so far. -/
  accepted : List RecordId := []
  toasts : List (RecordId × Toast) := []
  /-- The offerings reported as published. -/
  reports : List (RecordId × Offering) := []

namespace WatchRun

def watch (r : WatchRun) (id : RecordId) : WatchRun :=
  match r.watcher.watch id with
  | .error _ => r
  | .ok (_, watcher) => { r with watcher, accepted := r.accepted ++ [id] }

/-- Tells a watch to stop; one that is over does not hear it. -/
def tell (r : WatchRun) (handle : Nat) : WatchRun :=
  match r.watcher.watches[handle]? with
  | none => r
  | some x =>
    if x.isLive && !r.stopping.contains handle then
      { r with stopping := r.stopping ++ [handle] }
    else r

/-- The watcher after a turn; a watch that has ended by itself says so. -/
def hear (r : WatchRun) (handle : Nat) (said : Option WatchState) (watcher : Watcher) :
    WatchRun :=
  match r.watcher.watches[handle]?, said with
  | some x, some state =>
    { r with
      watcher,
      toasts := r.toasts ++ ((Watch.closingToast? state).map (x.id, ·)).toList,
      reports := r.reports ++ ((Watch.published? state).map (x.id, ·)).toList }
  | _, _ => { r with watcher }

/-- A task that was told to stop does nothing else. -/
def turn (r : WatchRun) (handle : Nat) (t : WatchTurn) : WatchRun :=
  if r.stopping.contains handle then { r with watcher := r.watcher.stop handle }
  else
    match t with
    | .started =>
      let (step, watcher) := r.watcher.start handle
      r.hear handle step.said? watcher
    | .due => { r with watcher := (r.watcher.ask handle).2 }
    | .answered result =>
      let (step, watcher) := r.watcher.answer handle result
      r.hear handle step.said? watcher
    | .woken => r

def step (r : WatchRun) : WatchEvent → WatchRun
  | .watch id => r.watch id
  | .cancel handle => r.tell handle
  | .drop handle => r.tell handle
  | .turn handle t => r.turn handle t

def after (r : WatchRun) (events : List WatchEvent) : WatchRun :=
  events.foldl step r

/-- How many notices of success there were for an offering. -/
def successes (r : WatchRun) (id : RecordId) : Nat :=
  r.toasts.countP fun p => p.1 == id && p.2.level == .success

/-- How often an offering's watches reported it as published. -/
def reported (r : WatchRun) (id : RecordId) : Nat :=
  r.reports.countP fun p => p.1 == id

/-! ## What holds after a run -/

/-- What holds of the watches, whatever happened before and whatever happens next. -/
structure Sound (r : WatchRun) : Prop where
  /-- An offering has at most one live watch. -/
  single : ∀ id handle other,
    r.watcher.Polls handle id → r.watcher.Polls other id → handle = other
  watching : ∀ id, r.watcher.isWatching id = true ↔ ∃ handle, r.watcher.Polls handle id
  /-- A watch is refused if and only if the offering has a live one. -/
  refused : ∀ id e, r.watcher.watch id = .error e ↔
    e = .alreadyWatching id ∧ ∃ handle, r.watcher.Polls handle id
  /-- A place is taken by an accepted watch only. -/
  takes : ∀ e id, r.watcher.isWatching id = false →
    ((r.step e).watcher.isWatching id = true ↔ e = .watch id)
  /-- A place becomes free if and only if its own watch comes to an end. -/
  frees : ∀ e id, r.watcher.isWatching id = true →
    ((r.step e).watcher.isWatching id = false ↔
      ∃ handle, e.handle? = some handle ∧ r.watcher.Polls handle id ∧
        ¬ (r.step e).watcher.Polls handle id)
  /-- An event changes no watch but its own. -/
  frame : ∀ e handle x, e.handle? ≠ some handle → r.watcher.watches[handle]? = some x →
    (r.step e).watcher.watches[handle]? = some x
  /-- What happens to a watch that is over changes nothing at all. -/
  past : ∀ e handle, e.handle? = some handle → (∀ id, ¬ r.watcher.Polls handle id) →
    r.step e = r
  /-- To cancel a live watch, or to let go of it, tells it to stop, once and for all. -/
  told : ∀ handle id, r.watcher.Polls handle id →
    handle ∈ (r.step (.cancel handle)).stopping ∧ handle ∈ (r.step (.drop handle)).stopping
  untold : ∀ e handle, handle ∈ r.stopping → handle ∈ (r.step e).stopping
  /-- A watch that was told to stop is over after its next turn, and says nothing. -/
  stopped : ∀ handle t, handle ∈ r.stopping →
    (∀ id, ¬ (r.step (.turn handle t)).watcher.Polls handle id) ∧
      (r.step (.turn handle t)).toasts = r.toasts ∧
      (r.step (.turn handle t)).reports = r.reports
  /-- No offering has more notices of success, or reports, than watches. -/
  successes_le : ∀ id, r.successes id ≤ r.accepted.count id
  reported_le : ∀ id, r.reported id ≤ r.accepted.count id

/-- Has the watch ended with its offering published? -/
def hasPublished (x : Watch) : Bool :=
  (Watch.published? x.state).isSome

/-- Every notice of success and every report belongs to a watch that has ended with its
    offering published, one of each to each such watch.  While a watch is live it has
    not come to its end, which is why it can still add one. -/
structure Accounted (r : WatchRun) : Prop where
  open' : ∀ x ∈ r.watcher.watches, x.isLive = true → x.state.isTerminal = false
  accepted : r.accepted = r.watcher.watches.map Watch.id
  successes : ∀ id,
    r.successes id = r.watcher.watches.countP fun x => x.id == id && hasPublished x
  reported : ∀ id,
    r.reported id = r.watcher.watches.countP fun x => x.id == id && hasPublished x

/-- The invariant that every event preserves. -/
structure Kept (r : WatchRun) : Prop where
  placed : r.watcher.Placed
  accounted : r.Accounted

/-! ## One event -/

@[simp] theorem hear_none (r : WatchRun) (handle : Nat) (watcher : Watcher) :
    r.hear handle none watcher = { r with watcher } := by
  unfold hear
  cases r.watcher.watches[handle]? <;> rfl

theorem hear_some {r : WatchRun} {handle : Nat} {x : Watch}
    (found : r.watcher.watches[handle]? = some x) (state : WatchState) (watcher : Watcher) :
    r.hear handle (some state) watcher = { r with
      watcher,
      toasts := r.toasts ++ ((Watch.closingToast? state).map (x.id, ·)).toList,
      reports := r.reports ++ ((Watch.published? state).map (x.id, ·)).toList } := by
  unfold hear
  rw [found]

@[simp] theorem watcher_hear (r : WatchRun) (handle : Nat) (said : Option WatchState)
    (watcher : Watcher) : (r.hear handle said watcher).watcher = watcher := by
  unfold hear
  split <;> rfl

@[simp] theorem stopping_hear (r : WatchRun) (handle : Nat) (said : Option WatchState)
    (watcher : Watcher) : (r.hear handle said watcher).stopping = r.stopping := by
  unfold hear
  split <;> rfl

/-- To tell a watch to stop leaves the watcher alone. -/
theorem tell_eq (r : WatchRun) (handle : Nat) :
    ∃ stopping, r.tell handle = { r with stopping } ∧
      ∀ other ∈ r.stopping, other ∈ stopping := by
  unfold tell
  split
  · exact ⟨r.stopping, rfl, fun _ h => h⟩
  · split
    · exact ⟨_, rfl, fun _ h => List.mem_append_left _ h⟩
    · exact ⟨r.stopping, rfl, fun _ h => h⟩

/-- The turn of a task is a step of its watch, and what was said is heard. -/
theorem turn_eq (r : WatchRun) (handle : Nat) (t : WatchTurn) :
    ∃ said watcher, r.watcher.Turn handle said watcher ∧
      r.turn handle t = r.hear handle said watcher := by
  unfold turn
  split
  · exact ⟨none, _, r.watcher.turn_stop handle, (hear_none _ _ _).symm⟩
  · cases t with
    | started => exact ⟨_, _, r.watcher.turn_start handle, rfl⟩
    | due => exact ⟨none, _, r.watcher.turn_ask handle, (hear_none _ _ _).symm⟩
    | answered result => exact ⟨_, _, r.watcher.turn_answer handle result, rfl⟩
    | woken => exact ⟨none, _, .idle, (hear_none _ _ _).symm⟩

/-- All that an event can lead to. -/
inductive Next (r : WatchRun) : WatchEvent → WatchRun → Prop
  | refused {id : RecordId} (taken : r.watcher.isWatching id = true) : Next r (.watch id) r
  | accepted {id : RecordId} {handle : Nat} {watcher : Watcher}
      (accepts : r.watcher.watch id = .ok (handle, watcher)) :
      Next r (.watch id) { r with watcher, accepted := r.accepted ++ [id] }
  /-- A watch was told to stop, or did not hear it. -/
  | told {e : WatchEvent} {handle : Nat} (about : e.handle? = some handle)
      (stopping : List Nat) : Next r e { r with stopping }
  /-- The task of a watch had its turn. -/
  | turned {e : WatchEvent} {handle : Nat} {said : Option WatchState} {watcher : Watcher}
      (about : e.handle? = some handle) (ht : r.watcher.Turn handle said watcher) :
      Next r e (r.hear handle said watcher)

theorem next_tell (r : WatchRun) {e : WatchEvent} {handle : Nat}
    (about : e.handle? = some handle) : r.Next e (r.tell handle) := by
  obtain ⟨stopping, htell, -⟩ := r.tell_eq handle
  rw [htell]
  exact .told about stopping

theorem next_step (r : WatchRun) (e : WatchEvent) : r.Next e (r.step e) := by
  cases e with
  | watch id =>
    show r.Next _ (r.watch id)
    unfold watch
    split
    · rename_i refusal hrefused
      exact .refused ((r.watcher.watch_eq_error_iff id refusal).mp hrefused).1
    · rename_i accepts
      exact .accepted accepts
  | cancel handle => exact r.next_tell rfl
  | drop handle => exact r.next_tell rfl
  | turn handle t =>
    obtain ⟨said, watcher, ht, hturn⟩ := r.turn_eq handle t
    show r.Next _ (r.turn handle t)
    rw [hturn]
    exact .turned rfl ht

/-! ## Accounts -/

/-- The watches with a property, after one of them was replaced. -/
theorem countP_replace {watches : List Watch} {handle : Nat} {x : Watch}
    (found : watches[handle]? = some x) (x' : Watch) (p : Watch → Bool) :
    (watches.set handle x').countP p + (if p x then 1 else 0) =
      watches.countP p + (if p x' then 1 else 0) := by
  obtain ⟨hlt, hx⟩ := List.getElem?_eq_some_iff.mp found
  rw [List.countP_set hlt, hx]
  have hpos : (if p x then 1 else 0) ≤ watches.countP p := by
    split
    · rename_i hp
      exact List.countP_pos_iff.mpr ⟨x, List.mem_of_getElem? found, hp⟩
    · exact Nat.zero_le _
  omega

theorem map_id_replace {watches : List Watch} {handle : Nat} {x x' : Watch}
    (found : watches[handle]? = some x) (hid : x'.id = x.id) :
    (watches.set handle x').map Watch.id = watches.map Watch.id := by
  apply List.ext_getElem?
  intro other
  rw [List.getElem?_map, List.getElem?_map]
  by_cases heq : other = handle
  · have hlt := (List.getElem?_eq_some_iff.mp found).1
    rw [heq, List.getElem?_set_self hlt, found, Option.map_some, Option.map_some, hid]
  · rw [List.getElem?_set_ne (Ne.symm heq)]

theorem hasPublished_of_open {x : Watch} (h : x.state.isTerminal = false) :
    hasPublished x = false := by
  unfold hasPublished
  cases hx : x.state with
  | succeeded o => rw [hx] at h; cases h
  | _ => rfl

/-- A notice of success is given exactly when the offering is reported. -/
theorem countP_closingToast (id other : RecordId) (state : WatchState) :
    ((Watch.closingToast? state).map (id, ·)).toList.countP
        (fun p => p.1 == other && p.2.level == .success) =
      if id == other && (Watch.published? state).isSome then 1 else 0 := by
  cases state <;> simp [Watch.closingToast?, Watch.published?, List.countP_cons]

theorem countP_published (id other : RecordId) (state : WatchState) :
    ((Watch.published? state).map (id, ·)).toList.countP (fun p => p.1 == other) =
      if id == other && (Watch.published? state).isSome then 1 else 0 := by
  cases state <;> simp [Watch.published?, List.countP_cons]

/-- The accounts after one watch that had not come to its end was replaced: what left the
    watcher meanwhile has to be what the watch has ended with. -/
theorem accounted_replace {r r' : WatchRun} (h : r.Accounted) {handle : Nat} {x : Watch}
    (found : r.watcher.watches[handle]? = some x) (live : x.isLive = true)
    (x' : Watch) (hid : x'.id = x.id) (hopen' : x'.isLive = true → x'.state.isTerminal = false)
    (hwatches : r'.watcher.watches = r.watcher.watches.set handle x')
    (haccepted : r'.accepted = r.accepted)
    (hsuccesses : ∀ id, r'.successes id =
      r.successes id + if x.id == id && hasPublished x' then 1 else 0)
    (hreported : ∀ id, r'.reported id =
      r.reported id + if x.id == id && hasPublished x' then 1 else 0) : r'.Accounted := by
  have hopen := h.open' x (List.mem_of_getElem? found) live
  -- A watch that is open is in no account, so the accounts grow by what `x'` adds.
  have hcount : ∀ id, (r'.watcher.watches.countP fun x => x.id == id && hasPublished x) =
      (r.watcher.watches.countP fun x => x.id == id && hasPublished x) +
        if x.id == id && hasPublished x' then 1 else 0 := by
    intro id
    have hc := countP_replace found x' fun x => x.id == id && hasPublished x
    simp only [hasPublished_of_open hopen, Bool.and_false, hid] at hc
    rw [hwatches]
    exact hc
  constructor
  · intro y hy hlive
    rw [hwatches] at hy
    rcases List.mem_or_eq_of_mem_set hy with hmem | rfl
    · exact h.open' y hmem hlive
    · exact hopen' hlive
  · rw [haccepted, hwatches, map_id_replace found hid]
    exact h.accepted
  · intro id
    rw [hsuccesses, hcount, h.successes]
  · intro id
    rw [hreported, hcount, h.reported]

/-- The accounts after a step of a task. -/
theorem accounted_hear {r : WatchRun} (h : r.Accounted) {handle : Nat}
    {said : Option WatchState} {watcher : Watcher} (ht : r.watcher.Turn handle said watcher) :
    (r.hear handle said watcher).Accounted := by
  cases ht with
  | idle => rwa [hear_none]
  | @goesOn x x' found live live' hid hopen =>
    rw [hear_none]
    have hopen' := hopen (h.open' x (List.mem_of_getElem? found) live)
    refine accounted_replace h found live x' hid (fun _ => hopen') rfl rfl ?_ ?_ <;> intro id
    · rw [hasPublished_of_open hopen', Bool.and_false]
      rfl
    · rw [hasPublished_of_open hopen', Bool.and_false]
      rfl
  | @ends x said found live =>
    cases said with
    | none =>
      rw [hear_none]
      -- A watch that was stopped keeps its state, and adds to no account.
      have hopen := h.open' x (List.mem_of_getElem? found) live
      have hnone : hasPublished { x with phase := .ended } = false := hasPublished_of_open hopen
      refine accounted_replace h found live { x with phase := .ended } rfl nofun rfl rfl ?_ ?_ <;>
        intro id
      · simp only [Option.getD_none, hnone, Bool.and_false]
        rfl
      · simp only [Option.getD_none, hnone, Bool.and_false]
        rfl
    | some state =>
      rw [hear_some found]
      refine accounted_replace h found live { x with state, phase := .ended } rfl nofun rfl rfl
        ?_ ?_ <;> intro id
      · show List.countP _ (_ ++ _) = _
        rw [List.countP_append, countP_closingToast]
        rfl
      · show List.countP _ (_ ++ _) = _
        rw [List.countP_append, countP_published]
        rfl

/-! ## The invariant -/

theorem accounted_accept {r : WatchRun} (h : r.Accounted) {id : RecordId} {handle : Nat}
    {watcher : Watcher} (accepts : r.watcher.watch id = .ok (handle, watcher)) :
    ({ r with watcher, accepted := r.accepted ++ [id] } : WatchRun).Accounted := by
  obtain ⟨-, -, rfl⟩ := Watcher.watch_eq_ok accepts
  constructor
  · intro x hx hlive
    rcases List.mem_append.mp hx with hmem | hnew
    · exact h.open' x hmem hlive
    · cases List.mem_singleton.mp hnew
      rfl
  · show r.accepted ++ [id] = (r.watcher.watches ++ [({ id } : Watch)]).map Watch.id
    rw [List.map_append, h.accepted]
    rfl
  -- A new watch has not come to its end, and is in no account yet.
  · intro other
    show r.successes other = List.countP _ (r.watcher.watches ++ [({ id } : Watch)])
    rw [List.countP_append, h.successes]
    simp [hasPublished, Watch.published?]
  · intro other
    show r.reported other = List.countP _ (r.watcher.watches ++ [({ id } : Watch)])
    rw [List.countP_append, h.reported]
    simp [hasPublished, Watch.published?]

/-- **Step lemma.** Every event keeps the places and the accounts right. -/
theorem kept_step {r : WatchRun} (h : r.Kept) (e : WatchEvent) : (r.step e).Kept := by
  have hnext := r.next_step e
  generalize r.step e = r' at hnext ⊢
  cases hnext with
  | refused => exact h
  | accepted accepts =>
    exact ⟨Watcher.placed_watch h.placed accepts, accounted_accept h.accounted accepts⟩
  | told about stopping =>
    exact ⟨h.placed, h.accounted.open', h.accounted.accepted, h.accounted.successes,
      h.accounted.reported⟩
  | turned about ht =>
    exact ⟨by simpa using ht.placed h.placed, accounted_hear h.accounted ht⟩

theorem kept_start (interval maxAttempts : Nat) :
    ({ watcher := { interval, maxAttempts } } : WatchRun).Kept := by
  constructor
  · constructor
    · exact List.nodup_nil
    · intro id
      constructor
      · exact nofun
      · rintro ⟨handle, x, hx, -⟩
        cases hx
    · rintro id handle other ⟨x, hx, -⟩
      cases hx
  · exact ⟨fun _ hx => absurd hx List.not_mem_nil, rfl, fun _ => rfl, fun _ => rfl⟩

/-- **Run lemma.** The places and the accounts are right after every run. -/
theorem kept_after {r : WatchRun} (h : r.Kept) (events : List WatchEvent) :
    (r.after events).Kept := by
  induction events generalizing r with
  | nil => exact h
  | cons e events ih => exact ih (kept_step h e)

/-! ## What follows from it -/

theorem count_accepted {r : WatchRun} (h : r.Accounted) (id : RecordId) :
    r.accepted.count id = r.watcher.watches.countP fun x => x.id == id := by
  rw [h.accepted, List.count_eq_countP, List.countP_map]
  rfl

theorem successes_le_accepted {r : WatchRun} (h : r.Accounted) (id : RecordId) :
    r.successes id ≤ r.accepted.count id := by
  rw [h.successes, count_accepted h]
  apply List.countP_mono_left
  intro x _ hx
  exact (Bool.and_eq_true_iff.mp hx).1

theorem reported_eq_successes {r : WatchRun} (h : r.Accounted) (id : RecordId) :
    r.reported id = r.successes id :=
  (h.reported id).trans (h.successes id).symm

theorem takes_step {r : WatchRun} (e : WatchEvent) {id : RecordId}
    (hfree : r.watcher.isWatching id = false) :
    (r.step e).watcher.isWatching id = true ↔ e = .watch id := by
  have hnext := r.next_step e
  generalize r.step e = r' at hnext ⊢
  cases hnext with
  | refused taken =>
    rw [hfree]
    refine ⟨nofun, fun heq => ?_⟩
    cases heq
    exact absurd (taken.symm.trans hfree) nofun
  | @accepted other handle watcher accepts =>
    obtain ⟨-, -, rfl⟩ := Watcher.watch_eq_ok accepts
    have hnot : id ∉ r.watcher.active := fun hmem =>
      absurd (((r.watcher.isWatching_iff_mem id).mpr hmem).symm.trans hfree) nofun
    rw [Watcher.isWatching_iff_mem]
    show id ∈ r.watcher.active ++ [other] ↔ _
    simp [hnot, eq_comm]
  | told about stopping =>
    show r.watcher.isWatching id = true ↔ _
    rw [hfree]
    refine ⟨nofun, fun heq => ?_⟩
    rw [heq] at about
    cases about
  | turned about ht =>
    rw [watcher_hear]
    constructor
    · intro htaken
      exact absurd ((ht.isWatching_of htaken).symm.trans hfree) nofun
    · rintro rfl
      cases about

theorem frees_step {r : WatchRun} (h : r.watcher.Placed) (e : WatchEvent) {id : RecordId}
    (htaken : r.watcher.isWatching id = true) :
    (r.step e).watcher.isWatching id = false ↔
      ∃ handle, e.handle? = some handle ∧ r.watcher.Polls handle id ∧
        ¬ (r.step e).watcher.Polls handle id := by
  have hnext := r.next_step e
  generalize r.step e = r' at hnext ⊢
  -- Only a turn can free a place; the other events leave the place taken and end nothing.
  cases hnext with
  | refused =>
    rw [htaken]
    exact ⟨nofun, fun ⟨_, hnone, _⟩ => nomatch hnone⟩
  | @accepted other handle watcher accepts =>
    obtain ⟨-, -, rfl⟩ := Watcher.watch_eq_ok accepts
    have hmem := (r.watcher.isWatching_iff_mem id).mp htaken
    constructor
    · intro hfree
      have hstill : id ∈ r.watcher.active ++ [other] := List.mem_append_left _ hmem
      exact absurd (((Watcher.isWatching_iff_mem _ id).mpr hstill).symm.trans hfree) nofun
    · exact fun ⟨_, hnone, _⟩ => nomatch hnone
  | told about stopping =>
    show r.watcher.isWatching id = false ↔ _
    rw [htaken]
    exact ⟨nofun, fun ⟨_, _, hpolls, hend⟩ => absurd hpolls hend⟩
  | turned about ht =>
    rw [watcher_hear, ht.freed_iff h htaken, about]
    constructor
    · intro hends
      exact ⟨_, rfl, hends⟩
    · rintro ⟨_, heq, hends⟩
      cases heq
      exact hends

theorem frame_step {r : WatchRun} (e : WatchEvent) {handle : Nat} {x : Watch}
    (hother : e.handle? ≠ some handle) (found : r.watcher.watches[handle]? = some x) :
    (r.step e).watcher.watches[handle]? = some x := by
  have hnext := r.next_step e
  generalize r.step e = r' at hnext ⊢
  cases hnext with
  | refused => exact found
  | accepted accepts =>
    obtain ⟨-, -, rfl⟩ := Watcher.watch_eq_ok accepts
    exact (getElem?_concat_eq_some_iff _ _ _ _).mpr (.inl found)
  | told => exact found
  | turned about ht =>
    rw [watcher_hear, ht.getElem?_ne]
    · exact found
    · rintro rfl
      exact hother about

theorem tell_of_not_polls {r : WatchRun} {handle : Nat}
    (hover : ∀ id, ¬ r.watcher.Polls handle id) : r.tell handle = r := by
  unfold tell
  split
  · rfl
  · rename_i x found
    have hdead : x.isLive = false :=
      Bool.eq_false_iff.mpr fun hlive => hover x.id ⟨x, found, hlive, rfl⟩
    simp [hdead]

theorem step_of_not_polls {r : WatchRun} {e : WatchEvent} {handle : Nat}
    (hhandle : e.handle? = some handle) (hover : ∀ id, ¬ r.watcher.Polls handle id) :
    r.step e = r := by
  cases e with
  | watch id => cases hhandle
  | cancel other =>
    cases hhandle
    exact tell_of_not_polls hover
  | drop other =>
    cases hhandle
    exact tell_of_not_polls hover
  | turn other t =>
    cases hhandle
    obtain ⟨said, watcher, ht, hturn⟩ := r.turn_eq handle t
    obtain ⟨rfl, rfl⟩ := ht.eq_of_not_polls hover
    exact hturn.trans (hear_none _ _ _)

theorem mem_stopping_tell {r : WatchRun} {handle : Nat} {id : RecordId}
    (h : r.watcher.Polls handle id) : handle ∈ (r.tell handle).stopping := by
  obtain ⟨x, found, live, -⟩ := h
  unfold tell
  rw [found]
  dsimp only
  by_cases hin : handle ∈ r.stopping
  · simp [live, hin]
  · simp [live, hin]

theorem stopping_tell {r : WatchRun} {handle : Nat} (other : Nat) (h : handle ∈ r.stopping) :
    handle ∈ (r.tell other).stopping := by
  obtain ⟨stopping, htell, hsub⟩ := r.tell_eq other
  rw [htell]
  exact hsub handle h

theorem stopping_step {r : WatchRun} (e : WatchEvent) {handle : Nat}
    (h : handle ∈ r.stopping) : handle ∈ (r.step e).stopping := by
  cases e with
  | watch id =>
    show handle ∈ (r.watch id).stopping
    unfold watch
    split <;> exact h
  | cancel other => exact stopping_tell other h
  | drop other => exact stopping_tell other h
  | turn other t =>
    obtain ⟨said, watcher, -, hturn⟩ := r.turn_eq other t
    show handle ∈ (r.turn other t).stopping
    rwa [hturn, stopping_hear]

theorem turn_of_stopping {r : WatchRun} {handle : Nat} (h : handle ∈ r.stopping)
    (t : WatchTurn) : r.turn handle t = { r with watcher := r.watcher.stop handle } := by
  unfold turn
  rw [if_pos (List.contains_iff_mem.mpr h)]

/-- All that the invariant says of a run, and of what comes next. -/
theorem Kept.sound {r : WatchRun} (h : r.Kept) : r.Sound where
  single _ _ _ := h.placed.single
  watching := h.placed.isWatching_iff
  refused id e := by
    rw [Watcher.watch_eq_error_iff, h.placed.isWatching_iff, and_comm]
  takes e _ := takes_step e
  frees e _ := frees_step h.placed e
  frame e _ _ := frame_step e
  past _ _ := step_of_not_polls
  told _ _ hpolls := ⟨mem_stopping_tell hpolls, mem_stopping_tell hpolls⟩
  untold e _ := stopping_step e
  stopped handle t hstop := by
    have hturn : r.step (.turn handle t) = { r with watcher := r.watcher.stop handle } :=
      turn_of_stopping hstop t
    rw [hturn]
    exact ⟨r.watcher.not_polls_stop handle, rfl, rfl⟩
  successes_le := successes_le_accepted h.accounted
  reported_le id := by
    rw [reported_eq_successes h.accounted]
    exact successes_le_accepted h.accounted id

/-- Whatever the settings are, and in whatever order watches are asked for, cancelled and
    let go of, polls fall due and answers arrive: an offering has at most one live watch,
    has its place while it has one, and is refused another one only then; a place becomes
    free by the end of its own watch and by nothing else; and an offering is reported and
    announced as published at most once for each watch that was accepted. -/
theorem watching_sound (interval maxAttempts : Nat) (events : List WatchEvent) :
    (({ watcher := { interval, maxAttempts } } : WatchRun).after events).Sound :=
  (kept_after (kept_start interval maxAttempts) events).sound

end WatchRun

end CatalogDesk
