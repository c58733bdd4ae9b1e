import CatalogDesk.Proofs.Publish.Answers
import CatalogDesk.Proofs.Publish.Diary

/-! # Watches that run to their end

    A watch that nobody stops polls until an answer decides, or until its polls are used
    up.  The turns of its task are those for which it waits; between any two of them
    anything may happen to other watches, and the task may be woken in vain.  `Course` tells
    where the watch is after each turn and what its diary holds by then.

    Main result: `polls_to_the_end` says that the diary of an accepted watch grows to
    `story`, its requests, states, notice and report in their order. -/

namespace CatalogDesk

/-! ## The story of a watch -/

/-- The request of a poll. -/
def Request.polling (id : RecordId) : Request where
  method := .get
  path := "/offerings/" ++ id

namespace WatchDeed

/-- The first polls of a watch: before each request its number can be seen. -/
def attempts (id : RecordId) : Nat → List WatchDeed
  | 0 => []
  | polls + 1 => attempts id polls ++ [.became (.polling (polls + 1)), .asked (.polling id)]

/-- How a watch takes its leave.  Only an offering that was published is reported. -/
def farewell : WatchState → List WatchDeed
  | .succeeded o =>
    [.showed ⟨.success, "\"" ++ o.name ++ "\" is now published!"⟩, .became (.succeeded o),
      .reported o]
  | .failed reason =>
    [.showed ⟨.error, "Publication failed: " ++ reason⟩, .became (.failed reason)]
  | .timedOut =>
    [.showed ⟨.error,
        "Publication is taking longer than expected. Check its status in the Viewer."⟩,
      .became .timedOut]
  | state => [.became state]

/-- All that a watch does that asks so often and ends so. -/
def story (id : RecordId) (polls : Nat) (outcome : WatchState) : List WatchDeed :=
  attempts id polls ++ farewell outcome

/-- What is noticed at the end of a watch is its farewell. -/
theorem ending_eq (state : WatchState) : ending state = farewell state := by
  cases state <;> rfl

/-- Every end is told in one notice. -/
theorem filterMap_toast_farewell {state : WatchState} (h : state.isTerminal = true) :
    ∃ toast, (farewell state).filterMap toast? = [toast] ∧
      (toast.level = .success ↔ ∃ o, state = .succeeded o) := by
  cases state with
  | idle => cases h
  | polling attempt => cases h
  | succeeded o => exact ⟨_, rfl, iff_of_true rfl ⟨o, rfl⟩⟩
  | failed reason => exact ⟨_, rfl, by simp⟩
  | timedOut => exact ⟨_, rfl, by simp⟩

theorem attempts_prefix (id : RecordId) {done polls : Nat} (hle : done ≤ polls) :
    attempts id done <+: attempts id polls := by
  induction polls with
  | zero =>
    cases Nat.le_zero.mp hle
    exact List.prefix_refl _
  | succ polls ih =>
    rcases Nat.le_succ_iff.mp hle with hle | rfl
    · exact (ih hle).trans (List.prefix_append _ _)
    · exact List.prefix_refl _

theorem filterMap_request_story (id : RecordId) (polls : Nat) (outcome : WatchState) :
    (story id polls outcome).filterMap request? = List.replicate polls (.polling id) := by
  have hfarewell : (farewell outcome).filterMap request? = [] := by cases outcome <;> rfl
  unfold story
  rw [List.filterMap_append, hfarewell, List.append_nil]
  induction polls with
  | zero => rfl
  | succ polls ih =>
    rw [attempts, List.filterMap_append, ih, List.replicate_succ']
    rfl

theorem filterMap_state_story (id : RecordId) (polls : Nat) (outcome : WatchState) :
    (story id polls outcome).filterMap state? =
      (List.range polls).map (fun k => .polling (k + 1)) ++ [outcome] := by
  have hfarewell : (farewell outcome).filterMap state? = [outcome] := by cases outcome <;> rfl
  unfold story
  rw [List.filterMap_append, hfarewell]
  congr 1
  induction polls with
  | zero => rfl
  | succ polls ih =>
    rw [attempts, List.filterMap_append, ih, List.range_succ, List.map_append]
    rfl

/-- Before its end a watch does nothing but to go to a poll and to ask, so what else it does
    it does at its end. -/
theorem filterMap_story {α : Type} {f : WatchDeed → Option α}
    (became : ∀ state, f (.became state) = none) (asked : ∀ request, f (.asked request) = none)
    (id : RecordId) (polls : Nat) (outcome : WatchState) :
    (story id polls outcome).filterMap f = (farewell outcome).filterMap f := by
  have hattempts : (attempts id polls).filterMap f = [] := by
    induction polls with
    | zero => rfl
    | succ polls ih =>
      rw [attempts, List.filterMap_append, ih, List.nil_append,
        List.filterMap_cons_none (became _), List.filterMap_cons_none (asked _),
        List.filterMap_nil]
  unfold story
  rw [List.filterMap_append, hattempts, List.nil_append]

end WatchDeed

/-! ## The turns of a watch -/

/-- What a watch meets that nobody stops: the answers to its polls, and what happens before
    each of its turns, to other watches or in vain. -/
structure WatchSurroundings (handle : Nat) where
  answers : Nat → Except String Answer
  between : Nat → List WatchEvent
  idle : ∀ n, ∀ e ∈ between n, e.handle? = some handle → e = .turn handle .woken

namespace WatchSurroundings

variable {handle : Nat} (s : WatchSurroundings handle)

/-- The turn for which a task waits; one that is over may be woken in vain. -/
def awaited : WatchPhase → WatchTurn
  | .starting => .started
  | .sleeping _ => .due
  | .asking attempt => .answered (Watch.heard (s.answers attempt))
  | .ended => .woken

/-- The next turn of the watch in a run. -/
def turnIn (r : WatchRun) : WatchTurn :=
  ((r.watcher.watches[handle]?).map fun x => s.awaited x.phase).getD .woken

/-- What happens up to a turn of the watch. -/
def events (r : WatchRun) : Nat → List WatchEvent
  | 0 => []
  | n + 1 =>
    let before := events r n ++ s.between n
    before ++ [.turn handle (s.turnIn (r.after before))]

end WatchSurroundings

namespace WatchRun

/-- Nobody has stopped the watch, and the watcher has this limit. -/
structure Unhindered (r : WatchRun) (handle limit : Nat) : Prop where
  untold : handle ∉ r.stopping
  limit : r.watcher.maxAttempts = limit

/-- Where a watch is after some turns, and its diary by then; `polls` and `outcome` are how
    often it asks in all and how it ends. -/
inductive Course (id : RecordId) (polls : Nat) (outcome : WatchState) :
    Nat → Watch → List WatchDeed → Prop
  | starting : Course id polls outcome 0 { id } []
  | sleeping {done : Nat} (left : done < polls) :
      Course id polls outcome (2 * done + 1) ⟨id, .polling (done + 1), .sleeping (done + 1)⟩
        (WatchDeed.attempts id done ++ [.became (.polling (done + 1))])
  | asking {done : Nat} (left : done < polls) :
      Course id polls outcome (2 * done + 2) ⟨id, .polling (done + 1), .asking (done + 1)⟩
        (WatchDeed.attempts id (done + 1))
  | ended {n : Nat} (late : 2 * polls < n) :
      Course id polls outcome n ⟨id, outcome, .ended⟩ (WatchDeed.story id polls outcome)

variable {id : RecordId} {polls limit handle : Nat} {outcome : WatchState}

/-- A watch goes to its next poll, or ends because its polls are used up. -/
theorem course_beginAttempt {answers : Nat → Except String Answer} {w : Watcher} {x : Watch}
    (hends : Watch.Ends answers limit polls outcome) (hlimit : w.maxAttempts = limit)
    (found : w.watches[handle]? = some x) (hid : x.id = id) {done : Nat} (hle : done ≤ polls)
    (hnone : 1 ≤ done → Watch.verdict (Watch.heard (answers done)) = none) :
    ∃ x', (w.beginAttempt handle x (done + 1)).2.watches[handle]? = some x' ∧
      Course id polls outcome (2 * done + 1) x' (WatchDeed.attempts id done ++
        (w.beginAttempt handle x (done + 1)).2.deeds handle
          (w.beginAttempt handle x (done + 1)).1) := by
  subst hid
  unfold Watcher.beginAttempt
  -- The watcher's limit and the story agree on whether a poll is left.
  rcases hends.goes_on hle hnone with hlt | ⟨rfl, rfl, rfl⟩
  · have hleft : done + 1 ≤ w.maxAttempts := hlimit ▸ Nat.le_trans hlt hends.le_limit
    rw [if_pos hleft]
    refine ⟨_, Watcher.getElem?_put_self found _, ?_⟩
    unfold Watcher.deeds
    rw [Watcher.state?_put found]
    exact .sleeping hlt
  · rw [if_neg (by omega)]
    exact ⟨_, Watcher.getElem?_put_self found _,
      .ended (Nat.lt_succ_self _)⟩

/-- **Step lemma.** The turn for which the task waits takes the watch one step on. -/
theorem course_turn {s : WatchSurroundings handle} {r : WatchRun} {x : Watch} {n : Nat}
    {deeds : List WatchDeed} (hends : Watch.Ends s.answers limit polls outcome)
    (hfree : r.Unhindered handle limit) (found : r.watcher.watches[handle]? = some x)
    (hcourse : Course id polls outcome n x deeds) :
    ∃ x', (r.perform handle (s.awaited x.phase)).2.watches[handle]? = some x' ∧
      Course id polls outcome (n + 1) x' (deeds ++ (r.perform handle (s.awaited x.phase)).1) := by
  have huntold : ¬ r.stopping.contains handle = true :=
    fun h => hfree.untold (List.contains_iff_mem.mp h)
  unfold perform
  rw [if_neg huntold]
  -- In each phase the task gets the turn for which it waits.
  cases hcourse with
  | starting =>
    have hstart : r.watcher.start handle = r.watcher.beginAttempt handle { id } 1 := by
      unfold Watcher.start
      rw [found]
      rfl
    dsimp only [WatchSurroundings.awaited]
    rw [hstart]
    exact course_beginAttempt hends hfree.limit found rfl (Nat.zero_le _) nofun
  | @sleeping done left =>
    have hask : r.watcher.ask handle = (some (.polling id),
        r.watcher.put handle ⟨id, .polling (done + 1), .asking (done + 1)⟩) := by
      unfold Watcher.ask
      rw [found]
      rfl
    dsimp only [WatchSurroundings.awaited]
    rw [hask]
    refine ⟨_, Watcher.getElem?_put_self found _, ?_⟩
    rw [List.append_assoc]
    exact .asking left
  | @asking done left =>
    dsimp only [WatchSurroundings.awaited]
    unfold Watcher.answer
    rw [found]
    dsimp only
    cases hverdict : Watch.verdict (Watch.heard (s.answers (done + 1))) with
    | some state =>
      obtain ⟨rfl, rfl⟩ := hends.decides (Nat.succ_pos done) left hverdict
      refine ⟨_, Watcher.getElem?_put_self found _, ?_⟩
      show Course id (done + 1) state _ _ (_ ++ WatchDeed.ending state)
      rw [WatchDeed.ending_eq]
      exact .ended (Nat.lt_succ_self _)
    | none => exact course_beginAttempt hends hfree.limit found rfl left fun _ => hverdict
  | ended late =>
    dsimp only [WatchSurroundings.awaited]
    rw [List.append_nil]
    exact ⟨_, found, .ended (Nat.lt_succ_of_lt late)⟩

/-! ## Runs -/

theorem maxAttempts_step (r : WatchRun) (e : WatchEvent) :
    (r.step e).watcher.maxAttempts = r.watcher.maxAttempts := by
  have hnext := r.next_step e
  generalize r.step e = r' at hnext ⊢
  cases hnext with
  | refused => rfl
  | accepted accepts =>
    obtain ⟨-, -, rfl⟩ := Watcher.watch_eq_ok accepts
    rfl
  | told => rfl
  | turned about ht =>
    rw [watcher_hear]
    exact ht.maxAttempts_eq

theorem maxAttempts_after (r : WatchRun) (events : List WatchEvent) :
    (r.after events).watcher.maxAttempts = r.watcher.maxAttempts := by
  induction events generalizing r with
  | nil => rfl
  | cons e events ih => exact (ih (r.step e)).trans (maxAttempts_step r e)

theorem length_step (r : WatchRun) (e : WatchEvent) :
    r.watcher.watches.length ≤ (r.step e).watcher.watches.length := by
  have hnext := r.next_step e
  generalize r.step e = r' at hnext ⊢
  cases hnext with
  | refused => exact Nat.le_refl _
  | accepted accepts =>
    obtain ⟨-, -, rfl⟩ := Watcher.watch_eq_ok accepts
    exact List.length_append ▸ Nat.le_add_right _ _
  | told => exact Nat.le_refl _
  | turned about ht =>
    rw [watcher_hear]
    exact Nat.le_of_eq ht.length_eq.symm

/-- Who is told to stop had been accepted, and was told so by its owner. -/
theorem of_mem_stopping_tell {r : WatchRun} {other : Nat}
    (h : handle ∈ (r.tell other).stopping) :
    handle ∈ r.stopping ∨ other = handle ∧ handle < r.watcher.watches.length := by
  unfold tell at h
  split at h
  · exact .inl h
  · rename_i x found
    split at h
    · rcases List.mem_append.mp h with hmem | hnew
      · exact .inl hmem
      · cases List.mem_singleton.mp hnew
        exact .inr ⟨rfl, (List.getElem?_eq_some_iff.mp found).1⟩
    · exact .inl h

theorem of_mem_stopping_step {r : WatchRun} {e : WatchEvent}
    (h : handle ∈ (r.step e).stopping) :
    handle ∈ r.stopping ∨
      (e = .cancel handle ∨ e = .drop handle) ∧ handle < r.watcher.watches.length := by
  cases e with
  | watch id =>
    change handle ∈ (r.watch id).stopping at h
    unfold watch at h
    split at h <;> exact .inl h
  | cancel other =>
    rcases of_mem_stopping_tell h with hmem | ⟨rfl, hlt⟩
    · exact .inl hmem
    · exact .inr ⟨.inl rfl, hlt⟩
  | drop other =>
    rcases of_mem_stopping_tell h with hmem | ⟨rfl, hlt⟩
    · exact .inl hmem
    · exact .inr ⟨.inr rfl, hlt⟩
  | turn other t =>
    obtain ⟨said, watcher, -, hturn⟩ := r.turn_eq other t
    change handle ∈ (r.turn other t).stopping at h
    rw [hturn, stopping_hear] at h
    exact .inl h

/-- Nobody but accepted watches is told to stop. -/
def ToldAccepted (r : WatchRun) : Prop :=
  ∀ handle ∈ r.stopping, handle < r.watcher.watches.length

theorem toldAccepted_after {r : WatchRun} (h : r.ToldAccepted) (events : List WatchEvent) :
    (r.after events).ToldAccepted := by
  induction events generalizing r with
  | nil => exact h
  | cons e events ih =>
    refine ih fun handle hmem => Nat.lt_of_lt_of_le ?_ (length_step r e)
    rcases of_mem_stopping_step hmem with hmem | ⟨-, hlt⟩
    · exact h handle hmem
    · exact hlt

/-- A watch that has just been accepted has not been stopped. -/
theorem unhindered_accept {r : WatchRun} (h : r.ToldAccepted) {watcher : Watcher}
    (accepts : r.watcher.watch id = .ok (handle, watcher)) :
    (r.step (.watch id)).Unhindered handle r.watcher.maxAttempts ∧
      (r.step (.watch id)).watcher.watches[handle]? = some { id } := by
  have hstep : r.step (.watch id) = { r with watcher, accepted := r.accepted ++ [id] } := by
    show r.watch id = _
    unfold watch
    rw [accepts]
  obtain ⟨-, rfl, rfl⟩ := Watcher.watch_eq_ok accepts
  rw [hstep]
  refine ⟨⟨fun hmem => ?_, rfl⟩, ?_⟩
  · exact absurd (h _ hmem) (Nat.lt_irrefl _)
  · exact List.getElem?_concat_length

theorem unhindered_step {r : WatchRun} (h : r.Unhindered handle limit) {e : WatchEvent}
    (spares : e ≠ .cancel handle ∧ e ≠ .drop handle) :
    (r.step e).Unhindered handle limit := by
  refine ⟨fun hmem => ?_, (maxAttempts_step r e).trans h.limit⟩
  rcases of_mem_stopping_step hmem with hmem | ⟨rfl | rfl, -⟩
  · exact h.untold hmem
  · exact spares.1 rfl
  · exact spares.2 rfl

/-- A task that nobody has stopped and that is woken in vain goes on waiting. -/
theorem step_woken {r : WatchRun} (h : r.Unhindered handle limit) :
    r.step (.turn handle .woken) = r := by
  show r.turn handle .woken = r
  unfold turn
  rw [if_neg fun hmem => h.untold (List.contains_iff_mem.mp hmem)]

/-- What happens to other watches, or in vain, leaves the watch where it is. -/
theorem unhindered_idle {r : WatchRun} {x : Watch} (h : r.Unhindered handle limit)
    (found : r.watcher.watches[handle]? = some x) {events : List WatchEvent}
    (idle : ∀ e ∈ events, e.handle? = some handle → e = .turn handle .woken) :
    (r.after events).Unhindered handle limit ∧
      (r.after events).watcher.watches[handle]? = some x := by
  induction events generalizing r with
  | nil => exact ⟨h, found⟩
  | cons e events ih =>
    have hrest : ∀ e' ∈ events, e'.handle? = some handle → e' = .turn handle .woken :=
      fun e' hmem => idle e' (List.mem_cons_of_mem e hmem)
    by_cases hown : e.handle? = some handle
    · cases idle e List.mem_cons_self hown
      show ((r.step (.turn handle .woken)).after events).Unhindered handle limit ∧
        ((r.step (.turn handle .woken)).after events).watcher.watches[handle]? = some x
      rw [step_woken h]
      exact ih h found hrest
    · have hspares : e ≠ .cancel handle ∧ e ≠ .drop handle := by
        constructor
        · rintro rfl
          exact hown rfl
        · rintro rfl
          exact hown rfl
      exact ih (unhindered_step h hspares) (frame_step e hown found) hrest

/-- **Run lemma.** -/
theorem course_events (s : WatchSurroundings handle) {r : WatchRun}
    (hends : Watch.Ends s.answers limit polls outcome) (hfree : r.Unhindered handle limit)
    (fresh : r.watcher.watches[handle]? = some { id }) (n : Nat) :
    ∃ x, (r.after (s.events r n)).watcher.watches[handle]? = some x ∧
      (r.after (s.events r n)).Unhindered handle limit ∧
      Course id polls outcome n x (r.diary handle (s.events r n)) := by
  -- Induction on the turns; what happens in between changes neither the watch nor its diary.
  induction n with
  | zero => exact ⟨_, fresh, hfree, .starting⟩
  | succ n ih =>
    obtain ⟨x, found, hfree, hcourse⟩ := ih
    obtain ⟨hfree, found⟩ := unhindered_idle hfree found (s.idle n)
    rw [← after_append] at hfree found
    obtain ⟨x', found', hcourse'⟩ := course_turn (s := s) hends hfree found hcourse
    have hturn : s.turnIn (r.after (s.events r n ++ s.between n)) = s.awaited x.phase := by
      unfold WatchSurroundings.turnIn
      rw [found]
      rfl
    rw [WatchSurroundings.events, hturn]
    refine ⟨x', ?_, ?_, ?_⟩
    · rw [after_append]
      show (turn _ _ _).watcher.watches[handle]? = some x'
      rw [watcher_turn]
      exact found'
    · rw [after_append]
      exact unhindered_step (e := .turn handle (s.awaited x.phase)) hfree ⟨nofun, nofun⟩
    · rw [diary_append, diary_append, diary_of_idle (s.idle n), List.append_nil]
      show Course id polls outcome (n + 1) x' (_ ++ ((if _ then _ else _) ++ []))
      rw [if_pos rfl, List.append_nil]
      exact hcourse'

/-! ## What follows from it -/

theorem Course.diary_prefix {n : Nat} {x : Watch} {deeds : List WatchDeed}
    (h : Course id polls outcome n x deeds) : deeds <+: WatchDeed.story id polls outcome := by
  have hattempts {done : Nat} (hle : done ≤ polls) :
      WatchDeed.attempts id done <+: WatchDeed.story id polls outcome :=
    (WatchDeed.attempts_prefix id hle).trans (List.prefix_append _ _)
  cases h with
  | starting => exact List.nil_prefix
  | @sleeping done left =>
    refine List.IsPrefix.trans ⟨[.asked (.polling id)], ?_⟩ (hattempts left)
    rw [List.append_assoc]
    rfl
  | asking left => exact hattempts left
  | ended => exact List.prefix_refl _

/-- Every poll takes two turns, and one more leads to the first of them. -/
theorem Course.of_late {n : Nat} {x : Watch} {deeds : List WatchDeed}
    (h : Course id polls outcome n x deeds) (late : 2 * polls < n) :
    x = ⟨id, outcome, .ended⟩ ∧ deeds = WatchDeed.story id polls outcome := by
  cases h with
  | starting => omega
  | sleeping left => omega
  | asking left => omega
  | ended => exact ⟨rfl, rfl⟩

theorem Course.live_of_early {n : Nat} {x : Watch} {deeds : List WatchDeed}
    (h : Course id polls outcome n x deeds) (early : n ≤ 2 * polls) :
    x.isLive = true ∧ x.id = id ∧ x.isFinished = false := by
  cases h with
  | ended late => omega
  | _ => exact ⟨rfl, rfl, rfl⟩

/-- What holds of a watch of `id` that nobody stops, if it asks so often and ends so. -/
structure PollsOut (r : WatchRun) (s : WatchSurroundings handle) (id : RecordId) (polls : Nat)
    (outcome : WatchState) : Prop where
  /-- At no time is the diary more than the beginning of the story. -/
  growing : ∀ n, r.diary handle (s.events r n) <+: WatchDeed.story id polls outcome
  /-- Every poll takes two turns, and one more leads to the first of them; no turn after
      that adds anything. -/
  complete : ∀ n, 2 * polls < n →
    r.diary handle (s.events r n) = WatchDeed.story id polls outcome
  /-- Until then the watch is live, and who waits for it goes on waiting; then he is told how
      it has ended. -/
  live : ∀ n, n ≤ 2 * polls → (r.after (s.events r n)).watcher.Polls handle id
  waiting : ∀ n, n ≤ 2 * polls → (r.after (s.events r n)).watcher.wait? handle = none
  ended : ∀ n, 2 * polls < n → (r.after (s.events r n)).watcher.wait? handle = some outcome
  /-- In the story there is one request for each poll, -/
  requests : (WatchDeed.story id polls outcome).filterMap WatchDeed.request? =
    List.replicate polls { method := .get, path := "/offerings/" ++ id }
  /-- the polls can be seen one by one, and then the end, -/
  states : (WatchDeed.story id polls outcome).filterMap WatchDeed.state? =
    (List.range polls).map (fun k => .polling (k + 1)) ++ [outcome]
  /-- there is one notice, of success if the offering was published and else of an error, -/
  notice : ∃ toast, (WatchDeed.story id polls outcome).filterMap WatchDeed.toast? = [toast] ∧
    (toast.level = .success ↔ ∃ o, outcome = .succeeded o)
  /-- and an offering that was published is reported once, and no other ever. -/
  reports : ∀ o, outcome = .succeeded o →
    (WatchDeed.story id polls outcome).filterMap WatchDeed.report? = [o]
  unreported : (∀ o, outcome ≠ .succeeded o) →
    (WatchDeed.story id polls outcome).filterMap WatchDeed.report? = []

theorem pollsOut_of_ends {s : WatchSurroundings handle} {r : WatchRun}
    (hends : Watch.Ends s.answers limit polls outcome) (hfree : r.Unhindered handle limit)
    (fresh : r.watcher.watches[handle]? = some { id }) : r.PollsOut s id polls outcome where
  growing n := by
    obtain ⟨x, -, -, hcourse⟩ := course_events s hends hfree fresh n
    exact hcourse.diary_prefix
  complete n late := by
    obtain ⟨x, -, -, hcourse⟩ := course_events s hends hfree fresh n
    exact (hcourse.of_late late).2
  live n early := by
    obtain ⟨x, found, -, hcourse⟩ := course_events s hends hfree fresh n
    obtain ⟨hlive, hid, -⟩ := hcourse.live_of_early early
    exact ⟨x, found, hlive, hid⟩
  waiting n early := by
    obtain ⟨x, found, -, hcourse⟩ := course_events s hends hfree fresh n
    obtain ⟨-, -, hopen⟩ := hcourse.live_of_early early
    rw [Watcher.wait?_of_found found, hopen]
    rfl
  ended n late := by
    obtain ⟨x, found, -, hcourse⟩ := course_events s hends hfree fresh n
    obtain ⟨rfl, -⟩ := hcourse.of_late late
    rw [Watcher.wait?_of_found found]
    simp [Watch.isFinished, Watch.isLive]
  requests := WatchDeed.filterMap_request_story id polls outcome
  states := WatchDeed.filterMap_state_story id polls outcome
  notice := by
    rw [WatchDeed.filterMap_story (fun _ => rfl) (fun _ => rfl)]
    exact WatchDeed.filterMap_toast_farewell hends.isTerminal
  reports o ho := by
    rw [WatchDeed.filterMap_story (fun _ => rfl) (fun _ => rfl), ho]
    rfl
  unreported hnone := by
    rw [WatchDeed.filterMap_story (fun _ => rfl) (fun _ => rfl)]
    cases outcome with
    | succeeded o => exact absurd rfl (hnone o)
    | _ => rfl

/-- Whatever happened before a watch was accepted, however the backend answers its polls,
    and whatever happens to other watches meanwhile: the first answer that decides, or the
    limit if there is none, tells how often the watch asks and how it ends. -/
theorem polls_to_the_end (interval limit : Nat) (before : List WatchEvent) (id : RecordId)
    (handle : Nat) (watcher : Watcher)
    (accepts : (({ watcher := { interval, maxAttempts := limit } } : WatchRun).after
      before).watcher.watch id = .ok (handle, watcher)) (s : WatchSurroundings handle) :
    ∃ polls outcome, Watch.Ends s.answers limit polls outcome ∧
      ((({ watcher := { interval, maxAttempts := limit } } : WatchRun).after before).step
        (.watch id)).PollsOut s id polls outcome := by
  obtain ⟨polls, outcome, hends⟩ := Watch.exists_ends s.answers limit
  have htold : ({ watcher := { interval, maxAttempts := limit } } : WatchRun).ToldAccepted :=
    fun _ hmem => absurd hmem List.not_mem_nil
  obtain ⟨hfree, fresh⟩ := unhindered_accept (toldAccepted_after htold before) accepts
  rw [maxAttempts_after] at hfree
  exact ⟨polls, outcome, hends, pollsOut_of_ends hends hfree fresh⟩

/-- The first poll gets no answer, and the second one finds the offering published, while
    another watch is cancelled again and again, and this one is woken in vain. -/
theorem polls_to_the_end_published :
    let r := (({ watcher := { interval := 2000, maxAttempts := 3 } } : WatchRun).after
      [.watch "o1"]).step (.watch "o2")
    let o : Offering := { (default : Offering) with
      id := "o2", name := "Fibre", status := .published }
    ∃ s : WatchSurroundings 1,
      s.answers 1 = .error "request timed out" ∧ Watch.Settles (s.answers 2) (.succeeded o) ∧
      r.PollsOut s "o2" 2 (.succeeded o) ∧
      (r.diary 1 (s.events r 5)).filterMap WatchDeed.report? = [o] := by
  intro r o
  let s : WatchSurroundings 1 := {
    answers := fun k =>
      if k = 1 then .error "request timed out"
      else .ok ⟨200, some (.object [("id", .text "o2"), ("lifecycle_status", .text "PUBLISHED"),
        ("name", .text "Fibre")])⟩
    between := fun _ => [.cancel 0, .turn 0 .due, .turn 1 .woken]
    idle := by simp [WatchEvent.handle?] }
  have hsettles : Watch.Settles (s.answers 2) (.succeeded o) :=
    .published ⟨by decide, rfl⟩ rfl
  have hfirst : Watch.Undecided s.answers 1 := by
    intro k hk hle state hstate
    obtain rfl := Nat.le_antisymm hle hk
    cases hstate
  obtain ⟨polls, outcome, hends, hout⟩ := polls_to_the_end 2000 3 [.watch "o1"] "o2" 1 _ rfl s
  obtain ⟨rfl, rfl⟩ := hends.unique (.settled (by decide) hfirst hsettles)
  refine ⟨s, rfl, hsettles, hout, ?_⟩
  rw [hout.complete 5 (by decide)]
  exact hout.reports o rfl

end WatchRun

end CatalogDesk
