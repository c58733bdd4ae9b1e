import CatalogDesk.Proofs.Publish.Diary

/-! # Stopped watches

    A watch may be cancelled, or let go of, wherever its task waits: before its first
    step, while it sleeps, or during a poll, with the answer already under way.  Its task
    takes note at its next turn and gives its place back; until then nothing is left for
    it to do either.

    The invariant is `Hushed`: the task is over, or has been told to stop.  Every event
    keeps it (`hushed_step`), and a hushed watch does nothing (`deedsAt_of_hushed`).

    Main result: `stopped_silenced` says that `Silenced` holds from the moment at which a
    watch is cancelled or let go of. -/

namespace CatalogDesk

/-! ## Watches that are over -/

namespace Watcher

theorem not_polls_of_dead {w : Watcher} {handle : Nat} {x : Watch}
    (found : w.watches[handle]? = some x) (dead : x.isLive = false) (id : RecordId) :
    ¬ w.Polls handle id := by
  rintro ⟨y, hy, hlive, -⟩
  cases found.symm.trans hy
  exact absurd (hlive.symm.trans dead) nofun

theorem phase_of_over {w : Watcher} {handle : Nat} {x : Watch}
    (found : w.watches[handle]? = some x) (hover : ∀ id, ¬ w.Polls handle id) :
    x.phase = .ended :=
  Decidable.byContradiction fun hphase => hover x.id ⟨x, found, bne_iff_ne.mpr hphase, rfl⟩

/-- No turn of a task that is over leads anywhere. -/
theorem start_of_over {w : Watcher} {handle : Nat} (hover : ∀ id, ¬ w.Polls handle id) :
    w.start handle = (.nothing, w) := by
  unfold start
  split
  · rfl
  · rename_i x found
    rw [phase_of_over found hover]
    rfl

theorem ask_of_over {w : Watcher} {handle : Nat} (hover : ∀ id, ¬ w.Polls handle id) :
    w.ask handle = (none, w) := by
  unfold ask
  split
  · rfl
  · rename_i x found
    rw [phase_of_over found hover]

theorem answer_of_over {w : Watcher} {handle : Nat} (hover : ∀ id, ¬ w.Polls handle id)
    (result : Except Failure Offering) : w.answer handle result = (.nothing, w) := by
  unfold answer
  split
  · rfl
  · rename_i x found
    rw [phase_of_over found hover]

theorem isAsking_of_over {w : Watcher} {handle : Nat} (hover : ∀ id, ¬ w.Polls handle id) :
    w.isAsking handle = false := by
  unfold isAsking
  cases found : w.watches[handle]? with
  | none => rfl
  | some x =>
    rw [Option.any_some, phase_of_over found hover]

/-- A place that is free is given to who asks for it. -/
theorem watch_of_free {w : Watcher} {id : RecordId} (free : w.isWatching id = false) :
    ∃ accepted, w.watch id = .ok accepted := by
  cases h : w.watch id with
  | ok accepted => exact ⟨accepted, rfl⟩
  | error e =>
    exact absurd (((w.watch_eq_error_iff id e).mp h).1.symm.trans free) nofun

end Watcher

/-- The timers of a watch that was stopped wake nobody: neither the time of a poll nor the
    reply to one leads anywhere. -/
theorem Scheduler.wake_of_over {α : Type} {s : Scheduler α} {handle : Nat}
    (hover : ∀ id, ¬ s.watcher.Polls handle id) {timer : Timer α}
    (own : timer.wake = .poll handle ∨ ∃ flight, timer.wake = .pollReply handle flight) :
    s.wake timer = s := by
  have hpoll : s.poll handle = (.nothing, s) := by
    unfold poll
    rw [Watcher.ask_of_over hover]
  have hfollow : s.followWatch handle .nothing = s := rfl
  unfold wake
  rcases own with hwake | ⟨flight, hwake⟩
  · rw [hwake]
    dsimp only
    rw [hpoll, hfollow]
  · have hanswered : s.pollAnswered handle flight = (.nothing, s) := by
      unfold pollAnswered
      rw [Watcher.isAsking_of_over hover]
      rfl
    rw [hwake]
    dsimp only
    rw [hanswered, hfollow]

namespace WatchRun

theorem perform_of_over {r : WatchRun} {handle : Nat}
    (hover : ∀ id, ¬ r.watcher.Polls handle id) (t : WatchTurn) :
    (r.perform handle t).1 = [] := by
  unfold perform
  split
  · rfl
  · cases t with
    | started => simp only [Watcher.start_of_over hover, Watcher.deeds]
    | due => simp only [Watcher.ask_of_over hover, Option.map_none, Option.toList_none]
    | answered result => simp only [Watcher.answer_of_over hover, Watcher.deeds]
    | woken => rfl

/-- A watch that is over stays as it is. -/
theorem dead_step {r : WatchRun} {handle : Nat} {x : Watch}
    (found : r.watcher.watches[handle]? = some x) (dead : x.isLive = false) (e : WatchEvent) :
    (r.step e).watcher.watches[handle]? = some x := by
  by_cases hown : e.handle? = some handle
  · rw [step_of_not_polls hown (Watcher.not_polls_of_dead found dead)]
    exact found
  · exact frame_step e hown found

theorem dead_after {r : WatchRun} {handle : Nat} {x : Watch}
    (found : r.watcher.watches[handle]? = some x) (dead : x.isLive = false)
    (events : List WatchEvent) : (r.after events).watcher.watches[handle]? = some x := by
  induction events generalizing r with
  | nil => exact found
  | cons e events ih => exact ih (dead_step found dead e)

/-! ## Watches that were told to stop -/

/-- The task of the watch is over, or has been told to stop. -/
def Hushed (r : WatchRun) (handle : Nat) (id : RecordId) (state : WatchState) : Prop :=
  ∃ x, r.watcher.watches[handle]? = some x ∧ x.id = id ∧ x.state = state ∧
    (x.isLive = true → handle ∈ r.stopping)

/-- To cancel a watch, or to let go of it, hushes it wherever its task waits. -/
theorem hushed_tell {r : WatchRun} {handle : Nat} {x : Watch}
    (found : r.watcher.watches[handle]? = some x) :
    (r.tell handle).Hushed handle x.id x.state := by
  refine ⟨x, ?_, rfl, rfl, fun live => mem_stopping_tell ⟨x, found, live, rfl⟩⟩
  rw [watcher_tell]
  exact found

/-- After its turn a hushed watch is over. -/
theorem turn_of_hushed {r : WatchRun} {handle : Nat} {id : RecordId} {state : WatchState}
    (h : r.Hushed handle id state) (t : WatchTurn) :
    ∃ x, (r.turn handle t).watcher.watches[handle]? = some x ∧ x.id = id ∧ x.state = state ∧
      x.isLive = false := by
  obtain ⟨x, found, hid, hstate, htold⟩ := h
  -- A live watch has been told to stop, so its turn stops it; another one is over already.
  cases hlive : x.isLive with
  | true =>
    refine ⟨{ x with phase := .ended }, ?_, hid, hstate, rfl⟩
    rw [turn_of_stopping (htold hlive)]
    show (r.watcher.stop handle).watches[handle]? = _
    unfold Watcher.stop
    rw [found]
    dsimp only
    rw [if_pos hlive]
    exact Watcher.getElem?_put_self found _
  | false => exact ⟨x, dead_step found hlive (.turn handle t), hid, hstate, hlive⟩

/-- **Step lemma.** -/
theorem hushed_step {r : WatchRun} {handle : Nat} {id : RecordId} {state : WatchState}
    (h : r.Hushed handle id state) (e : WatchEvent) : (r.step e).Hushed handle id state := by
  -- Only its own turn changes the watch; all other events leave it as it is, and told.
  by_cases hown : ∃ t, e = .turn handle t
  · obtain ⟨t, rfl⟩ := hown
    obtain ⟨x, found, hid, hstate, dead⟩ := turn_of_hushed h t
    exact ⟨x, found, hid, hstate, fun live => absurd (live.symm.trans dead) nofun⟩
  · obtain ⟨x, found, hid, hstate, htold⟩ := h
    refine ⟨x, ?_, hid, hstate, fun live => stopping_step e (htold live)⟩
    cases e with
    | watch other => exact frame_step (.watch other) nofun found
    | cancel other => exact (congrArg (·.watches[handle]?) (r.watcher_tell other)).trans found
    | drop other => exact (congrArg (·.watches[handle]?) (r.watcher_tell other)).trans found
    | turn other t =>
      refine frame_step (.turn other t) (fun heq => hown ⟨t, ?_⟩) found
      cases heq
      rfl

/-- **Run lemma.** -/
theorem hushed_after {r : WatchRun} {handle : Nat} {id : RecordId} {state : WatchState}
    (h : r.Hushed handle id state) (events : List WatchEvent) :
    (r.after events).Hushed handle id state := by
  induction events generalizing r with
  | nil => exact h
  | cons e events ih => exact ih (hushed_step h e)

theorem deedsAt_of_hushed {r : WatchRun} {handle : Nat} {id : RecordId} {state : WatchState}
    (h : r.Hushed handle id state) (e : WatchEvent) : r.deedsAt handle e = [] := by
  obtain ⟨x, found, -, -, htold⟩ := h
  cases e with
  | turn other t =>
    show (if other = handle then (r.perform handle t).1 else []) = []
    split
    · cases hlive : x.isLive with
      | true =>
        unfold perform
        rw [if_pos (List.contains_iff_mem.mpr (htold hlive))]
      | false => exact perform_of_over (Watcher.not_polls_of_dead found hlive) t
    · rfl
  | _ => rfl

theorem diary_of_hushed {r : WatchRun} {handle : Nat} {id : RecordId} {state : WatchState}
    (h : r.Hushed handle id state) (events : List WatchEvent) : r.diary handle events = [] := by
  induction events generalizing r with
  | nil => rfl
  | cons e events ih =>
    show r.deedsAt handle e ++ (r.step e).diary handle events = []
    rw [deedsAt_of_hushed h, ih (hushed_step h e)]
    rfl

/-! ## What follows from it -/

/-- What holds of a watch that was cancelled or let go of, whatever happens next. -/
structure Silenced (r : WatchRun) (handle : Nat) (id : RecordId) (state : WatchState) : Prop where
  /-- It sends no request, shows no notice, reports no offering and lets no other state be
      seen. -/
  silent : ∀ rest, r.diary handle rest = []
  seen : ∀ rest, (r.after rest).watcher.state? handle = some state
  /-- Who waits for it goes on waiting, or is told that state. -/
  waits : ∀ rest, (r.after rest).watcher.wait? handle = none ∨
    (r.after rest).watcher.wait? handle = some state
  /-- The task takes note at its next turn, whatever that turn was for. -/
  told : ∀ rest t more,
    (r.after (rest ++ .turn handle t :: more)).watcher.wait? handle = some state
  /-- If that turn was still to come, the offering can be watched again right after it. -/
  again : ∀ rest t, (r.after rest).watcher.Polls handle id →
    ∃ accepted, ((r.after rest).step (.turn handle t)).watcher.watch id = .ok accepted
  /-- Later on another watch of the offering is all that may be in the way. -/
  refused : ∀ rest t more e,
    (r.after (rest ++ .turn handle t :: more)).watcher.watch id = .error e →
    ∃ other, other ≠ handle ∧
      (r.after (rest ++ .turn handle t :: more)).watcher.Polls other id

/-- The turn in which a hushed watch takes note leaves it over for good. -/
theorem dead_of_hushed {r : WatchRun} {handle : Nat} {id : RecordId} {state : WatchState}
    (h : r.Hushed handle id state) (rest : List WatchEvent) (t : WatchTurn)
    (more : List WatchEvent) :
    ∃ x, (r.after (rest ++ .turn handle t :: more)).watcher.watches[handle]? = some x ∧
      x.state = state ∧ x.isLive = false := by
  obtain ⟨x, found, -, hstate, dead⟩ := turn_of_hushed (hushed_after h rest) t
  refine ⟨x, ?_, hstate, dead⟩
  rw [after_append]
  exact dead_after found dead more

theorem Hushed.silenced {r : WatchRun} (hk : r.Kept) {handle : Nat} {id : RecordId}
    {state : WatchState} (h : r.Hushed handle id state) : r.Silenced handle id state where
  silent := diary_of_hushed h
  seen rest := by
    obtain ⟨x, found, -, hstate, -⟩ := hushed_after h rest
    rw [Watcher.state?_of_found found, hstate]
  waits rest := by
    obtain ⟨x, found, -, hstate, -⟩ := hushed_after h rest
    rw [Watcher.wait?_of_found found, hstate]
    split
    · exact .inr rfl
    · exact .inl rfl
  told rest t more := by
    obtain ⟨x, found, hstate, dead⟩ := dead_of_hushed h rest t more
    rw [Watcher.wait?_of_found found, hstate, if_pos]
    simp [Watch.isFinished, dead]
  again rest t hpolls := by
    have hplaced := (kept_after hk rest).placed
    obtain ⟨x, found, -, -, dead⟩ := turn_of_hushed (hushed_after h rest) t
    have htaken : (r.after rest).watcher.isWatching id = true :=
      (hplaced.isWatching_iff id).mpr ⟨handle, hpolls⟩
    have hfree := (frees_step hplaced (.turn handle t) htaken).mpr
      ⟨handle, rfl, hpolls, Watcher.not_polls_of_dead found dead id⟩
    exact Watcher.watch_of_free hfree
  refused rest t more e hrefused := by
    obtain ⟨x, found, -, dead⟩ := dead_of_hushed h rest t more
    have hplaced := (kept_after hk (rest ++ .turn handle t :: more)).placed
    have htaken := ((Watcher.watch_eq_error_iff _ id e).mp hrefused).1
    obtain ⟨other, hother⟩ := (hplaced.isWatching_iff id).mp htaken
    refine ⟨other, ?_, hother⟩
    rintro rfl
    exact Watcher.not_polls_of_dead found dead id hother

/-- Whatever happened before, and wherever the task of a watch waits: from the moment at
    which the watch is cancelled or let go of, it does nothing more, stays in the state that
    was seen last, tells that state to who waits, and leaves its offering to be watched
    again. -/
theorem stopped_silenced (interval maxAttempts : Nat) (before : List WatchEvent) (handle : Nat)
    (x : Watch)
    (found : (({ watcher := { interval, maxAttempts } } : WatchRun).after
      before).watcher.watches[handle]? = some x) (e : WatchEvent)
    (stops : e = .cancel handle ∨ e = .drop handle) :
    ((({ watcher := { interval, maxAttempts } } : WatchRun).after before).step e).Silenced
      handle x.id x.state := by
  have hkept := kept_step
    (kept_after (kept_start interval maxAttempts) before) e
  refine Hushed.silenced hkept ?_
  rcases stops with rfl | rfl
  · exact hushed_tell found
  · exact hushed_tell found

/-- A watch that is let go of before its first step, one that is cancelled while it sleeps,
    and one that is cancelled while its second poll is under way. -/
theorem stopped_silenced_everywhere :
    let start : WatchRun := { watcher := { interval := 2000, maxAttempts := 30 } }
    let asked : List WatchEvent := [.watch "o1", .turn 0 .started, .turn 0 .due,
      .turn 0 (.answered (.error (.network "timeout"))), .turn 0 .due]
    ((start.after [.watch "o1"]).step (.drop 0)).Silenced 0 "o1" .idle ∧
      ((start.after (asked.take 2)).step (.cancel 0)).Silenced 0 "o1" (.polling 1) ∧
      ((start.after asked).step (.cancel 0)).Silenced 0 "o1" (.polling 2) := by
  intro start asked
  refine ⟨?_, ?_, ?_⟩
  · exact stopped_silenced 2000 30 [.watch "o1"] 0 ⟨"o1", .idle, .starting⟩ rfl _ (.inr rfl)
  · exact stopped_silenced 2000 30 (asked.take 2) 0 ⟨"o1", .polling 1, .sleeping 1⟩ rfl _
      (.inl rfl)
  · exact stopped_silenced 2000 30 asked 0 ⟨"o1", .polling 2, .asking 2⟩ rfl _ (.inl rfl)

end WatchRun

end CatalogDesk
