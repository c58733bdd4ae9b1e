import CatalogDesk.Proofs.Publish.Watching

/-! # Holding watches

    Whoever lets go of a watch stops it, so a watch reaches its end only if it is held until
    then.  `Holds` follows the watches that are held beside a run of the watcher, whoever
    holds them: each is held once, every watch that still polls is among them, and no watch
    has ended but in a state that is an end.

    The lemmas say what the steps of an owner and those of the tasks do to this.  In
    particular, to let go of a watch that is not among those held does nothing
    (`Holds.foldl_drop`). -/

namespace CatalogDesk

/-- The states in which a watch has come to an end. -/
inductive WatchState.IsEnd : WatchState → Prop
  | succeeded (o : Offering) : IsEnd (.succeeded o)
  | failed (reason : String) : IsEnd (.failed reason)
  | timedOut : IsEnd .timedOut

theorem WatchState.isTerminal_iff (state : WatchState) :
    state.isTerminal = true ↔ state.IsEnd := by
  constructor
  · intro h
    cases state with
    | idle => cases h
    | polling attempt => cases h
    | succeeded o => exact .succeeded o
    | failed reason => exact .failed reason
    | timedOut => exact .timedOut
  · intro h
    cases h <;> rfl

/-- What the answer to a poll decides is an end. -/
theorem Watch.isTerminal_of_verdict {result : Except Failure Offering} {state : WatchState}
    (h : Watch.verdict result = some state) : state.isTerminal = true := by
  unfold Watch.verdict at h
  cases result with
  | ok o =>
    dsimp only at h
    -- published, retired, and the two states in which the watch goes on
    split at h
    · cases h
      rfl
    · cases h
      rfl
    · cases h
    · cases h
  | error f =>
    dsimp only at h
    split at h
    · cases h
      rfl
    · split at h
      · cases h
        rfl
      · cases h

namespace Watcher

/-- No watch is over but in a state that is an end. -/
def Ripe (w : Watcher) : Prop :=
  ∀ x ∈ w.watches, x.isLive = true ∨ x.state.isTerminal = true

variable {w : Watcher} {handle : Nat}

/-! ## Watches that end by themselves -/

theorem ripe_put (h : w.Ripe) {x : Watch} (hx : x.isLive = true ∨ x.state.isTerminal = true) :
    (w.put handle x).Ripe := by
  intro y hy
  rcases List.mem_or_eq_of_mem_set hy with hold | rfl
  · exact h y hold
  · exact hx

theorem ripe_conclude (h : w.Ripe) (x : Watch) {state : WatchState}
    (hstate : state.isTerminal = true) : (w.conclude handle x state).2.Ripe :=
  ripe_put h (x := { x with state, phase := .ended }) (.inr hstate)

theorem ripe_beginAttempt (h : w.Ripe) (x : Watch) (attempt : Nat) :
    (w.beginAttempt handle x attempt).2.Ripe := by
  unfold beginAttempt
  split
  · exact ripe_put h (.inl rfl)
  · exact ripe_conclude h x rfl

theorem ripe_start (h : w.Ripe) : (w.start handle).2.Ripe := by
  unfold start
  split
  · exact h
  · split
    · exact ripe_beginAttempt h _ 1
    · exact h

theorem ripe_ask (h : w.Ripe) : (w.ask handle).2.Ripe := by
  unfold ask
  split
  · exact h
  · split
    · exact ripe_put h (.inl rfl)
    · exact h

theorem ripe_answer (h : w.Ripe) (result : Except Failure Offering) :
    (w.answer handle result).2.Ripe := by
  unfold answer
  split
  · exact h
  · split
    · split
      · rename_i hverdict
        exact ripe_conclude h _ (Watch.isTerminal_of_verdict hverdict)
      · exact ripe_beginAttempt h _ _
    · exact h

/-- A step of a task begins no watch. -/
theorem Turn.polls_of {w' : Watcher} {said : Option WatchState} (ht : w.Turn handle said w')
    {other : Nat} {id : RecordId} (h : w'.Polls other id) : w.Polls other id := by
  cases ht with
  | idle => exact h
  | goesOn found live live' hid _ => exact (polls_put_live found live live' hid other id).mp h
  | ends said found live => exact ((polls_release found _ other id).mp h).2

end Watcher

namespace WatchRun

/-- These watches are held, each once, and none was let go of before its end.  This is the
    invariant. -/
structure Holds (r : WatchRun) (held : List Nat) : Prop where
  kept : r.Kept
  untold : r.stopping = []
  ripe : r.watcher.Ripe
  nodup : held.Nodup
  /-- What is held was accepted. -/
  known : ∀ handle ∈ held, handle < r.watcher.watches.length
  polling : ∀ handle id, r.watcher.Polls handle id → handle ∈ held

variable {r : WatchRun} {held : List Nat}

/-! ## What is held -/

theorem Holds.perm {held' : List Nat} (h : r.Holds held) (hperm : held.Perm held') :
    r.Holds held' where
  kept := h.kept
  untold := h.untold
  ripe := h.ripe
  nodup := hperm.nodup_iff.mp h.nodup
  known handle hmem := h.known handle (hperm.mem_iff.mpr hmem)
  polling handle id hpolls := hperm.mem_iff.mp (h.polling handle id hpolls)

/-- A watch that polls has not come to its end. -/
theorem isFinished_of_polls (h : r.Kept) {handle : Nat} {id : RecordId}
    (hpolls : r.watcher.Polls handle id) : r.watcher.isFinished handle = false := by
  obtain ⟨x, found, live, -⟩ := hpolls
  have hopen := h.accounted.open' x (List.mem_of_getElem? found) live
  simp [Watcher.isFinished, found, Watch.isFinished, hopen, live]

/-- A watch that is held has finished if and only if it has come to an end. -/
theorem Holds.isFinished_iff (h : r.Holds held) {handle : Nat} (hmem : handle ∈ held) :
    r.watcher.isFinished handle = true ↔
      ∃ x, r.watcher.watches[handle]? = some x ∧ x.state.IsEnd := by
  obtain ⟨x, found⟩ : ∃ x, r.watcher.watches[handle]? = some x :=
    ⟨_, List.getElem?_eq_getElem (h.known handle hmem)⟩
  have hfinished : r.watcher.isFinished handle = x.isFinished := by
    unfold Watcher.isFinished
    rw [found]
    rfl
  rw [hfinished, found]
  constructor
  · intro hover
    refine ⟨x, rfl, x.state.isTerminal_iff.mp ?_⟩
    -- nobody has stopped it, so it is over only because it has come to an end
    rcases h.ripe x (List.mem_of_getElem? found) with hlive | hterminal
    · rcases Bool.or_eq_true_iff.mp hover with hterminal | hdead
      · exact hterminal
      · rw [hlive] at hdead
        cases hdead
    · exact hterminal
  · rintro ⟨y, hsome, hend⟩
    obtain rfl := Option.some.inj hsome
    exact Bool.or_eq_true_iff.mpr (.inl (x.state.isTerminal_iff.mpr hend))

/-- A watch may be let go of when it has finished. -/
theorem Holds.sublist {held' : List Nat} (h : r.Holds held) (hsub : held'.Sublist held)
    (hkept : ∀ handle ∈ held, r.watcher.isFinished handle = false → handle ∈ held') :
    r.Holds held' where
  kept := h.kept
  untold := h.untold
  ripe := h.ripe
  nodup := h.nodup.sublist hsub
  known handle hmem := h.known handle (hsub.subset hmem)
  polling handle id hpolls :=
    hkept handle (h.polling handle id hpolls) (isFinished_of_polls h.kept hpolls)

/-- Whoever asks for a watch, and is given one, holds it. -/
theorem Holds.watch (h : r.Holds held) {id : RecordId} {handle : Nat} {watcher : Watcher}
    (accepts : r.watcher.watch id = .ok (handle, watcher)) :
    (r.watch id).Holds (held ++ [handle]) := by
  have hkept : (r.watch id).Kept := kept_step h.kept (.watch id)
  have hrun : r.watch id = { r with watcher, accepted := r.accepted ++ [id] } := by
    unfold WatchRun.watch
    rw [accepts]
  obtain ⟨-, rfl, rfl⟩ := Watcher.watch_eq_ok accepts
  rw [hrun] at hkept ⊢
  refine ⟨hkept, h.untold, ?_, ?_, ?_, ?_⟩
  · intro x hx
    rcases List.mem_append.mp hx with hold | hnew
    · exact h.ripe x hold
    · cases List.mem_singleton.mp hnew
      exact .inl rfl
  · -- the new watch has a number that none has had, so nobody holds it yet
    refine List.nodup_append.mpr ⟨h.nodup, by simp, ?_⟩
    intro other hother new hnew heq
    have hlt := h.known other hother
    rw [heq, List.mem_singleton.mp hnew] at hlt
    exact absurd hlt (Nat.lt_irrefl _)
  · intro other hother
    show other < (r.watcher.watches ++ [({ id } : Watch)]).length
    rw [List.length_append, List.length_singleton]
    rcases List.mem_append.mp hother with hold | hnew
    · have hlt := h.known other hold
      omega
    · rw [List.mem_singleton.mp hnew]
      omega
  · intro other id' hpolls
    rcases (r.watcher.polls_accept id other id').mp hpolls with hold | ⟨rfl, -⟩
    · exact List.mem_append_left _ (h.polling other id' hold)
    · exact List.mem_append_right _ List.mem_cons_self

/-- The tasks of the watches have no say in who holds them. -/
theorem Holds.turn (h : r.Holds held) (handle : Nat) (t : WatchTurn) :
    (r.turn handle t).Holds held := by
  obtain ⟨said, watcher, hturn, heq⟩ := r.turn_eq handle t
  have hwatcher : (r.turn handle t).watcher = watcher := by rw [heq, watcher_hear]
  refine ⟨kept_step h.kept (.turn handle t), ?_, ?_, h.nodup, ?_, ?_⟩
  · rw [heq, stopping_hear]
    exact h.untold
  · -- nobody was told to stop, so the task does what its turn is for
    have hgoes : r.stopping.contains handle = false := by
      rw [h.untold]
      rfl
    unfold WatchRun.turn
    rw [hgoes, if_neg Bool.false_ne_true]
    cases t with
    | started =>
      dsimp only
      rw [watcher_hear]
      exact Watcher.ripe_start h.ripe
    | due => exact Watcher.ripe_ask h.ripe
    | answered result =>
      dsimp only
      rw [watcher_hear]
      exact Watcher.ripe_answer h.ripe result
    | woken => exact h.ripe
  · intro other hother
    rw [hwatcher, hturn.length_eq]
    exact h.known other hother
  · intro other id hpolls
    rw [hwatcher] at hpolls
    exact h.polling other id (hturn.polls_of hpolls)

/-- Nothing happens to watches that nobody holds any more. -/
theorem Holds.foldl_drop (h : r.Holds held) {gone : List Nat}
    (hgone : ∀ handle ∈ gone, handle ∉ held) :
    gone.foldl (fun r handle => r.step (.drop handle)) r = r := by
  induction gone with
  | nil => rfl
  | cons handle gone ih =>
    have hover : ∀ id, ¬ r.watcher.Polls handle id := fun id hpolls =>
      hgone handle List.mem_cons_self (h.polling handle id hpolls)
    rw [List.foldl_cons, step_of_not_polls rfl hover]
    exact ih fun other hother => hgone other (List.mem_cons_of_mem handle hother)

theorem holds_start (interval maxAttempts : Nat) :
    ({ watcher := { interval, maxAttempts } } : WatchRun).Holds [] where
  kept := kept_start interval maxAttempts
  untold := rfl
  ripe _ hx := absurd hx List.not_mem_nil
  nodup := List.nodup_nil
  known _ hmem := absurd hmem List.not_mem_nil
  polling _ _ := fun ⟨_, found, _⟩ => nomatch found

end WatchRun

end CatalogDesk
