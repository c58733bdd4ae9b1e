import CatalogDesk.Proofs.Task.Course
import CatalogDesk.Task.Scheduler

/-! # Answers that decide a watch

    Which answers of the backend decide a watch is told by `Settles`, how often the watch
    asks and how it ends by `Ends`; both speak of answers only, and `verdict_heard_iff` ties
    them to the verdict of the watch.  No other answer decides: none when no answer
    arrives, when the body cannot be read, when the offering is a draft or still being
    published, or when the status is another one. -/

namespace CatalogDesk

namespace Watch

/-- What a watch hears of the backend's answer to a poll, or of the reason why none
    arrived. -/
def heard (answer : Except String Answer) : Except Failure Offering :=
  Work.readReply Offering.decode (Client.outcome (answer.mapError Failure.network))

/-- An answer of success with an offering in its body. -/
def Reads (answer : Answer) (o : Offering) : Prop :=
  (200 ≤ answer.status ∧ answer.status ≤ 299) ∧
    Offering.decode (answer.body.getD .null) = .ok o

/-- The answers that decide, and the state in which the watch then ends. -/
inductive Settles : Except String Answer → WatchState → Prop
  | published {answer : Answer} {o : Offering} (reads : Reads answer o)
      (status : o.status = .published) : Settles (.ok answer) (.succeeded o)
  | retired {answer : Answer} {o : Offering} (reads : Reads answer o)
      (status : o.status = .retired) :
      Settles (.ok answer) (.failed ("\"" ++ o.name ++ "\" was retired before it was published"))
  | unauthorized {answer : Answer} (status : answer.status = 401) :
      Settles (.ok answer) (.failed "Session expired while waiting for publication")
  | denied {answer : Answer} (status : answer.status = 403 ∨ answer.status = 404) :
      Settles (.ok answer) (.failed (Failure.ofAnswer answer.status answer.body).message)

theorem heard_of_success {answer : Answer} (success : answer.isSuccess = true) :
    heard (.ok answer) = Work.readBody Offering.decode answer := by
  unfold heard Except.mapError Client.outcome
  dsimp only
  rw [if_pos success]
  rfl

theorem heard_of_reads {answer : Answer} {o : Offering} (reads : Reads answer o) :
    heard (.ok answer) = .ok o := by
  rw [heard_of_success (answer.isSuccess_iff.mpr reads.1), Work.readBody, reads.2]
  rfl

/-- A body that cannot be read is a failure with a status of success. -/
theorem heard_of_unreadable {answer : Answer} (success : answer.isSuccess = true) {e : DecodeError}
    (unreadable : Offering.decode (answer.body.getD .null) = .error e) :
    heard (.ok answer) = .error (.decode answer.status e.message) := by
  rw [heard_of_success success, Work.readBody, unreadable]
  rfl

theorem heard_of_refusal {answer : Answer} (refusal : answer.isSuccess = false) :
    heard (.ok answer) = .error (.ofAnswer answer.status answer.body) := by
  unfold heard Except.mapError Client.outcome
  dsimp only
  rw [if_neg (by rw [refusal]; exact Bool.false_ne_true)]
  rfl

theorem verdict_heard_of_settles {answer : Except String Answer} {state : WatchState}
    (h : Settles answer state) : verdict (heard answer) = some state := by
  cases h with
  | published reads status =>
    rw [heard_of_reads reads]
    unfold verdict
    dsimp only
    rw [status]
  | retired reads status =>
    rw [heard_of_reads reads]
    unfold verdict
    dsimp only
    rw [status]
  | @unauthorized answer status =>
    rw [heard_of_refusal (by simp [Answer.isSuccess, status])]
    simp [verdict, Failure.isUnauthorized, Failure.ofAnswer, Failure.withStatus, status]
  | @denied answer status =>
    have hrefusal : answer.isSuccess = false := by
      rcases status with status | status <;> simp [Answer.isSuccess, status]
    rw [heard_of_refusal hrefusal]
    rcases status with status | status <;>
      simp [verdict, Failure.isUnauthorized, Failure.ofAnswer, Failure.withStatus, status]

theorem settles_of_verdict_heard {answer : Except String Answer} {state : WatchState}
    (h : verdict (heard answer) = some state) : Settles answer state := by
  cases answer with
  | error reason => cases h
  | ok answer =>
    -- Only an answer of success has a body that is read.
    cases hsuccess : answer.isSuccess with
    | true =>
      cases hbody : Offering.decode (answer.body.getD .null) with
      | ok o =>
        have reads : Reads answer o := ⟨answer.isSuccess_iff.mp hsuccess, hbody⟩
        rw [heard_of_reads reads] at h
        unfold verdict at h
        dsimp only at h
        split at h
        · rename_i status
          cases h
          exact .published reads status
        · rename_i status
          cases h
          exact .retired reads status
        · cases h
        · cases h
      | error e =>
        -- The status is one of success, so it is neither 403 nor 404.
        rw [heard_of_unreadable hsuccess hbody] at h
        rw [Answer.isSuccess_iff] at hsuccess
        have h403 : answer.status ≠ 403 := by omega
        have h404 : answer.status ≠ 404 := by omega
        simp [verdict, Failure.isUnauthorized, Failure.decode, h403, h404] at h
    | false =>
      rw [heard_of_refusal hsuccess] at h
      unfold verdict at h
      dsimp only at h
      split at h
      · rename_i hunauthorized
        cases h
        simp only [Failure.isUnauthorized, Failure.ofAnswer, Failure.withStatus, decide_true,
          Bool.true_and, decide_eq_true_eq, Option.some.injEq] at hunauthorized
        exact .unauthorized hunauthorized
      · split at h
        · rename_i hdenied
          cases h
          simp only [Failure.ofAnswer, Failure.withStatus, Bool.or_eq_true, decide_eq_true_eq,
            Option.some.injEq] at hdenied
          exact .denied hdenied
        · cases h

/-- The verdict on what is heard is that of the answer. -/
theorem verdict_heard_iff (answer : Except String Answer) (state : WatchState) :
    verdict (heard answer) = some state ↔ Settles answer state :=
  ⟨settles_of_verdict_heard, verdict_heard_of_settles⟩

/-- None of the answers up to this one decides.  Answers are numbered from one. -/
def Undecided (answers : Nat → Except String Answer) (last : Nat) : Prop :=
  ∀ k, 1 ≤ k → k ≤ last → ∀ state, ¬ Settles (answers k) state

/-- How often a watch with a limit asks, and how it ends: by the first answer that decides,
    or else when all its polls are used up. -/
inductive Ends (answers : Nat → Except String Answer) (limit : Nat) : Nat → WatchState → Prop
  | settled {before : Nat} {outcome : WatchState} (within : before + 1 ≤ limit)
      (undecided : Undecided answers before) (settles : Settles (answers (before + 1)) outcome) :
      Ends answers limit (before + 1) outcome
  | usedUp (undecided : Undecided answers limit) : Ends answers limit limit .timedOut

/-- Every sequence of answers brings a watch to an end. -/
theorem exists_ends (answers : Nat → Except String Answer) (limit : Nat) :
    ∃ polls outcome, Ends answers limit polls outcome := by
  induction limit with
  | zero => exact ⟨0, .timedOut, .usedUp fun k hk hle => by omega⟩
  | succ limit ih =>
    obtain ⟨polls, outcome, hends⟩ := ih
    cases hends with
    | settled within undecided settles =>
      exact ⟨_, outcome, .settled (Nat.le_succ_of_le within) undecided settles⟩
    | usedUp undecided =>
      -- One more poll is left, and its answer decides or does not.
      cases hverdict : verdict (heard (answers (limit + 1))) with
      | some outcome =>
        exact ⟨_, outcome, .settled (Nat.le_refl _) undecided (settles_of_verdict_heard hverdict)⟩
      | none =>
        refine ⟨_, .timedOut, .usedUp fun k hk hle state hsettles => ?_⟩
        rcases Nat.le_succ_iff.mp hle with hle | rfl
        · exact undecided k hk hle state hsettles
        · rw [verdict_heard_of_settles hsettles] at hverdict
          cases hverdict

theorem Undecided.verdict_eq_none {answers : Nat → Except String Answer} {last k : Nat}
    (h : Undecided answers last) (hk : 1 ≤ k) (hle : k ≤ last) :
    verdict (heard (answers k)) = none :=
  Option.eq_none_iff_forall_ne_some.mpr fun state hverdict =>
    h k hk hle state (settles_of_verdict_heard hverdict)

/-- What decides is an end. -/
theorem Settles.isTerminal {answer : Except String Answer} {state : WatchState}
    (h : Settles answer state) : state.isTerminal = true := by
  cases h <;> rfl

namespace Ends

variable {answers : Nat → Except String Answer} {limit polls : Nat} {outcome : WatchState}

theorem le_limit (h : Ends answers limit polls outcome) : polls ≤ limit := by
  cases h with
  | settled within => exact within
  | usedUp => exact Nat.le_refl _

theorem isTerminal (h : Ends answers limit polls outcome) : outcome.isTerminal = true := by
  cases h with
  | settled _ _ settles => exact settles.isTerminal
  | usedUp => rfl

/-- While no answer has decided another poll follows, unless the polls are used up. -/
theorem goes_on (h : Ends answers limit polls outcome) {done : Nat} (hle : done ≤ polls)
    (hnone : 1 ≤ done → verdict (heard (answers done)) = none) :
    done < polls ∨ done = limit ∧ polls = limit ∧ outcome = .timedOut := by
  rcases Nat.lt_or_eq_of_le hle with hlt | rfl
  · exact .inl hlt
  · cases h with
    | settled _ _ settles =>
      rw [verdict_heard_of_settles settles] at hnone
      exact absurd (hnone (Nat.succ_pos _)) nofun
    | usedUp => exact .inr ⟨rfl, rfl, rfl⟩

/-- An answer that decides is the last one. -/
theorem decides (h : Ends answers limit polls outcome) {k : Nat} (hk : 1 ≤ k) (hle : k ≤ polls)
    {state : WatchState} (hverdict : verdict (heard (answers k)) = some state) :
    k = polls ∧ state = outcome := by
  cases h with
  | settled _ undecided settles =>
    rcases Nat.le_succ_iff.mp hle with hle | rfl
    · exact absurd ((undecided.verdict_eq_none hk hle).symm.trans hverdict) nofun
    · exact ⟨rfl, Option.some.inj (hverdict.symm.trans (verdict_heard_of_settles settles))⟩
  | usedUp undecided =>
    exact absurd ((undecided.verdict_eq_none hk hle).symm.trans hverdict) nofun

theorem unique_of_le (h : Ends answers limit polls outcome) {polls' : Nat} {outcome' : WatchState}
    (h' : Ends answers limit polls' outcome') (hle : polls ≤ polls') :
    polls = polls' ∧ outcome = outcome' := by
  cases h with
  | settled _ _ settles =>
    exact h'.decides (Nat.succ_pos _) hle (verdict_heard_of_settles settles)
  | usedUp undecided =>
    obtain rfl := Nat.le_antisymm hle h'.le_limit
    cases h' with
    | settled _ _ settles => exact absurd settles (undecided _ (Nat.succ_pos _) (Nat.le_refl _) _)
    | usedUp => exact ⟨rfl, rfl⟩

/-- The answers leave no choice of how often a watch asks and how it ends. -/
theorem unique (h : Ends answers limit polls outcome) {polls' : Nat} {outcome' : WatchState}
    (h' : Ends answers limit polls' outcome') : polls = polls' ∧ outcome = outcome' := by
  rcases Nat.le_total polls polls' with hle | hle
  · exact h.unique_of_le h' hle
  · obtain ⟨hpolls, houtcome⟩ := h'.unique_of_le h hle
    exact ⟨hpolls.symm, houtcome.symm⟩

end Ends

end Watch

/-- What the scheduler hears of the answer to a poll. -/
theorem Scheduler.pollAnswered_heard {α : Type} {s : Scheduler α} {handle : Nat}
    (asking : s.watcher.isAsking handle = true) (bearer : Option String)
    (answer : Except String Answer) :
    (s.pollAnswered handle ⟨bearer, answer.mapError Failure.network⟩).1 =
        (s.watcher.answer handle (Watch.heard answer)).1 ∧
      (s.pollAnswered handle ⟨bearer, answer.mapError Failure.network⟩).2.watcher =
        (s.watcher.answer handle (Watch.heard answer)).2 := by
  unfold pollAnswered
  rw [if_pos asking]
  exact ⟨rfl, rfl⟩

end CatalogDesk
