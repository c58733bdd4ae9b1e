import CatalogDesk.Notice.Basic
import Mathlib.Data.List.Induction

/-! # Notices in turn

    Notices are told by their numbers, in the order in which they were pushed.  How many have
    left the queue is what was pushed less what still waits (`gone`), so the notice at the
    front has that number, and it leaves when one more is gone (`Leaves`).

    The time of a notice is set going in three places: by a tick that finds the notice at the
    front, by a tick that takes away the notice before it, and by a dismissal.  `Turn` says
    once what a call can do to the notices.  `Kept` is the invariant: only the notice at the
    front has a time, and it has been at the front, with that time, at every moment since.

    A tick reads the clock up to three times, and time may pass between: when it sets going the
    notice at the front, when it looks whether that one is over, and when it sets going the
    next one.

    Main result: `shows_in_turn`.  The calls may come at any times; for a clock that goes back
    between them the statement is the same. -/

namespace CatalogDesk

/-- What is done to a queue of notices. -/
inductive NoticeCall where
  | push (n : Notice)
  /-- With the times that pass before the second and the third reading of the clock. -/
  | tick (pause rest : Nat)
  | dismiss
  deriving DecidableEq, Repr

/-- A notice that is pushed has not been displayed before. -/
def NoticeCall.IsFresh : NoticeCall → Prop
  | .push n => n.displayedAt = none
  | .tick _ _ | .dismiss => True

instance : DecidablePred NoticeCall.IsFresh
  | .push n => inferInstanceAs (Decidable (n.displayedAt = none))
  | .tick _ _ | .dismiss => inferInstanceAs (Decidable True)

/-- The notice that is pushed, as it is queued. -/
def NoticeCall.pushed? (duration : Nat) : NoticeCall → Option Notice
  | .push n => some { n with duration }
  | .tick _ _ | .dismiss => none

/-- The readings of the clock at a call. -/
def NoticeCall.readings (now : Int) : NoticeCall → List Int
  | .push _ => []
  | .tick pause rest => [now, now + pause, now + pause + rest]
  | .dismiss => [now]

/-- The notice as it was before it was displayed. -/
def Notice.unseen (n : Notice) : Notice := { n with displayedAt := none }

@[simp] theorem Notice.unseen_markDisplayed (n : Notice) (now : Int) :
    (n.markDisplayed now).unseen = n.unseen := by
  unfold markDisplayed
  split <;> rfl

@[simp] theorem Notice.duration_unseen (n : Notice) : n.unseen.duration = n.duration := rfl

namespace NoticeQueue

/-! ## Calls -/

/-- A call, at a time. -/
def step (q : NoticeQueue) (call : Int × NoticeCall) : NoticeQueue :=
  match call.2 with
  | .push n => q.push n
  | .tick pause rest => q.tick call.1 (call.1 + pause) (call.1 + pause + rest)
  | .dismiss => q.dismiss call.1

/-- The queue after calls, when notices are displayed for so long. -/
def after (duration : Nat) (calls : List (Int × NoticeCall)) : NoticeQueue :=
  calls.foldl step { duration }

/-- All notices that were pushed. -/
def pushed (duration : Nat) (calls : List (Int × NoticeCall)) : List Notice :=
  calls.filterMap fun call => call.2.pushed? duration

/-- How many notices have left. -/
def gone (duration : Nat) (calls : List (Int × NoticeCall)) : Nat :=
  (pushed duration calls).length - (after duration calls).size

/-- The notice with that number leaves at the call. -/
def Leaves (duration : Nat) (calls : List (Int × NoticeCall)) (call : Int × NoticeCall)
    (number : Nat) : Prop :=
  gone duration calls = number ∧ gone duration (calls ++ [call]) = number + 1

/-- The notice with that number is at the front, and its time runs since `start`. -/
def Displays (duration : Nat) (calls : List (Int × NoticeCall)) (number : Nat) (start : Int) :
    Prop :=
  gone duration calls = number ∧
    (after duration calls).current?.bind (·.displayedAt) = some start

/-- At the time `start` there was a call, and the notice with that number has been displayed
    from that call on. -/
inductive DisplayedSince (duration : Nat) (calls : List (Int × NoticeCall)) (number : Nat)
    (start : Int) : Prop
  | intro (before : List (Int × NoticeCall)) (call : Int × NoticeCall)
      (during : List (Int × NoticeCall)) (hcalls : calls = before ++ call :: during)
      (hstart : start ∈ call.2.readings call.1)
      (hdisplays : ∀ part, part <+: during →
        Displays duration (before ++ call :: part) number start)

/-- Notices are shown in turn, each for its time. -/
structure ShowsInTurn (duration : Nat) (calls : List (Int × NoticeCall)) : Prop where
  /-- Those that have not left wait in the order in which they were pushed. -/
  waiting : (after duration calls).notices.map Notice.unseen =
    (pushed duration calls).drop (gone duration calls)
  /-- Each notice that has left did so at one call, and at one only. -/
  once : ∀ number, number < gone duration calls ↔
    ∃! earlier, ∃ call, earlier ++ [call] <+: calls ∧ Leaves duration earlier call number
  /-- At a call one notice leaves at most. -/
  single : ∀ earlier call, earlier ++ [call] <+: calls →
    gone duration (earlier ++ [call]) = gone duration earlier ∨
      Leaves duration earlier call (gone duration earlier)
  /-- The time of a notice that waits behind another one does not run. -/
  unmarked : ∀ n ∈ (after duration calls).notices.tail, n.displayedAt = none
  /-- A notice is dismissed, or when a tick looks at it, it has been displayed for longer than it
      is due, since an earlier call or since the tick itself began. -/
  leaves : ∀ earlier call number, earlier ++ [call] <+: calls →
    Leaves duration earlier call number →
      call.2 = .dismiss ∨
        ∃ pause rest start, call.2 = .tick pause rest ∧
          (DisplayedSince duration earlier number start ∨ start = call.1) ∧
          duration < call.1 + pause - start

/-! ## One call -/

section calls

variable {q : NoticeQueue} {now : Int} {duration : Nat} {calls : List (Int × NoticeCall)}
  {call : Int × NoticeCall} {number : Nat} {start : Int}

@[simp] theorem map_unseen_displayFront (now : Int) (notices : List Notice) :
    (displayFront now notices).map Notice.unseen = notices.map Notice.unseen := by
  cases notices with
  | nil => rfl
  | cons n rest => simp [displayFront]

@[simp] theorem tail_displayFront (now : Int) (notices : List Notice) :
    (displayFront now notices).tail = notices.tail := by
  cases notices <;> rfl

@[simp] theorem length_displayFront (now : Int) (notices : List Notice) :
    (displayFront now notices).length = notices.length := by
  cases notices <;> rfl

/-- The time of the notice at the front runs already, or is set going. -/
theorem start_displayFront {notices : List Notice} {start : Int}
    (h : (displayFront now notices).head?.bind (·.displayedAt) = some start) :
    notices.head?.bind (·.displayedAt) = some start ∨ start = now := by
  cases notices with
  | nil => cases h
  | cons n rest =>
    simp only [displayFront, Notice.markDisplayed, List.head?_cons, Option.bind_some] at h ⊢
    split at h
    · exact .inr (Option.some.inj h).symm
    · exact .inl h

/-- What a call can do to the notices. -/
inductive Turn (q : NoticeQueue) : Int × NoticeCall → List Notice → Prop
  | joins (now : Int) (n : Notice) :
    Turn q (now, .push n) (q.notices ++ [{ n with duration := q.duration }])
  | stays (call : Int × NoticeCall) (hpushed : ∀ duration, call.2.pushed? duration = none)
      (hreading : call.1 ∈ call.2.readings call.1) : Turn q call (displayFront call.1 q.notices)
  /-- The notice is dismissed, or its time has run for longer than it is due. -/
  | leaves (call : Int × NoticeCall) (n : Notice) (others : List Notice) (next : Int)
      (hpushed : ∀ duration, call.2.pushed? duration = none) (hnotices : q.notices = n :: others)
      (hreading : next ∈ call.2.readings call.1)
      (hcall : call.2 = .dismiss ∨ ∃ pause rest start, call.2 = .tick pause rest ∧
        n.displayedAt.getD call.1 = start ∧ n.duration < call.1 + pause - start) :
    Turn q call (displayFront next others)

/-- A notice is over if its time has run for longer than it is due. -/
theorem isExpired_markDisplayed_iff {n : Notice} {later : Int} :
    (n.markDisplayed now).isExpired later = true ↔
      n.duration < later - n.displayedAt.getD now := by
  cases hdisplayed : n.displayedAt <;>
    simp [Notice.markDisplayed, hdisplayed, Notice.isExpired]

theorem turn_tick (q : NoticeQueue) (now : Int) (pause rest : Nat) :
    q.Turn (now, .tick pause rest) (q.tick now (now + pause) (now + pause + rest)).notices := by
  cases hnotices : q.notices with
  | nil =>
    have hempty : (q.tick now (now + pause) (now + pause + rest)).notices =
        displayFront now q.notices := by
      simp [tick, displayFront, hnotices]
    rw [hempty]
    exact .stays _ (fun _ => rfl) (by simp [NoticeCall.readings])
  | cons n others =>
    by_cases hexpired : (n.markDisplayed now).isExpired (now + pause) = true
    · have hnext : (q.tick now (now + pause) (now + pause + rest)).notices =
          displayFront (now + pause + rest) others := by
        simp [tick, displayFront, hnotices, hexpired]
      rw [hnext]
      exact .leaves _ n others _ (fun _ => rfl) hnotices (by simp [NoticeCall.readings])
        (.inr ⟨pause, rest, _, rfl, rfl, isExpired_markDisplayed_iff.mp hexpired⟩)
    · have hsame : (q.tick now (now + pause) (now + pause + rest)).notices =
          displayFront now q.notices := by
        simp [tick, displayFront, hnotices, hexpired]
      rw [hsame]
      exact .stays _ (fun _ => rfl) (by simp [NoticeCall.readings])

theorem turn_dismiss (q : NoticeQueue) (now : Int) :
    q.Turn (now, .dismiss) (q.dismiss now).notices := by
  cases hnotices : q.notices with
  | nil =>
    have hempty : (q.dismiss now).notices = displayFront now q.notices := by
      simp [dismiss, hnotices]
    rw [hempty]
    exact .stays _ (fun _ => rfl) List.mem_cons_self
  | cons n others =>
    have hnext : (q.dismiss now).notices = displayFront now others := by
      simp [dismiss, hnotices]
    rw [hnext]
    exact .leaves _ n others now (fun _ => rfl) hnotices List.mem_cons_self (.inl rfl)

theorem turn (q : NoticeQueue) (call : Int × NoticeCall) : q.Turn call (q.step call).notices := by
  obtain ⟨now, c⟩ := call
  cases c with
  | push n => exact .joins now n
  | tick pause rest => exact q.turn_tick now pause rest
  | dismiss => exact q.turn_dismiss now

@[simp] theorem duration_step (q : NoticeQueue) (call : Int × NoticeCall) :
    (q.step call).duration = q.duration := by
  unfold step tick
  split
  · rfl
  · split
    · rfl
    · split <;> rfl
  · rfl

theorem after_concat (duration : Nat) (calls : List (Int × NoticeCall))
    (call : Int × NoticeCall) :
    after duration (calls ++ [call]) = (after duration calls).step call := by
  simp [after]

@[simp] theorem duration_after (duration : Nat) (calls : List (Int × NoticeCall)) :
    (after duration calls).duration = duration := by
  induction calls using List.reverseRecOn with
  | nil => rfl
  | append_singleton calls call ih => rw [after_concat, duration_step, ih]

theorem pushed_concat (duration : Nat) (calls : List (Int × NoticeCall))
    (call : Int × NoticeCall) :
    pushed duration (calls ++ [call]) =
      pushed duration calls ++ (call.2.pushed? duration).toList := by
  cases h : call.2.pushed? duration <;> simp [pushed, h]

/-! ## The invariant -/

/-- What holds of a queue after calls.  This is the invariant. -/
structure Kept (duration : Nat) (calls : List (Int × NoticeCall)) : Prop where
  size_le : (after duration calls).size ≤ (pushed duration calls).length
  waiting : (after duration calls).notices.map Notice.unseen =
    (pushed duration calls).drop (gone duration calls)
  unmarked : ∀ n ∈ (after duration calls).notices.tail, n.displayedAt = none
  since : ∀ number start, Displays duration calls number start →
    DisplayedSince duration calls number start

theorem mem_pushed {n : Notice} (h : n ∈ pushed duration calls) : n.duration = duration := by
  obtain ⟨call, -, hcall⟩ := List.mem_filterMap.mp h
  unfold NoticeCall.pushed? at hcall
  split at hcall
  · cases hcall
    rfl
  · cases hcall
  · cases hcall

/-- Every notice that waits is due to be displayed for as long as it was set. -/
theorem Kept.duration_eq (h : Kept duration calls) {n : Notice}
    (hn : n ∈ (after duration calls).notices) : n.duration = duration := by
  have hunseen : n.unseen ∈ (pushed duration calls).drop (gone duration calls) := by
    rw [← h.waiting]
    exact List.mem_map_of_mem hn
  have hpushed : n.unseen.duration = duration := mem_pushed (List.mem_of_mem_drop hunseen)
  exact hpushed

/-- A notice that is still displayed after one more call has been so since. -/
theorem DisplayedSince.extend (h : DisplayedSince duration calls number start)
    (hnow : Displays duration (calls ++ [call]) number start) :
    DisplayedSince duration (calls ++ [call]) number start := by
  obtain ⟨before, first, during, rfl, hstart, hdisplays⟩ := h
  refine ⟨before, first, during ++ [call], by simp, hstart, fun part hpart => ?_⟩
  rcases List.prefix_concat_iff.mp hpart with rfl | hpart
  · simpa using hnow
  · exact hdisplays part hpart

/-- A notice whose time a call sets going is displayed from that call on. -/
theorem displayedSince_now (hstart : start ∈ call.2.readings call.1)
    (hnow : Displays duration (calls ++ [call]) number start) :
    DisplayedSince duration (calls ++ [call]) number start := by
  refine ⟨calls, call, [], rfl, hstart, fun part hpart => ?_⟩
  rw [List.prefix_nil.mp hpart]
  exact hnow

/-! ## What a call does to the numbers -/

theorem pushed_push (now : Int) (n : Notice) :
    pushed duration (calls ++ [(now, .push n)]) =
      pushed duration calls ++ [{ n with duration }] := by
  rw [pushed_concat]
  rfl

theorem pushed_of_none (hpushed : call.2.pushed? duration = none) :
    pushed duration (calls ++ [call]) = pushed duration calls := by
  rw [pushed_concat, hpushed]
  exact List.append_nil _

theorem notices_push (now : Int) (n : Notice) :
    (after duration (calls ++ [(now, .push n)])).notices =
      (after duration calls).notices ++ [{ n with duration }] := by
  rw [after_concat]
  simp [step, push]

theorem gone_push (now : Int) (n : Notice) :
    gone duration (calls ++ [(now, .push n)]) = gone duration calls := by
  simp only [gone, pushed_push, size, notices_push, List.length_append, List.length_singleton]
  omega

theorem gone_of_stays (hpushed : call.2.pushed? duration = none)
    (hnotices : (after duration (calls ++ [call])).notices =
      displayFront call.1 (after duration calls).notices) :
    gone duration (calls ++ [call]) = gone duration calls := by
  simp only [gone, pushed_of_none hpushed, size, hnotices, length_displayFront]

theorem Kept.gone_of_leaves (h : Kept duration calls) (hpushed : call.2.pushed? duration = none)
    {n : Notice} {others : List Notice} {next : Int}
    (hold : (after duration calls).notices = n :: others)
    (hnotices : (after duration (calls ++ [call])).notices = displayFront next others) :
    gone duration (calls ++ [call]) = gone duration calls + 1 := by
  have hsize := h.size_le
  simp only [size, hold, List.length_cons] at hsize
  simp only [gone, pushed_of_none hpushed, size, hold, hnotices, length_displayFront,
    List.length_cons]
  omega

/-! ## What a call keeps -/

theorem Kept.push (h : Kept duration calls) (now : Int) {n : Notice}
    (hfresh : n.displayedAt = none) : Kept duration (calls ++ [(now, .push n)]) := by
  refine ⟨?_, ?_, ?_, fun number start hdisplays => ?_⟩
  · simp only [size, notices_push, pushed_push, List.length_append, List.length_singleton]
    exact Nat.add_le_add_right h.size_le 1
  · have hunseen : Notice.unseen { n with duration } = { n with duration } := by
      simp only [Notice.unseen, Notice.mk.injEq, true_and, and_true]
      exact hfresh.symm
    rw [notices_push, gone_push, pushed_push, List.map_append, h.waiting,
      List.drop_append_of_le_length]
    · simp [hunseen]
    · exact Nat.sub_le _ _
  · intro m hm
    rw [notices_push] at hm
    cases hold : (after duration calls).notices with
    | nil => simp [hold] at hm
    | cons first rest =>
      simp only [hold, List.cons_append, List.tail_cons, List.mem_append,
        List.mem_singleton] at hm
      rcases hm with hm | rfl
      · exact h.unmarked m (by simpa [hold] using hm)
      · exact hfresh
  · -- the front is the one of before, since a fresh notice has no time
    refine (h.since number start ⟨gone_push now n ▸ hdisplays.1, ?_⟩).extend hdisplays
    have hfront := hdisplays.2
    simp only [current?, notices_push] at hfront ⊢
    cases hold : (after duration calls).notices with
    | nil =>
      simp only [hold, List.nil_append, List.head?_cons, Option.bind_some] at hfront
      rw [hfresh] at hfront
      cases hfront
    | cons first rest => simpa [hold] using hfront

theorem Kept.stays (h : Kept duration calls) (hpushed : call.2.pushed? duration = none)
    (hreading : call.1 ∈ call.2.readings call.1)
    (hnotices : (after duration (calls ++ [call])).notices =
      displayFront call.1 (after duration calls).notices) :
    Kept duration (calls ++ [call]) := by
  have hsame : pushed duration (calls ++ [call]) = pushed duration calls :=
    pushed_of_none hpushed
  have hgone := gone_of_stays hpushed hnotices
  refine ⟨?_, ?_, ?_, fun number start hdisplays => ?_⟩
  · rw [hsame, size, hnotices, length_displayFront]
    exact h.size_le
  · rw [hnotices, map_unseen_displayFront, hsame, hgone]
    exact h.waiting
  · rw [hnotices, tail_displayFront]
    exact h.unmarked
  · have hfront := hdisplays.2
    rw [current?, hnotices] at hfront
    rcases start_displayFront hfront with hold | rfl
    · exact (h.since number start ⟨hgone ▸ hdisplays.1, hold⟩).extend hdisplays
    · exact displayedSince_now hreading hdisplays

theorem Kept.leaves (h : Kept duration calls) (hpushed : call.2.pushed? duration = none)
    {n : Notice} {others : List Notice} {next : Int}
    (hold : (after duration calls).notices = n :: others)
    (hreading : next ∈ call.2.readings call.1)
    (hnotices : (after duration (calls ++ [call])).notices = displayFront next others) :
    Kept duration (calls ++ [call]) := by
  have hsame : pushed duration (calls ++ [call]) = pushed duration calls :=
    pushed_of_none hpushed
  have hgone := h.gone_of_leaves hpushed hold hnotices
  have hunmarked : ∀ m ∈ others, m.displayedAt = none := by
    intro m hm
    exact h.unmarked m (by rwa [hold])
  refine ⟨?_, ?_, ?_, fun number start hdisplays => ?_⟩
  · have hsize := h.size_le
    simp only [size, hold, List.length_cons] at hsize
    simp only [size, hnotices, length_displayFront, hsame]
    omega
  · have hwaiting := congrArg List.tail h.waiting
    rw [hold, List.map_cons, List.tail_cons, List.tail_drop] at hwaiting
    rw [hnotices, map_unseen_displayFront, hsame, hgone]
    exact hwaiting
  · intro m hm
    rw [hnotices, tail_displayFront] at hm
    exact hunmarked m (List.mem_of_mem_tail hm)
  · -- the notice behind the one that leaves has no time before the call
    have hfront := hdisplays.2
    rw [current?, hnotices] at hfront
    rcases start_displayFront hfront with hearlier | rfl
    · cases others with
      | nil => cases hearlier
      | cons second others =>
        rw [List.head?_cons, Option.bind_some, hunmarked second List.mem_cons_self] at hearlier
        cases hearlier
    · exact displayedSince_now hreading hdisplays

/-- **Step lemma.** -/
theorem kept_step (h : Kept duration calls) (hfresh : call.2.IsFresh) :
    Kept duration (calls ++ [call]) := by
  have hturn := (after duration calls).turn call
  rw [← after_concat] at hturn
  generalize hnotices : (after duration (calls ++ [call])).notices = notices at hturn
  cases hturn with
  | joins now n => exact h.push now hfresh
  | stays _ hpushed hreading => exact h.stays (hpushed duration) hreading hnotices
  | leaves _ n others next hpushed hold hreading _ =>
    exact h.leaves (hpushed duration) hold hreading hnotices

theorem kept_nil (duration : Nat) : Kept duration [] where
  size_le := Nat.le_refl 0
  waiting := rfl
  unmarked _ hn := nomatch hn
  since _ _ hdisplays := nomatch hdisplays.2

/-- **Run lemma.** -/
theorem kept_after (duration : Nat) (hfresh : ∀ call ∈ calls, call.2.IsFresh) :
    Kept duration calls := by
  induction calls using List.reverseRecOn with
  | nil => exact kept_nil duration
  | append_singleton calls call ih =>
    have hbefore := ih fun c hc => hfresh c (List.mem_append_left _ hc)
    exact kept_step hbefore (hfresh call List.mem_concat_self)

/-! ## Notices that leave -/

/-- A call takes no notice away, or the one at the front: it is dismissed, or was displayed for
    longer than it is due. -/
theorem Kept.gone_cases (h : Kept duration calls) (call : Int × NoticeCall) :
    gone duration (calls ++ [call]) = gone duration calls ∨
      gone duration (calls ++ [call]) = gone duration calls + 1 ∧
        (call.2 = .dismiss ∨ ∃ pause rest start, call.2 = .tick pause rest ∧
          (DisplayedSince duration calls (gone duration calls) start ∨ start = call.1) ∧
          duration < call.1 + pause - start) := by
  have hturn := (after duration calls).turn call
  rw [← after_concat] at hturn
  generalize hnotices : (after duration (calls ++ [call])).notices = notices at hturn
  cases hturn with
  | joins now n => exact .inl (gone_push now n)
  | stays _ hpushed _ => exact .inl (gone_of_stays (hpushed duration) hnotices)
  | leaves _ n others next hpushed hold _ hcall =>
    refine .inr ⟨h.gone_of_leaves (hpushed duration) hold hnotices, ?_⟩
    rcases hcall with hdismiss | ⟨pause, rest, start, htick, hstart, hlonger⟩
    · exact .inl hdismiss
    · have hdue : n.duration = duration := h.duration_eq (by simp [hold])
      rw [hdue] at hlonger
      refine .inr ⟨pause, rest, start, htick, ?_, hlonger⟩
      cases hdisplayed : n.displayedAt with
      | none =>
        rw [hdisplayed] at hstart
        exact .inr hstart.symm
      | some began =>
        rw [hdisplayed, Option.getD_some] at hstart
        have hdisplays : Displays duration calls (gone duration calls) start :=
          ⟨rfl, by simp [current?, hold, hdisplayed, hstart]⟩
        exact .inl (h.since _ _ hdisplays)

/-- Notices do not come back. -/
theorem gone_le_of_begins (hfresh : ∀ call ∈ calls, call.2.IsFresh)
    {earlier : List (Int × NoticeCall)} (hbegins : earlier <+: calls) :
    gone duration earlier ≤ gone duration calls := by
  induction calls using List.reverseRecOn with
  | nil =>
    obtain rfl := List.prefix_nil.mp hbegins
    exact Nat.le_refl _
  | append_singleton calls call ih =>
    have hbefore : ∀ c ∈ calls, c.2.IsFresh := fun c hc => hfresh c (List.mem_append_left _ hc)
    rcases List.prefix_concat_iff.mp hbegins with rfl | hbegins
    · exact Nat.le_refl _
    · have hle := ih hbefore hbegins
      rcases (kept_after duration hbefore).gone_cases call with hsame | ⟨hmore, -⟩ <;> omega

/-- For each notice that has left there is a call at which it did. -/
theorem exists_leaves (hfresh : ∀ call ∈ calls, call.2.IsFresh)
    (hnumber : number < gone duration calls) :
    ∃ earlier call, earlier ++ [call] <+: calls ∧ Leaves duration earlier call number := by
  induction calls using List.reverseRecOn with
  | nil => exact absurd hnumber (Nat.not_lt_zero number)
  | append_singleton calls call ih =>
    have hbefore : ∀ c ∈ calls, c.2.IsFresh := fun c hc => hfresh c (List.mem_append_left _ hc)
    by_cases hearlier : number < gone duration calls
    · obtain ⟨earlier, c, hbegins, hleaves⟩ := ih hbefore hearlier
      exact ⟨earlier, c, hbegins.trans (List.prefix_append calls [call]), hleaves⟩
    · have hlast : gone duration calls = number ∧ gone duration (calls ++ [call]) = number + 1 := by
        rcases (kept_after duration hbefore).gone_cases call with hsame | ⟨hmore, -⟩ <;> omega
      exact ⟨calls, call, List.prefix_rfl, hlast⟩

/-- The number of a notice that leaves tells the calls before. -/
theorem Leaves.unique (hfresh : ∀ call ∈ calls, call.2.IsFresh)
    {earlier earlier' : List (Int × NoticeCall)} {call' : Int × NoticeCall}
    (hbegins : earlier ++ [call] <+: calls) (hbegins' : earlier' ++ [call'] <+: calls)
    (h : Leaves duration earlier call number) (h' : Leaves duration earlier' call' number) :
    earlier = earlier' := by
  -- of two runs of calls the shorter one, with its last call, would be a part of the other
  have hshorter {l l' : List (Int × NoticeCall)} {c c' : Int × NoticeCall}
      (hl : l ++ [c] <+: calls) (hl' : l' ++ [c'] <+: calls)
      (hleaves : Leaves duration l c number) (hleaves' : Leaves duration l' c' number) :
      ¬ l.length < l'.length := by
    intro hlt
    have hstart : l' <+: calls := (List.prefix_append l' [c']).trans hl'
    have hpart : l ++ [c] <+: l' := by
      refine List.prefix_of_prefix_length_le hl hstart ?_
      rw [List.length_append, List.length_singleton]
      exact hlt
    have hle : gone duration (l ++ [c]) ≤ gone duration l' :=
      gone_le_of_begins (fun call hcall => hfresh call (hstart.subset hcall)) hpart
    have hlast := hleaves.2
    have hfirst := hleaves'.1
    omega
  have hlength : earlier.length = earlier'.length :=
    Nat.le_antisymm (Nat.not_lt.mp (hshorter hbegins' hbegins h' h))
      (Nat.not_lt.mp (hshorter hbegins hbegins' h h'))
  have hstart : earlier <+: calls := (List.prefix_append earlier [call]).trans hbegins
  have hstart' : earlier' <+: calls := (List.prefix_append earlier' [call']).trans hbegins'
  exact (List.prefix_of_prefix_length_le hstart hstart' (Nat.le_of_eq hlength)).eq_of_length hlength

theorem lt_gone_iff (hfresh : ∀ call ∈ calls, call.2.IsFresh) (number : Nat) :
    number < gone duration calls ↔
      ∃! earlier, ∃ call, earlier ++ [call] <+: calls ∧ Leaves duration earlier call number := by
  constructor
  · intro hnumber
    obtain ⟨earlier, call, hbegins, hleaves⟩ := exists_leaves hfresh hnumber
    refine ⟨earlier, ⟨call, hbegins, hleaves⟩, ?_⟩
    rintro earlier' ⟨call', hbegins', hleaves'⟩
    exact Leaves.unique hfresh hbegins' hbegins hleaves' hleaves
  · rintro ⟨earlier, ⟨call, hbegins, hleaves⟩, -⟩
    have hle : gone duration (earlier ++ [call]) ≤ gone duration calls :=
      gone_le_of_begins hfresh hbegins
    have hlast := hleaves.2
    omega

/-- Whatever is done to a queue, and whenever: notices leave in the order in which they were
    pushed, each once and no two at one call; only the time of the one at the front runs; and
    one that is not dismissed has been displayed for longer than it is due. -/
theorem shows_in_turn (duration : Nat) (calls : List (Int × NoticeCall))
    (hfresh : ∀ call ∈ calls, call.2.IsFresh) : ShowsInTurn duration calls := by
  have hkept := kept_after duration hfresh
  have hearlier {earlier : List (Int × NoticeCall)} {call : Int × NoticeCall}
      (hbegins : earlier ++ [call] <+: calls) : Kept duration earlier :=
    kept_after duration fun c hc => hfresh c (hbegins.subset (List.mem_append_left _ hc))
  refine ⟨hkept.waiting, lt_gone_iff hfresh, ?_, hkept.unmarked, ?_⟩
  · intro earlier call hbegins
    rcases (hearlier hbegins).gone_cases call with hsame | ⟨hmore, -⟩
    · exact .inl hsame
    · exact .inr ⟨rfl, hmore⟩
  · rintro earlier call number hbegins ⟨rfl, hmore⟩
    rcases (hearlier hbegins).gone_cases call with hsame | ⟨-, hcause⟩
    · omega
    · exact hcause

/-- Two notices of which the first one's time runs out; the second one is dismissed. -/
theorem shows_in_turn_two :
    let notice (title : String) : Notice := { level := .info, title, message := "" }
    let calls : List (Int × NoticeCall) :=
      [(0, .push (notice "1")), (10, .push (notice "2")), (100, .tick 0 0), (5100, .tick 0 0),
        (5100, .tick 1 0), (5200, .dismiss)]
    (∀ call ∈ calls, call.2.IsFresh) ∧ gone 5000 (calls.take 4) = 0 ∧
      gone 5000 (calls.take 5) = 1 ∧ gone 5000 calls = 2 ∧ ShowsInTurn 5000 calls := by
  intro notice calls
  have hfresh : ∀ call ∈ calls, call.2.IsFresh := by decide
  exact ⟨hfresh, by decide, by decide, by decide, shows_in_turn 5000 calls hfresh⟩

end calls

end NoticeQueue

end CatalogDesk
