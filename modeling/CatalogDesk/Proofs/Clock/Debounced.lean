import CatalogDesk.Clock.Debounce

/-! # Debounced values

    Every value that is handed to a debouncer sets a bell, and no bell is ever taken back: a
    later value, a `cancel` and the end of the debouncer only change what waits.  So a bell
    may ring for a value that is gone, or while another one waits that is not yet due.

    Main result: `delivers_spared` says that what has been delivered by a time are the values
    that nothing came upon before they were due (`spared`), in order, each once and at its
    time, and that a value is pending just while one of these is not yet due.

    `Waits` is the invariant.  A bell at the deadline of the waiting value is still to ring,
    and the bells ring in order, so the first bell that finds the value due is its own
    (`foldl_ring_own`).

    An event at the very time of a deadline comes after the delivery here. -/

namespace CatalogDesk

/-- What happens to a debouncer. -/
inductive DebounceEvent (α : Type) where
  | call (value : α)
  | cancel
  /-- The debouncer is given up, with what waits. -/
  | drop
  deriving DecidableEq, Repr

/-- A debouncer, the bells that are still to ring, and what was delivered so far, with the
    time of the bell. -/
structure DebounceRun (α : Type) where
  debouncer : Debouncer α
  bells : List Nat := []
  delivered : List (α × Nat) := []

namespace DebounceRun

variable {α : Type}

/-! ## Runs -/

/-- A bell rings. -/
def ring (r : DebounceRun α) (time : Nat) : DebounceRun α :=
  let (value?, debouncer) := r.debouncer.deliver time
  { r with debouncer, delivered := r.delivered ++ value?.toList.map (·, time) }

/-- Time goes on.  The bells that are due ring one after another, each at its own time; one
    at the very time that is reached rings, too. -/
def pass (r : DebounceRun α) (now : Nat) : DebounceRun α :=
  (r.bells.filter (· ≤ now)).foldl ring { r with bells := r.bells.filter (now < ·) }

/-- An event at a time; the value of a call gets a bell of its own. -/
def act (r : DebounceRun α) (time : Nat) : DebounceEvent α → DebounceRun α
  | .call value =>
    { r with debouncer := r.debouncer.call value time,
             bells := r.bells ++ [time + r.debouncer.delay] }
  | .cancel => { r with debouncer := r.debouncer.cancel }
  | .drop => { r with debouncer := r.debouncer.cancel }

def step (r : DebounceRun α) (event : Nat × DebounceEvent α) : DebounceRun α :=
  (r.pass event.1).act event.1 event.2

def after (r : DebounceRun α) (events : List (Nat × DebounceEvent α)) : DebounceRun α :=
  events.foldl step r

def start (α : Type) (delay : Nat) : DebounceRun α where
  debouncer := { delay }

/-- The events so far are in the order of their times, the last of them not after now. -/
def Timed (events : List (Nat × DebounceEvent α)) (now : Nat) : Prop :=
  events.Pairwise (·.1 ≤ ·.1) ∧ ∀ event ∈ events, event.1 ≤ now

instance (events : List (Nat × DebounceEvent α)) (now : Nat) : Decidable (Timed events now) :=
  inferInstanceAs (Decidable (_ ∧ _))

/-- The values that nothing came upon before they were due, with the times when they are. -/
def spared (delay : Nat) : List (Nat × DebounceEvent α) → List (α × Nat)
  | [] => []
  | (time, .call value) :: later =>
    if ∀ event ∈ later, time + delay ≤ event.1 then (value, time + delay) :: spared delay later
    else spared delay later
  | (_, .cancel) :: later => spared delay later
  | (_, .drop) :: later => spared delay later

/-- The value of a call, if no event at all lies strictly between the call and its deadline. -/
def undisturbed? (delay : Nat) (events : List (Nat × DebounceEvent α)) :
    Nat × DebounceEvent α → Option (α × Nat)
  | (time, .call value) =>
    if ∀ event ∈ events, ¬ (time < event.1 ∧ event.1 < time + delay) then
      some (value, time + delay)
    else none
  | (_, .cancel) => none
  | (_, .drop) => none

/-! ## Values that are spared -/

/-- What one event adds to the values that are spared so far. -/
def added (delay time : Nat) : DebounceEvent α → List (α × Nat)
  | .call value => [(value, time + delay)]
  | .cancel => []
  | .drop => []

/-- An event takes away the values that are not yet due. -/
theorem spared_concat (delay : Nat) (events : List (Nat × DebounceEvent α)) (time : Nat)
    (event : DebounceEvent α) :
    spared delay (events ++ [(time, event)]) =
      (spared delay events).filter (·.2 ≤ time) ++ added delay time event := by
  induction events with
  | nil => cases event <;> simp [spared, added]
  | cons first later ih =>
    obtain ⟨begun, kind⟩ := first
    cases kind with
    | cancel => exact ih
    | drop => exact ih
    | call value =>
      rw [List.cons_append, spared, spared, ih]
      have hlater : (∀ e ∈ later ++ [(time, event)], begun + delay ≤ e.1) ↔
          (∀ e ∈ later, begun + delay ≤ e.1) ∧ begun + delay ≤ time := by
        simp only [List.mem_append, List.mem_singleton, or_imp, forall_and, forall_eq]
      by_cases hspared : ∀ e ∈ later, begun + delay ≤ e.1
      · by_cases hdue : begun + delay ≤ time
        · rw [if_pos (hlater.mpr ⟨hspared, hdue⟩), if_pos hspared, List.filter_cons_of_pos,
            List.cons_append]
          exact decide_eq_true hdue
        · rw [if_neg fun h => hdue (hlater.mp h).2, if_pos hspared, List.filter_cons_of_neg]
          simpa using hdue
      · rw [if_neg fun h => hspared (hlater.mp h).1, if_neg hspared]

/-- Where no two events come at one time, a value is spared if no event lies strictly
    between its call and its deadline. -/
theorem spared_eq_filterMap (delay : Nat) {events : List (Nat × DebounceEvent α)}
    (hevents : events.Pairwise (·.1 < ·.1)) :
    spared delay events = events.filterMap (undisturbed? delay events) := by
  -- events before the calls in question do not matter, so they may be left in the condition
  suffices hsuffix : ∀ past rest : List (Nat × DebounceEvent α),
      (past ++ rest).Pairwise (·.1 < ·.1) →
        spared delay rest = rest.filterMap (undisturbed? delay (past ++ rest)) from
    hsuffix [] events hevents
  intro past rest
  induction rest generalizing past with
  | nil => intro _; rfl
  | cons first later ih =>
    intro hordered
    obtain ⟨begun, kind⟩ := first
    have hrest := ih (past ++ [(begun, kind)]) (by simpa using hordered)
    simp only [List.append_assoc, List.singleton_append] at hrest
    cases kind with
    | cancel => exact hrest
    | drop => exact hrest
    | call value =>
      obtain ⟨-, hself, hpast⟩ := List.pairwise_append.mp hordered
      have hafter := (List.pairwise_cons.mp hself).1
      have hcondition : (∀ e ∈ later, begun + delay ≤ e.1) ↔
          ∀ e ∈ past ++ (begun, .call value) :: later, ¬ (begun < e.1 ∧ e.1 < begun + delay) := by
        constructor
        · intro hspared e he hbetween
          rcases List.mem_append.mp he with he | he
          · have hbefore := hpast e he (begun, .call value) List.mem_cons_self
            exact absurd hbefore (Nat.lt_asymm hbetween.1)
          · rcases List.mem_cons.mp he with rfl | he
            · exact absurd hbetween.1 (Nat.lt_irrefl _)
            · exact absurd hbetween.2 (Nat.not_lt.mpr (hspared e he))
        · intro hfree e he
          have hlate := hafter e he
          have hnot := hfree e (List.mem_append_right past (List.mem_cons_of_mem _ he))
          omega
      rw [spared, List.filterMap_cons, undisturbed?]
      by_cases hspared : ∀ e ∈ later, begun + delay ≤ e.1
      · rw [if_pos hspared, if_pos (hcondition.mp hspared), hrest]
      · rw [if_neg hspared, if_neg fun h => hspared (hcondition.mpr h), hrest]

/-! ## Bells -/

theorem ring_none {delay : Nat} {bells : List Nat} {delivered : List (α × Nat)} (bell : Nat) :
    ring ⟨⟨delay, none⟩, bells, delivered⟩ bell = ⟨⟨delay, none⟩, bells, delivered⟩ := by
  simp [ring, Debouncer.deliver]

theorem ring_early {delay : Nat} {p : α × Nat} {bells : List Nat} {delivered : List (α × Nat)}
    {bell : Nat} (h : bell < p.2) :
    ring ⟨⟨delay, some p⟩, bells, delivered⟩ bell = ⟨⟨delay, some p⟩, bells, delivered⟩ := by
  have hnot : ¬ p.2 ≤ bell := Nat.not_le.mpr h
  simp [ring, Debouncer.deliver, hnot]

theorem ring_own {delay : Nat} {p : α × Nat} {bells : List Nat} {delivered : List (α × Nat)} :
    ring ⟨⟨delay, some p⟩, bells, delivered⟩ p.2 = ⟨⟨delay, none⟩, bells, delivered ++ [p]⟩ := by
  simp [ring, Debouncer.deliver, Debouncer.cancel]

theorem foldl_ring_none {delay : Nat} {still : List Nat} {delivered : List (α × Nat)}
    (bells : List Nat) :
    bells.foldl ring ⟨⟨delay, none⟩, still, delivered⟩ = ⟨⟨delay, none⟩, still, delivered⟩ := by
  induction bells with
  | nil => rfl
  | cons bell bells ih => rw [List.foldl_cons, ring_none, ih]

theorem foldl_ring_early {delay : Nat} {p : α × Nat} {still : List Nat}
    {delivered : List (α × Nat)} {bells : List Nat} (h : ∀ bell ∈ bells, bell < p.2) :
    bells.foldl ring ⟨⟨delay, some p⟩, still, delivered⟩ =
      ⟨⟨delay, some p⟩, still, delivered⟩ := by
  induction bells with
  | nil => rfl
  | cons bell bells ih =>
    have hrest : ∀ b ∈ bells, b < p.2 := fun b hb => h b (List.mem_cons_of_mem bell hb)
    rw [List.foldl_cons, ring_early (h bell List.mem_cons_self), ih hrest]

/-- The first bell that finds the waiting value due is its own: the bells ring in order, so
    none before this one can have been it. -/
theorem foldl_ring_own {delay : Nat} {p : α × Nat} {still : List Nat}
    {delivered : List (α × Nat)} {bells : List Nat} (hordered : bells.Pairwise (· ≤ ·))
    (hown : p.2 ∈ bells) :
    bells.foldl ring ⟨⟨delay, some p⟩, still, delivered⟩ =
      ⟨⟨delay, none⟩, still, delivered ++ [p]⟩ := by
  induction bells with
  | nil => cases hown
  | cons bell bells ih =>
    obtain ⟨hfirst, hrest⟩ := List.pairwise_cons.mp hordered
    rw [List.foldl_cons]
    by_cases hrings : p.2 ≤ bell
    · have hsame : bell = p.2 := by
        rcases List.mem_cons.mp hown with h | h
        · exact h.symm
        · exact Nat.le_antisymm (hfirst p.2 h) hrings
      rw [hsame, ring_own, foldl_ring_none]
    · have hlater : p.2 ∈ bells := by
        rcases List.mem_cons.mp hown with h | h
        · exact absurd (Nat.le_of_eq h) hrings
        · exact h
      rw [ring_early (Nat.not_le.mp hrings), ih hrest hlater]

/-! ## One event -/

/-- A run told by the events so far.  This is the invariant. -/
structure Waits (delay : Nat) (events : List (Nat × DebounceEvent α)) (now : Nat)
    (r : DebounceRun α) : Prop where
  pace : r.debouncer.delay = delay
  told : spared delay events = r.delivered ++ r.debouncer.waiting.toList
  past : ∀ p ∈ r.delivered, p.2 ≤ now
  ordered : r.bells.Pairwise (· ≤ ·)
  /-- No bell is later than that of a call at this time would be. -/
  bounded : ∀ bell ∈ r.bells, bell ≤ now + delay
  own : ∀ p ∈ r.debouncer.waiting, p.2 ∈ r.bells

variable {r : DebounceRun α} {delay now : Nat} {events : List (Nat × DebounceEvent α)}

/-- What waits when time has passed is not yet due, and nothing else has been lost. -/
theorem Waits.pass (h : Waits delay events now r) {time : Nat} (hnow : now ≤ time) :
    Waits delay events time (r.pass time) ∧
      ∀ p ∈ (r.pass time).debouncer.waiting, time < p.2 := by
  obtain ⟨⟨pace, waiting⟩, bells, delivered⟩ := r
  have hpast : ∀ p ∈ delivered, p.2 ≤ time := fun p hp => Nat.le_trans (h.past p hp) hnow
  have hordered : (bells.filter (time < ·)).Pairwise (· ≤ ·) := h.ordered.filter _
  have hbounded : ∀ bell ∈ bells.filter (time < ·), bell ≤ time + delay := by
    intro bell hbell
    have hbound := h.bounded bell (List.mem_filter.mp hbell).1
    omega
  unfold DebounceRun.pass
  cases waiting with
  | none =>
    rw [foldl_ring_none]
    exact ⟨⟨h.pace, h.told, hpast, hordered, hbounded, fun p hp => nomatch hp⟩,
      fun p hp => nomatch hp⟩
  | some p =>
    have hown : p.2 ∈ bells := h.own p rfl
    by_cases hdue : p.2 ≤ time
    · have hrings : p.2 ∈ bells.filter (· ≤ time) :=
        List.mem_filter.mpr ⟨hown, decide_eq_true hdue⟩
      rw [foldl_ring_own (h.ordered.filter _) hrings]
      refine ⟨⟨h.pace, ?_, ?_, hordered, hbounded, fun q hq => nomatch hq⟩,
        fun q hq => nomatch hq⟩
      · rw [h.told]
        exact (List.append_nil _).symm
      · intro q hq
        rcases List.mem_append.mp hq with hq | hq
        · exact hpast q hq
        · obtain rfl := List.mem_singleton.mp hq
          exact hdue
    · have hlater : time < p.2 := Nat.not_le.mp hdue
      have hearly : ∀ bell ∈ bells.filter (· ≤ time), bell < p.2 := by
        intro bell hbell
        have hle := of_decide_eq_true (List.mem_filter.mp hbell).2
        omega
      rw [foldl_ring_early hearly]
      refine ⟨⟨h.pace, h.told, hpast, hordered, hbounded, ?_⟩, ?_⟩
      · intro q hq
        obtain rfl := Option.some.inj hq
        exact List.mem_filter.mpr ⟨hown, decide_eq_true hlater⟩
      · intro q hq
        obtain rfl := Option.some.inj hq
        exact hlater

/-- Where what waits is not yet due, the spared values that are due have been delivered. -/
theorem Waits.filter_spared (h : Waits delay events now r)
    (hwaiting : ∀ p ∈ r.debouncer.waiting, now < p.2) :
    (spared delay events).filter (·.2 ≤ now) = r.delivered := by
  have hpast : r.delivered.filter (·.2 ≤ now) = r.delivered :=
    List.filter_eq_self.mpr fun p hp => decide_eq_true (h.past p hp)
  have hlater : r.debouncer.waiting.toList.filter (·.2 ≤ now) = [] := by
    refine List.filter_eq_nil_iff.mpr fun p hp => ?_
    have hlt := hwaiting p (Option.mem_toList.mp hp)
    simpa using hlt
  rw [h.told, List.filter_append, hpast, hlater, List.append_nil]

/-- An event takes away what waits, since that is not yet due, and a call puts its own value
    in its place. -/
theorem Waits.act (h : Waits delay events now r)
    (hwaiting : ∀ p ∈ r.debouncer.waiting, now < p.2) (event : DebounceEvent α) :
    Waits delay (events ++ [(now, event)]) now (r.act now event) := by
  have htold : spared delay (events ++ [(now, event)]) = r.delivered ++ added delay now event := by
    rw [spared_concat, h.filter_spared hwaiting]
  cases event with
  | cancel => exact ⟨h.pace, htold, h.past, h.ordered, h.bounded, fun p hp => nomatch hp⟩
  | drop => exact ⟨h.pace, htold, h.past, h.ordered, h.bounded, fun p hp => nomatch hp⟩
  | call value =>
    have hbell : now + r.debouncer.delay = now + delay := by rw [h.pace]
    refine ⟨h.pace, ?_, h.past, ?_, ?_, ?_⟩
    · show _ = r.delivered ++ [(value, now + r.debouncer.delay)]
      rw [htold, hbell]
      rfl
    · show (r.bells ++ [now + r.debouncer.delay]).Pairwise (· ≤ ·)
      rw [hbell]
      refine List.pairwise_append.mpr ⟨h.ordered, List.pairwise_singleton .., ?_⟩
      intro bell hold new hnew
      obtain rfl := List.mem_singleton.mp hnew
      exact h.bounded bell hold
    · intro bell hmem
      rcases List.mem_append.mp hmem with hold | hnew
      · exact h.bounded bell hold
      · exact Nat.le_of_eq ((List.mem_singleton.mp hnew).trans hbell)
    · intro p hp
      obtain rfl := Option.some.inj hp
      exact List.mem_append_right _ List.mem_cons_self

/-- **Step lemma.** -/
theorem waits_step (h : Waits delay events now r) {event : Nat × DebounceEvent α}
    (hnow : now ≤ event.1) : Waits delay (events ++ [event]) event.1 (r.step event) := by
  obtain ⟨hpassed, hwaiting⟩ := h.pass hnow
  exact hpassed.act hwaiting event.2

/-! ## Runs of events -/

theorem waits_start (α : Type) (delay : Nat) : Waits delay [] 0 (start α delay) where
  pace := rfl
  told := rfl
  past _ hp := nomatch hp
  ordered := .nil
  bounded _ hbell := nomatch hbell
  own _ hp := nomatch hp

/-- **Run lemma.** -/
theorem waits_after (h : Waits delay events now r) {more : List (Nat × DebounceEvent α)}
    (hordered : more.Pairwise (·.1 ≤ ·.1)) (hnow : ∀ event ∈ more, now ≤ event.1) {later : Nat}
    (hle : now ≤ later) (hlater : ∀ event ∈ more, event.1 ≤ later) :
    ∃ last ≤ later, Waits delay (events ++ more) last (r.after more) := by
  induction more generalizing events now r with
  | nil =>
    rw [List.append_nil]
    exact ⟨now, hle, h⟩
  | cons event more ih =>
    obtain ⟨hfirst, hrest⟩ := List.pairwise_cons.mp hordered
    have hstep := waits_step h (hnow event List.mem_cons_self)
    have hmore := ih hstep hrest hfirst (hlater event List.mem_cons_self)
      fun e he => hlater e (List.mem_cons_of_mem event he)
    rwa [List.append_assoc, List.singleton_append] at hmore

/-- Whatever is done to a debouncer, and with whatever delay: the values that have been
    delivered by now are those that are spared and due, in order and each at its time, and
    one is pending just while a value that is spared so far is not yet due.  Where no two
    events come at one time, the values that are spared are those of the calls with no event
    strictly between the call and its deadline. -/
theorem delivers_spared (delay : Nat) (events : List (Nat × DebounceEvent α)) (now : Nat)
    (hevents : Timed events now) :
    let run := ((start α delay).after events).pass now
    run.delivered = (spared delay events).filter (·.2 ≤ now) ∧
      (run.debouncer.isPending = true ↔ ∃ p ∈ spared delay events, now < p.2) ∧
      (events.Pairwise (·.1 < ·.1) →
        spared delay events = events.filterMap (undisturbed? delay events)) := by
  intro run
  obtain ⟨last, hlast, hafter⟩ := waits_after (waits_start α delay) hevents.1
    (fun event _ => Nat.zero_le event.1) (Nat.zero_le now) hevents.2
  obtain ⟨hwaits, hwaiting⟩ := hafter.pass hlast
  have htold : spared delay events = run.delivered ++ run.debouncer.waiting.toList := hwaits.told
  refine ⟨(hwaits.filter_spared hwaiting).symm, ?_, spared_eq_filterMap delay⟩
  · rw [htold, Debouncer.isPending, Option.isSome_iff_exists]
    constructor
    · rintro ⟨p, hp⟩
      exact ⟨p, List.mem_append_right _ (Option.mem_toList.mpr hp), hwaiting p hp⟩
    · rintro ⟨p, hp, hlater⟩
      rcases List.mem_append.mp hp with hp | hp
      · exact absurd (hwaits.past p hp) (Nat.not_le.mpr hlater)
      · exact ⟨p, Option.mem_toList.mp hp⟩

/-- Of a burst the last value comes, a value that is cancelled does not, nor does one that
    the debouncer is given up with. -/
theorem delivers_spared_burst :
    let events : List (Nat × DebounceEvent String) :=
      [(0, .call "F"), (100, .call "Fi"), (200, .call "Fiber"), (600, .call "x"), (700, .cancel),
        (900, .call "Copper"), (1300, .call "y"), (1400, .drop)]
    Timed events 2000 ∧
      (((start String 300).after events).pass 2000).delivered =
        [("Fiber", 500), ("Copper", 1200)] ∧
      (((start String 300).after events).pass 2000).debouncer.isPending = false := by
  intro events
  have htimed : Timed events 2000 := by decide
  obtain ⟨hdelivered, hpending, -⟩ := delivers_spared 300 events 2000 htimed
  refine ⟨htimed, hdelivered.trans (by decide), ?_⟩
  rw [← Bool.not_eq_true, hpending]
  decide

end DebounceRun

end CatalogDesk
