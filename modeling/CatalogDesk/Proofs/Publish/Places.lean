import CatalogDesk.Proofs.Lists
import CatalogDesk.Publish.Watcher

/-! # Places of watches

    A watch takes the place of its offering when it is accepted; its task gives the place
    back when it ends, or is stopped before its end.  The list of places and the watches
    say the same: `Placed` is the invariant that a place is taken if and only if a live
    watch has the offering, and that no two live watches share an offering.

    Everything that the task of a watch does is one of three things, told by `Turn`:
    nothing, going on, or coming to an end.  The invariant, the frame of a step and the
    number of ends are derived from there and not from the tasks' own code. -/

namespace CatalogDesk

/-- The state in which a watch has ended, if the step led to its end. -/
def WatchStep.said? : WatchStep → Option WatchState
  | .conclude state => some state
  | _ => none

namespace Watcher

/-- The watch of this number is live and polls this offering. -/
def Polls (w : Watcher) (handle : Nat) (id : RecordId) : Prop :=
  ∃ x, w.watches[handle]? = some x ∧ x.isLive = true ∧ x.id = id

/-- The places that are taken are those of the live watches, one of each. -/
structure Placed (w : Watcher) : Prop where
  nodup : w.active.Nodup
  active_iff : ∀ id, id ∈ w.active ↔ ∃ handle, w.Polls handle id
  single : ∀ {id handle other}, w.Polls handle id → w.Polls other id → handle = other

theorem isWatching_iff_mem (w : Watcher) (id : RecordId) :
    w.isWatching id = true ↔ id ∈ w.active := by
  unfold isWatching
  exact List.contains_iff_mem

theorem Placed.isWatching_iff {w : Watcher} (h : w.Placed) (id : RecordId) :
    w.isWatching id = true ↔ ∃ handle, w.Polls handle id :=
  (w.isWatching_iff_mem id).trans (h.active_iff id)

/-! ## Accepting a watch -/

theorem watch_eq_error_iff (w : Watcher) (id : RecordId) (e : WatchError) :
    w.watch id = .error e ↔ w.isWatching id = true ∧ e = .alreadyWatching id := by
  unfold watch
  split
  · rename_i hw
    constructor
    · intro h
      cases h
      exact ⟨hw, rfl⟩
    · rintro ⟨-, rfl⟩
      rfl
  · rename_i hw
    exact ⟨nofun, fun h => absurd h.1 hw⟩

theorem watch_eq_ok {w w' : Watcher} {id : RecordId} {handle : Nat}
    (h : w.watch id = .ok (handle, w')) :
    id ∉ w.active ∧ handle = w.watches.length ∧
      w' = { w with active := w.active ++ [id], watches := w.watches ++ [({ id } : Watch)] } := by
  unfold watch at h
  split at h
  · cases h
  · rename_i hw
    cases h
    exact ⟨fun hmem => hw ((w.isWatching_iff_mem id).mpr hmem), rfl, rfl⟩

/-- The watches that poll after another one was accepted. -/
theorem polls_accept (w : Watcher) (id : RecordId) (handle : Nat) (other : RecordId) :
    Polls
        { w with active := w.active ++ [id], watches := w.watches ++ [({ id } : Watch)] }
        handle other ↔
      w.Polls handle other ∨ (handle = w.watches.length ∧ id = other) := by
  unfold Polls
  simp only [getElem?_concat_eq_some_iff]
  constructor
  · rintro ⟨x, hx | ⟨hhandle, rfl⟩, hlive, hid⟩
    · exact .inl ⟨x, hx, hlive, hid⟩
    · exact .inr ⟨hhandle, hid⟩
  · rintro (⟨x, hx, hlive, hid⟩ | ⟨hhandle, hid⟩)
    · exact ⟨x, .inl hx, hlive, hid⟩
    · exact ⟨({ id } : Watch), .inr ⟨hhandle, rfl⟩, rfl, hid⟩

theorem placed_watch {w w' : Watcher} {id : RecordId} {handle : Nat} (hp : w.Placed)
    (h : w.watch id = .ok (handle, w')) : w'.Placed := by
  obtain ⟨hfree, -, rfl⟩ := watch_eq_ok h
  have hnone : ∀ handle, ¬ w.Polls handle id := fun handle hpolls =>
    hfree ((hp.active_iff id).mpr ⟨handle, hpolls⟩)
  constructor
  · show (w.active ++ [id]).Nodup
    rw [List.nodup_append]
    refine ⟨hp.nodup, by simp, ?_⟩
    intro a ha b hb
    rw [List.mem_singleton.mp hb]
    rintro rfl
    exact hfree ha
  · intro other
    show other ∈ w.active ++ [id] ↔ _
    simp only [polls_accept, List.mem_append, List.mem_singleton, hp.active_iff]
    constructor
    · rintro (⟨handle, hpolls⟩ | rfl)
      · exact ⟨handle, .inl hpolls⟩
      · exact ⟨_, .inr ⟨rfl, rfl⟩⟩
    · rintro ⟨handle, hpolls | ⟨-, rfl⟩⟩
      · exact .inl ⟨handle, hpolls⟩
      · exact .inr rfl
  · intro other handle₁ handle₂ h₁ h₂
    rw [polls_accept] at h₁ h₂
    rcases h₁ with h₁ | ⟨rfl, rfl⟩ <;> rcases h₂ with h₂ | ⟨rfl, hid⟩
    · exact hp.single h₁ h₂
    · exact absurd (hid ▸ h₁) (hnone handle₁)
    · exact absurd h₂ (hnone handle₂)
    · rfl

/-! ## The task of a watch -/

/-- What one step of the task of a watch does to the watcher, and the state in which the
    watch has ended, if it ended by itself. -/
inductive Turn (w : Watcher) (handle : Nat) : Option WatchState → Watcher → Prop
  /-- The task is over already, or waits for something else. -/
  | idle : Turn w handle none w
  /-- The watch goes on. -/
  | goesOn {x x' : Watch} (found : w.watches[handle]? = some x) (live : x.isLive = true)
      (live' : x'.isLive = true) (id : x'.id = x.id)
      (open' : x.state.isTerminal = false → x'.state.isTerminal = false) :
      Turn w handle none (w.put handle x')
  /-- The watch has ended in a state, or was stopped. -/
  | ends {x : Watch} (said : Option WatchState) (found : w.watches[handle]? = some x)
      (live : x.isLive = true) :
      Turn w handle said
        ((w.put handle { x with state := said.getD x.state, phase := .ended }).release x.id)

theorem turn_beginAttempt {w : Watcher} {handle : Nat} {x : Watch}
    (hx : w.watches[handle]? = some x) (hlive : x.isLive = true) (attempt : Nat) :
    w.Turn handle (w.beginAttempt handle x attempt).1.said?
      (w.beginAttempt handle x attempt).2 := by
  unfold beginAttempt
  split
  · exact .goesOn hx hlive rfl rfl fun _ => rfl
  · exact .ends (some .timedOut) hx hlive

theorem turn_start (w : Watcher) (handle : Nat) :
    w.Turn handle (w.start handle).1.said? (w.start handle).2 := by
  unfold start
  split
  · exact .idle
  · rename_i x hx
    split
    · rename_i hphase
      have hlive : x.isLive = true := by simp [Watch.isLive, hphase]
      exact turn_beginAttempt hx hlive 1
    · exact .idle

theorem turn_ask (w : Watcher) (handle : Nat) : w.Turn handle none (w.ask handle).2 := by
  unfold ask
  split
  · exact .idle
  · rename_i x hx
    split
    · rename_i attempt hphase
      have hlive : x.isLive = true := by simp [Watch.isLive, hphase]
      exact .goesOn hx hlive rfl rfl id
    · exact .idle

theorem turn_answer (w : Watcher) (handle : Nat) (result : Except Failure Offering) :
    w.Turn handle (w.answer handle result).1.said? (w.answer handle result).2 := by
  unfold answer
  split
  · exact .idle
  · rename_i x hx
    split
    · rename_i attempt hphase
      have hlive : x.isLive = true := by simp [Watch.isLive, hphase]
      split
      · rename_i state _
        exact .ends (some state) hx hlive
      · exact turn_beginAttempt hx hlive (attempt + 1)
    · exact .idle

theorem turn_stop (w : Watcher) (handle : Nat) : w.Turn handle none (w.stop handle) := by
  unfold stop
  split
  · exact .idle
  · rename_i x hx
    split
    · rename_i hlive
      exact .ends none hx hlive
    · exact .idle

/-! ## What a step of a task preserves -/

theorem getElem?_put (w : Watcher) {handle : Nat} {x : Watch}
    (hx : w.watches[handle]? = some x) (x' : Watch) (other : Nat) :
    (w.put handle x').watches[other]? = if other = handle then some x' else w.watches[other]? := by
  show (w.watches.set handle x')[other]? = _
  have hlt : handle < w.watches.length := (List.getElem?_eq_some_iff.mp hx).1
  split
  · rename_i heq
    rw [heq, List.getElem?_set_self hlt]
  · rename_i hne
    exact List.getElem?_set_ne (Ne.symm hne)

theorem getElem?_put_self {w : Watcher} {handle : Nat} {x : Watch}
    (hx : w.watches[handle]? = some x) (x' : Watch) :
    (w.put handle x').watches[handle]? = some x' :=
  (getElem?_put w hx x' handle).trans (if_pos rfl)

/-- A step of the task of a watch changes no other watch. -/
theorem Turn.getElem?_ne {w w' : Watcher} {handle other : Nat} {said : Option WatchState}
    (ht : w.Turn handle said w') (hne : other ≠ handle) :
    w'.watches[other]? = w.watches[other]? := by
  cases ht with
  | idle => rfl
  | goesOn found => rw [getElem?_put w found, if_neg hne]
  | ends said found => exact (getElem?_put w found _ other).trans (if_neg hne)

theorem Turn.length_eq {w w' : Watcher} {handle : Nat} {said : Option WatchState}
    (ht : w.Turn handle said w') : w'.watches.length = w.watches.length := by
  cases ht with
  | idle => rfl
  | goesOn => exact List.length_set
  | ends => exact List.length_set

theorem Turn.maxAttempts_eq {w w' : Watcher} {handle : Nat} {said : Option WatchState}
    (ht : w.Turn handle said w') : w'.maxAttempts = w.maxAttempts := by
  cases ht <;> rfl

theorem Turn.polls_ne {w w' : Watcher} {handle other : Nat} {said : Option WatchState}
    (ht : w.Turn handle said w') (hne : other ≠ handle) (id : RecordId) :
    w'.Polls other id ↔ w.Polls other id := by
  unfold Polls
  rw [ht.getElem?_ne hne]

/-- A watch that is not live is over: no step of its task changes anything. -/
theorem Turn.eq_of_not_polls {w w' : Watcher} {handle : Nat} {said : Option WatchState}
    (ht : w.Turn handle said w') (hover : ∀ id, ¬ w.Polls handle id) : said = none ∧ w' = w := by
  cases ht with
  | idle => exact ⟨rfl, rfl⟩
  | goesOn found live => exact absurd ⟨_, found, live, rfl⟩ (hover _)
  | ends said found live => exact absurd ⟨_, found, live, rfl⟩ (hover _)

theorem polls_put_live {w : Watcher} {handle : Nat} {x x' : Watch}
    (found : w.watches[handle]? = some x) (live : x.isLive = true) (live' : x'.isLive = true)
    (hid : x'.id = x.id) (other : Nat) (id : RecordId) :
    (w.put handle x').Polls other id ↔ w.Polls other id := by
  by_cases heq : other = handle
  · subst heq
    unfold Polls
    rw [getElem?_put w found, if_pos rfl, found]
    constructor
    · rintro ⟨y, hy, -, hyid⟩
      cases hy
      exact ⟨x, rfl, live, hid ▸ hyid⟩
    · rintro ⟨y, hy, -, hyid⟩
      cases hy
      exact ⟨x', rfl, live', hid.trans hyid⟩
  · unfold Polls
    rw [getElem?_put w found, if_neg heq]

/-- After the end of a watch the others poll as before. -/
theorem polls_release {w : Watcher} {handle : Nat} {x : Watch}
    (found : w.watches[handle]? = some x) (state : WatchState) (other : Nat) (id : RecordId) :
    ((w.put handle { x with state, phase := .ended }).release x.id).Polls other id ↔
      other ≠ handle ∧ w.Polls other id := by
  have hget := getElem?_put w found { x with state, phase := .ended } other
  constructor
  · rintro ⟨y, hy, hlive, hid⟩
    have hy' := hget.symm.trans hy
    by_cases heq : other = handle
    · rw [if_pos heq] at hy'
      cases hy'
      cases hlive
    · rw [if_neg heq] at hy'
      exact ⟨heq, y, hy', hlive, hid⟩
  · rintro ⟨hne, y, hy, hlive, hid⟩
    exact ⟨y, (hget.trans (if_neg hne)).trans hy, hlive, hid⟩

/-- **Step lemma.** A step of the task of a watch keeps the places right. -/
theorem Turn.placed {w w' : Watcher} {handle : Nat} {said : Option WatchState}
    (ht : w.Turn handle said w') (hp : w.Placed) : w'.Placed := by
  cases ht with
  | idle => exact hp
  | goesOn found live live' hid _ =>
    have hpolls := polls_put_live found live live' hid
    constructor
    · exact hp.nodup
    · intro id
      simp only [hpolls]
      exact hp.active_iff id
    · intro id handle₁ handle₂ h₁ h₂
      exact hp.single ((hpolls _ _).mp h₁) ((hpolls _ _).mp h₂)
  | @ends x said found live =>
    have hpolls := polls_release found (said.getD x.state)
    constructor
    · exact hp.nodup.erase x.id
    · intro id
      simp only [hpolls]
      show id ∈ w.active.erase x.id ↔ _
      rw [hp.nodup.mem_erase_iff, hp.active_iff]
      -- The live watches of `x.id` are `x` itself, and no other.
      constructor
      · rintro ⟨hne, other, hother⟩
        refine ⟨other, ?_, hother⟩
        rintro rfl
        obtain ⟨y, hy, -, rfl⟩ := hother
        exact hne (by rw [found] at hy; cases hy; rfl)
      · rintro ⟨other, hne, hother⟩
        refine ⟨?_, other, hother⟩
        rintro rfl
        exact hne (hp.single hother ⟨x, found, live, rfl⟩)
    · intro id handle₁ handle₂ h₁ h₂
      exact hp.single ((hpolls _ _).mp h₁).2 ((hpolls _ _).mp h₂).2

/-- A step of a task takes no place. -/
theorem Turn.isWatching_of {w w' : Watcher} {handle : Nat} {said : Option WatchState}
    (ht : w.Turn handle said w') {id : RecordId} (h : w'.isWatching id = true) :
    w.isWatching id = true := by
  rw [isWatching_iff_mem] at h ⊢
  cases ht with
  | idle => exact h
  | goesOn => exact h
  | ends => exact List.mem_of_mem_erase h

theorem not_polls_stop (w : Watcher) (handle : Nat) (id : RecordId) :
    ¬ (w.stop handle).Polls handle id := by
  unfold stop
  split
  · rename_i hnone
    rintro ⟨x, hx, -⟩
    exact absurd (hnone.symm.trans hx) nofun
  · rename_i x found
    split
    · exact fun h => ((polls_release found x.state handle id).mp h).1 rfl
    · rename_i hlive
      rintro ⟨y, hy, hylive, -⟩
      cases found.symm.trans hy
      exact hlive hylive

/-- A step of a task frees the place of an offering if and only if it ends the task's own
    watch of the offering. -/
theorem Turn.freed_iff {w w' : Watcher} {handle : Nat} {said : Option WatchState}
    (ht : w.Turn handle said w') (hp : w.Placed) {id : RecordId}
    (hwatching : w.isWatching id = true) :
    w'.isWatching id = false ↔ w.Polls handle id ∧ ¬ w'.Polls handle id := by
  have hp' := ht.placed hp
  rw [← Bool.not_eq_true, hp'.isWatching_iff]
  obtain ⟨owner, howner⟩ := (hp.isWatching_iff id).mp hwatching
  constructor
  · intro hfree
    by_cases heq : owner = handle
    · exact ⟨heq ▸ howner, fun h => hfree ⟨_, h⟩⟩
    · exact absurd ⟨owner, (ht.polls_ne heq id).mpr howner⟩ hfree
  · rintro ⟨hpolls, hend⟩ ⟨other, hother⟩
    by_cases heq : other = handle
    · exact hend (heq ▸ hother)
    · exact heq (hp.single ((ht.polls_ne heq id).mp hother) hpolls)

end Watcher

end CatalogDesk
