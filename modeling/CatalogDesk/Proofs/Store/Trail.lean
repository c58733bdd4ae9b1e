import CatalogDesk.Store.History
import Mathlib.Data.List.Chain

/-! # Histories as trails

    A history is a list with a place in it, and a visit drops what lies ahead of the place.
    What it stands for is a *trail*: the location in focus, with the ones behind it and the ones
    ahead of it, each the nearest first.

    Main result: `history_follows_trail` says that a history that was started at a location is
    always the history of the trail on which the same moves were made; its place is one of the
    list, and the moves back and forward undo each other.  An empty history has no location in
    focus, and stays empty until another location than the empty one is visited; from then on it
    is like one that was started there. -/

namespace CatalogDesk

/-- What can happen to a history. -/
inductive HistoryMove
  | push (location : String)
  | back
  | forward
  deriving DecidableEq

/-- A location with the ones behind it and the ones ahead of it, the nearest first. -/
structure Trail where
  behind : List String := []
  focus : String
  ahead : List String := []
  deriving DecidableEq

/-! ## Trails -/

namespace Trail

/-- Visits a location: what was in focus lies behind it, and nothing is ahead any more. -/
def push (t : Trail) (location : String) : Trail :=
  if location = t.focus then t else ⟨t.focus :: t.behind, location, []⟩

def back? (t : Trail) : Option Trail :=
  match t.behind with
  | [] => none
  | location :: behind => some ⟨behind, location, t.focus :: t.ahead⟩

def forward? (t : Trail) : Option Trail :=
  match t.ahead with
  | [] => none
  | location :: ahead => some ⟨t.focus :: t.behind, location, ahead⟩

/-- A move for which there is no location leaves the trail as it is. -/
def move (t : Trail) : HistoryMove → Trail
  | .push location => t.push location
  | .back => t.back?.getD t
  | .forward => t.forward?.getD t

def after (t : Trail) (moves : List HistoryMove) : Trail :=
  moves.foldl move t

/-- Where nothing is in focus, only a visit of another location than the empty one begins a
    trail. -/
def moveFrom : Option Trail → HistoryMove → Option Trail
  | some t, m => some (t.move m)
  | none, .push location => if location = "" then none else some { focus := location }
  | none, _ => none

/-- The trail that moves lead to from nowhere, if they begin one. -/
def afterAll (moves : List HistoryMove) : Option Trail :=
  moves.foldl moveFrom none

/-- All locations of the trail, from the farthest behind to the farthest ahead. -/
def locations (t : Trail) : List String :=
  t.behind.reverse ++ t.focus :: t.ahead

/-- The history that stands for the trail. -/
def history (t : Trail) : History :=
  ⟨t.locations, t.behind.length⟩

theorem locations_eq (t : Trail) : t.locations = (t.behind.reverse ++ [t.focus]) ++ t.ahead := by
  simp [locations]

variable {t u : Trail}

/-- The way back from a trail is the way forward to it. -/
theorem back?_eq_some_iff : t.back? = some u ↔ u.forward? = some t := by
  obtain ⟨behind, focus, ahead⟩ := t
  obtain ⟨behind', focus', ahead'⟩ := u
  cases behind with
  | nil => cases ahead' <;> simp [back?, forward?]
  | cons location behind =>
    cases ahead' with
    | nil => simp [back?, forward?]
    | cons location' ahead' =>
      simp only [back?, forward?, Option.some.injEq, Trail.mk.injEq, List.cons.injEq]
      grind

/-- The moves back and forward lead along the same locations. -/
theorem locations_of_back? (h : t.back? = some u) : u.locations = t.locations := by
  unfold back? at h
  split at h
  · cases h
  · rename_i location behind hbehind
    cases h
    simp [locations, hbehind]

theorem locations_of_forward? (h : t.forward? = some u) : u.locations = t.locations :=
  (locations_of_back? (back?_eq_some_iff.mpr h)).symm

/-! ### No location twice in a row -/

/-- No location of the trail is followed by itself. -/
def IsVaried (t : Trail) : Prop :=
  t.locations.IsChain (· ≠ ·)

theorem IsVaried.push (h : t.IsVaried) (location : String) : (t.push location).IsVaried := by
  unfold Trail.push
  split
  · exact h
  · rename_i hother
    -- what is left of the old trail ends with its focus
    have hkept : (t.behind.reverse ++ [t.focus]).IsChain (· ≠ ·) := by
      rw [IsVaried, locations_eq] at h
      exact h.left_of_append
    show ((t.focus :: t.behind).reverse ++ [location]).IsChain (· ≠ ·)
    rw [List.reverse_cons, List.append_assoc]
    exact List.isChain_append_cons_cons.mpr
      ⟨hkept, fun hsame => hother hsame.symm, List.isChain_singleton location⟩

/-- A move along the same locations, if there is one. -/
theorem IsVaried.getD (h : t.IsVaried) {next : Option Trail}
    (hsame : ∀ u, next = some u → u.locations = t.locations) : (next.getD t).IsVaried := by
  cases next with
  | none => exact h
  | some u =>
    show u.locations.IsChain (· ≠ ·)
    rw [hsame u rfl]
    exact h

theorem IsVaried.move (h : t.IsVaried) (m : HistoryMove) : (t.move m).IsVaried := by
  cases m with
  | push location => exact h.push location
  | back => exact h.getD fun _ => locations_of_back?
  | forward => exact h.getD fun _ => locations_of_forward?

theorem isVaried_start (location : String) : IsVaried { focus := location } :=
  List.isChain_singleton location

end Trail

/-! ## Histories -/

namespace History

/-- A move that is not possible leaves the history as it is. -/
def move (h : History) : HistoryMove → History
  | .push location => h.push location
  | .back => h.back?.getD h
  | .forward => h.forward?.getD h

def after (h : History) (moves : List HistoryMove) : History :=
  moves.foldl move h

/-- The history is that of the trail, and does what is done on the trail. -/
structure Follows (h : History) (t : Trail) : Prop where
  same : h = t.history
  placed : h.index < h.entries.length
  current : h.current = t.focus
  varied : h.entries.IsChain (· ≠ ·)
  push : ∀ location, h.push location = (t.push location).history
  push_current : h.push h.current = h
  back : h.back? = t.back?.map Trail.history
  forward : h.forward? = t.forward?.map Trail.history
  /-- The moves back and forward undo each other. -/
  forward_back : ∀ g, h.back? = some g → g.forward? = some h
  back_forward : ∀ g, h.forward? = some g → g.back? = some h

/-- Nothing was visited yet, and the place of the history is that of no location. -/
structure IsUnused (h : History) : Prop where
  same : h = {}
  current : h.current = ""
  push : h.push "" = h
  back : h.back? = none
  forward : h.forward? = none

variable {h : History} {line : String}

/-- A visit of another location drops what lies ahead of the place. -/
theorem push_of_ne (hne : line ≠ h.current) (hplaced : h.index < h.entries.length) :
    h.push line = ⟨h.entries.take (h.index + 1) ++ [line], h.index + 1⟩ := by
  have hlength : (h.entries.take (h.index + 1)).length = h.index + 1 := by
    rw [List.length_take]
    omega
  unfold push
  rw [if_neg (Ne.symm hne)]
  simp only [List.length_append, hlength, List.length_singleton, Nat.add_sub_cancel]

end History

namespace Trail

variable (t : Trail)

/-! ### The history of a trail -/

theorem placed_history : t.history.index < t.history.entries.length := by
  simp [history, locations]

@[simp] theorem current_history : t.history.current = t.focus := by
  simp [History.current, history, locations]

theorem push_history (location : String) :
    t.history.push location = (t.push location).history := by
  by_cases hsame : location = t.focus
  · rw [push, if_pos hsame, History.push, current_history, if_pos hsame.symm]
  · have hother : location ≠ t.history.current := by
      rw [current_history]
      exact hsame
    have htake : t.history.entries.take (t.history.index + 1) = t.behind.reverse ++ [t.focus] := by
      show t.locations.take (t.behind.length + 1) = _
      rw [locations_eq]
      exact List.take_left' (by simp)
    rw [History.push_of_ne hother t.placed_history, htake, push, if_neg hsame]
    simp [history, locations]

theorem back?_history : t.history.back? = t.back?.map history := by
  obtain ⟨behind, focus, ahead⟩ := t
  cases behind with
  | nil => rfl
  | cons location behind => simp [History.back?, History.canGoBack, back?, history, locations]

theorem forward?_history : t.history.forward? = t.forward?.map history := by
  obtain ⟨behind, focus, ahead⟩ := t
  cases ahead with
  | nil => simp [History.forward?, History.canGoForward, forward?, history, locations]
  | cons location ahead =>
    simp [History.forward?, History.canGoForward, forward?, history, locations]

theorem move_history (m : HistoryMove) : t.history.move m = (t.move m).history := by
  cases m with
  | push location => exact t.push_history location
  | back =>
    show t.history.back?.getD t.history = (t.back?.getD t).history
    rw [back?_history]
    cases t.back? <;> rfl
  | forward =>
    show t.history.forward?.getD t.history = (t.forward?.getD t).history
    rw [forward?_history]
    cases t.forward? <;> rfl

/-! ### Histories with nothing in focus -/

/-- The history that stands for a trail, and the empty one where nothing is in focus. -/
def historyOf : Option Trail → History
  | some t => t.history
  | none => {}

/-- **Step lemma.** -/
theorem move_historyOf (trail : Option Trail) (m : HistoryMove) :
    (historyOf trail).move m = historyOf (moveFrom trail m) := by
  cases trail with
  | some t => exact t.move_history m
  | none =>
    cases m with
    | push location =>
      by_cases hempty : location = ""
      · subst hempty
        rfl
      · simp [historyOf, moveFrom, History.move, History.push, History.current, hempty,
          Ne.symm hempty, history, locations]
    | back => rfl
    | forward => rfl

/-- **Run lemma.** -/
theorem after_historyOf (trail : Option Trail) (moves : List HistoryMove) :
    (historyOf trail).after moves = historyOf (moves.foldl moveFrom trail) := by
  induction moves generalizing trail with
  | nil => rfl
  | cons m moves ih =>
    show ((historyOf trail).move m).after moves =
      historyOf (moves.foldl moveFrom (moveFrom trail m))
    rw [move_historyOf]
    exact ih (moveFrom trail m)

theorem foldl_moveFrom_some (moves : List HistoryMove) :
    moves.foldl moveFrom (some t) = some (t.after moves) := by
  induction moves generalizing t with
  | nil => rfl
  | cons m moves ih => exact ih (t.move m)

theorem isVaried_moveFrom {trail : Option Trail} (h : ∀ t ∈ trail, t.IsVaried) (m : HistoryMove) :
    ∀ t ∈ moveFrom trail m, t.IsVaried := by
  cases trail with
  | some t =>
    rintro u hu
    obtain rfl := Option.some.inj hu
    exact (h t rfl).move m
  | none =>
    cases m with
    | push location =>
      intro u hu
      simp only [moveFrom, Option.mem_def, Option.ite_none_left_eq_some, Option.some.injEq] at hu
      rw [← hu.2]
      exact isVaried_start location
    | back => exact nofun
    | forward => exact nofun

theorem isVaried_foldl {trail : Option Trail} (h : ∀ t ∈ trail, t.IsVaried)
    (moves : List HistoryMove) : ∀ t ∈ moves.foldl moveFrom trail, t.IsVaried := by
  induction moves generalizing trail with
  | nil => exact h
  | cons m moves ih => exact ih (isVaried_moveFrom h m)

/-! ### What a history does -/

variable {t}

/-- What a history does is what is done on its trail. -/
theorem follows_history (h : t.IsVaried) : t.history.Follows t where
  same := rfl
  placed := t.placed_history
  current := t.current_history
  varied := h
  push := t.push_history
  push_current := if_pos rfl
  back := t.back?_history
  forward := t.forward?_history
  forward_back g hback := by
    rw [back?_history, Option.map_eq_some_iff] at hback
    obtain ⟨u, hu, rfl⟩ := hback
    rw [forward?_history, back?_eq_some_iff.mp hu]
    rfl
  back_forward g hforward := by
    rw [forward?_history, Option.map_eq_some_iff] at hforward
    obtain ⟨u, hu, rfl⟩ := hforward
    rw [back?_history, back?_eq_some_iff.mpr hu]
    rfl

end Trail

/-- **Histories follow trails**, whatever the moves.  A history that was started at a location
    follows the trail with that location in focus.  One that was empty stays unused until a
    trail begins, and then follows that one. -/
theorem history_follows_trail :
    (∀ (initial : String) (moves : List HistoryMove),
      ((History.new initial).after moves).Follows (({ focus := initial } : Trail).after moves)) ∧
    ∀ moves : List HistoryMove,
      match Trail.afterAll moves with
      | some t => (({} : History).after moves).Follows t
      | none => (({} : History).after moves).IsUnused := by
  constructor
  · intro initial moves
    have hstart : ∀ t ∈ some ({ focus := initial } : Trail), t.IsVaried :=
      fun t ht => Option.some.inj ht ▸ Trail.isVaried_start initial
    have hsame := Trail.after_historyOf (some { focus := initial }) moves
    have hvaried := Trail.isVaried_foldl hstart moves
    rw [Trail.foldl_moveFrom_some] at hsame hvaried
    have hhistory : (History.new initial).after moves =
        (({ focus := initial } : Trail).after moves).history := hsame
    rw [hhistory]
    exact Trail.follows_history (hvaried _ rfl)
  · intro moves
    have hsame : ({} : History).after moves = Trail.historyOf (Trail.afterAll moves) :=
      Trail.after_historyOf none moves
    have hvaried : ∀ t ∈ Trail.afterAll moves, t.IsVaried :=
      Trail.isVaried_foldl (fun t ht => by cases ht) moves
    rw [hsame]
    cases htrail : Trail.afterAll moves with
    | some t => exact Trail.follows_history (hvaried t htrail)
    | none => exact ⟨rfl, rfl, rfl, rfl, rfl⟩

/-- The empty history is not that of the trail with its current location in focus: the first
    visit from there leaves nothing behind. -/
theorem not_follows_emptyFocus :
    let h := ({} : History).after [.push "q=Fiber"]
    let t := ({ focus := ({} : History).current } : Trail).after [.push "q=Fiber"]
    t.back?.map Trail.focus = some "" ∧ h.back? = none ∧ ¬ h.Follows t := by
  intro h t
  refine ⟨by decide, by decide, fun hfollows => ?_⟩
  have hback : h.back? = t.back?.map Trail.history := hfollows.back
  exact absurd hback (by decide)

end CatalogDesk
