import CatalogDesk.Draw.Surface

/-! # Brushes

    Everything that is drawn changes cells one after the other, so what holds of each change
    holds of the whole, if it is a preorder at each place.  Such a preorder is a `Brush`; a
    drawing `Paints` with it if it does nothing else to any cell.

    A text needs less than that every change of a cell is one of the brush.  It lays its style
    over the cells of its area and sets their signs, and the second half of a wide sign empties
    a cell, which is never in the first column: `Allows`.

    Two kinds of brushes are in use: `keeping`, which leaves cells at certain places alone, as
    those outside an area or those of one, and `dimming`, which brings in no color behind a
    sign. -/

namespace CatalogDesk.Draw

/-! ## Places -/

namespace Area

/-- The place is one of the area. -/
def Has (a : Area) (x y : Nat) : Prop := a.x ≤ x ∧ x < a.right ∧ a.y ≤ y ∧ y < a.bottom

variable {a b : Area} {x y : Nat}

theorem has_inter_iff : (a.inter b).Has x y ↔ a.Has x y ∧ b.Has x y := by
  simp only [Has, inter, right, bottom]
  omega

theorem isEmpty_eq_false_iff : a.isEmpty = false ↔ 0 < a.width ∧ 0 < a.height := by
  simp only [isEmpty, Bool.or_eq_false_iff, beq_eq_false_iff_ne]
  omega

end Area

namespace Surface

/-- The cell at a place of the surface. -/
def cell? (s : Surface) (x y : Nat) : Option Cell :=
  if s.covers x y then s.cells[y * s.width + x]? else none

/-- The area is a part of the surface. -/
structure Holds (s : Surface) (a : Area) : Prop where
  right : a.right ≤ s.width
  bottom : a.bottom ≤ s.height
  /-- All places of the surface have a cell. -/
  cells : s.cells.size = s.width * s.height

theorem covers_iff {s : Surface} {x y : Nat} :
    s.covers x y = true ↔ x < s.width ∧ y < s.height := by
  simp [covers]

theorem Holds.cell? {s : Surface} {a : Area} (h : s.Holds a) {x y : Nat} (hxy : a.Has x y) :
    ∃ c, s.cell? x y = some c := by
  obtain ⟨-, hx, -, hy⟩ := hxy
  have hwidth := h.right
  have hheight := h.bottom
  have hx : x < s.width := by omega
  have hy : y < s.height := by omega
  have hrow : (y + 1) * s.width ≤ s.height * s.width := Nat.mul_le_mul_right _ hy
  have hindex : y * s.width + x < s.cells.size := by
    rw [h.cells, Nat.mul_comm s.width]
    rw [Nat.succ_mul] at hrow
    omega
  refine ⟨s.cells[y * s.width + x], ?_⟩
  rw [Surface.cell?, if_pos (covers_iff.mpr ⟨hx, hy⟩), Array.getElem?_eq_getElem hindex]

theorem area_has {s : Surface} {x y : Nat} {c : Cell} (h : s.cell? x y = some c) :
    s.area.Has x y := by
  unfold Surface.cell? at h
  split at h
  · rename_i hcovers
    obtain ⟨hx, hy⟩ := covers_iff.mp hcovers
    simp only [Area.Has, area, Area.right, Area.bottom]
    omega
  · cases h

/-- An area of the surface is not cut off at its edges. -/
theorem Holds.inter {s : Surface} {a : Area} (h : s.Holds a) : a.inter s.area = a := by
  have hright := h.right
  have hbottom := h.bottom
  cases a
  simp only [Area.right, Area.bottom] at hright hbottom
  simp only [Area.inter, area, Area.right, Area.bottom, Area.mk.injEq]
  omega

theorem holds_blank (width height : Nat) {a : Area} (hright : a.right ≤ width)
    (hbottom : a.bottom ≤ height) : (blank width height).Holds a :=
  ⟨hright, hbottom, Array.size_replicate⟩

theorem cell?_blank {width height x y : Nat} {c : Cell}
    (h : (blank width height).cell? x y = some c) : c = {} := by
  unfold Surface.cell? at h
  split at h
  · simp only [blank, Array.getElem?_replicate] at h
    split at h
    · exact (Option.some.inj h).symm
    · cases h
  · cases h

@[simp] theorem width_change (s : Surface) (x y : Nat) (f : Cell → Cell) :
    (s.change x y f).width = s.width := by
  unfold change
  split <;> rfl

@[simp] theorem height_change (s : Surface) (x y : Nat) (f : Cell → Cell) :
    (s.change x y f).height = s.height := by
  unfold change
  split <;> rfl

@[simp] theorem spoilt_change (s : Surface) (x y : Nat) (f : Cell → Cell) :
    (s.change x y f).spoilt = s.spoilt := by
  unfold change
  split <;> rfl

/-- Rows follow one another, so a position tells the place. -/
theorem position_inj {width x y u v : Nat} (hx : x < width) (hu : u < width) :
    y * width + x = v * width + u ↔ u = x ∧ v = y := by
  constructor
  · intro h
    have hpos : 0 < width := Nat.zero_lt_of_lt hx
    have hrow : (width * y + x) / width = (width * v + u) / width := by
      rw [Nat.mul_comm width y, Nat.mul_comm width v, h]
    rw [Nat.mul_add_div hpos, Nat.mul_add_div hpos, Nat.div_eq_of_lt hx, Nat.div_eq_of_lt hu]
      at hrow
    obtain rfl : v = y := hrow.symm
    exact ⟨(Nat.add_left_cancel h).symm, rfl⟩
  · rintro ⟨rfl, rfl⟩
    rfl

theorem cell?_change (s : Surface) (x y u v : Nat) (f : Cell → Cell) :
    (s.change x y f).cell? u v = if u = x ∧ v = y then (s.cell? u v).map f else s.cell? u v := by
  by_cases hcovers : s.covers x y = true
  · rw [change, if_pos hcovers]
    have hplace : ({ s with cells := s.cells.modify (y * s.width + x) f } : Surface).covers u v =
        s.covers u v := rfl
    unfold Surface.cell?
    rw [hplace]
    by_cases hplace : s.covers u v = true
    · have hposition : y * s.width + x = v * s.width + u ↔ u = x ∧ v = y :=
        position_inj (covers_iff.mp hcovers).1 (covers_iff.mp hplace).1
      simp only [if_pos hplace, Array.getElem?_modify, hposition]
    · simp only [if_neg hplace, Option.map_none, ite_self]
  · rw [change, if_neg hcovers]
    split
    · rename_i hsame
      obtain ⟨rfl, rfl⟩ := hsame
      rw [Surface.cell?, if_neg hcovers]
      rfl
    · rfl

end Surface

/-! ## Brushes -/

/-- What may become of the cell at a place. -/
structure Brush where
  may : Nat → Nat → Cell → Cell → Prop
  refl : ∀ x y c, may x y c c
  trans : ∀ {x y c d e}, may x y c d → may x y d e → may x y c e

namespace Brush

/-- Nothing but what the brush may do has become of the cells. -/
structure Paints (B : Brush) (s s' : Surface) : Prop where
  width : s'.width = s.width
  height : s'.height = s.height
  spoilt : s'.spoilt = s.spoilt
  cells : ∀ x y, Option.Rel (B.may x y) (s.cell? x y) (s'.cell? x y)

/-- A text in this style may be drawn anywhere in the area. -/
structure Allows (B : Brush) (a : Area) (style : Style) : Prop where
  sign : ∀ {x y}, a.Has x y → ∀ c sign, B.may x y c ({ c with sign }.styled style)
  empty : ∀ {x y}, a.Has x y → a.x < x → ∀ c, B.may x y c {}

variable {B : Brush} {s s' s'' : Surface} {a b : Area} {style : Style} {x y : Nat}

/-! ### Changes -/

theorem paints_refl (s : Surface) : B.Paints s s := by
  refine ⟨rfl, rfl, rfl, fun x y => ?_⟩
  cases s.cell? x y with
  | none => exact .none
  | some c => exact .some (B.refl x y c)

theorem Paints.trans (h : B.Paints s s') (h' : B.Paints s' s'') : B.Paints s s'' := by
  refine ⟨h'.width.trans h.width, h'.height.trans h.height, h'.spoilt.trans h.spoilt,
    fun x y => ?_⟩
  have hcell := h.cells x y
  have hcell' := h'.cells x y
  generalize s.cell? x y = c at hcell ⊢
  generalize s'.cell? x y = d at hcell hcell'
  generalize s''.cell? x y = e at hcell' ⊢
  cases hcell with
  | none =>
    cases hcell'
    exact .none
  | some hmay =>
    cases hcell' with
    | some hmay' => exact .some (B.trans hmay hmay')

theorem Paints.foldl {β : Type} {step : Surface → β → Surface} (l : List β) (s : Surface)
    (h : ∀ i ∈ l, ∀ s, B.Paints s (step s i)) : B.Paints s (l.foldl step s) := by
  induction l generalizing s with
  | nil => exact paints_refl s
  | cons i rest ih =>
    exact (h i List.mem_cons_self s).trans
      (ih (step s i) fun j hj => h j (List.mem_cons_of_mem i hj))

theorem Paints.cell_before (h : B.Paints s s') {c' : Cell} (hc' : s'.cell? x y = some c') :
    ∃ c, s.cell? x y = some c ∧ B.may x y c c' := by
  have hcell := h.cells x y
  rw [hc'] at hcell
  generalize s.cell? x y = c at hcell ⊢
  cases hcell with
  | some hmay => exact ⟨_, rfl, hmay⟩

theorem Paints.cell_after (h : B.Paints s s') {c : Cell} (hc : s.cell? x y = some c) :
    ∃ c', s'.cell? x y = some c' ∧ B.may x y c c' := by
  have hcell := h.cells x y
  rw [hc] at hcell
  generalize s'.cell? x y = c' at hcell ⊢
  cases hcell with
  | some hmay => exact ⟨_, rfl, hmay⟩

/-- Where no other step paints what one of them does, this one has its turn between them. -/
theorem Paints.exists_turn {β : Type} (step : Surface → β → Surface) {l : List β} (key : β → Nat)
    (hkeys : (l.map key).Nodup) {i : β} (hi : i ∈ l)
    (h : ∀ j ∈ l, key j ≠ key i → ∀ s, B.Paints s (step s j)) (s : Surface) :
    ∃ before, B.Paints s before ∧ B.Paints (step before i) (l.foldl step s) := by
  obtain ⟨front, rear, rfl⟩ := List.append_of_mem hi
  rw [List.map_append, List.map_cons, List.nodup_append, List.nodup_cons] at hkeys
  obtain ⟨-, ⟨hrear, -⟩, hfront⟩ := hkeys
  refine ⟨front.foldl step s, Paints.foldl front s fun j hj => ?_, ?_⟩
  · exact h j (List.mem_append_left _ hj)
      (hfront (key j) (List.mem_map_of_mem hj) (key i) List.mem_cons_self)
  · rw [List.foldl_append, List.foldl_cons]
    refine Paints.foldl rear _ fun j hj => ?_
    refine h j (List.mem_append_right _ (List.mem_cons_of_mem i hj)) fun hsame => hrear ?_
    rw [← hsame]
    exact List.mem_map_of_mem hj

theorem paints_change {f : Cell → Cell} (h : ∀ c, B.may x y c (f c)) (s : Surface) :
    B.Paints s (s.change x y f) := by
  refine ⟨s.width_change x y f, s.height_change x y f, s.spoilt_change x y f, fun u v => ?_⟩
  rw [Surface.cell?_change]
  split
  · rename_i hsame
    obtain ⟨rfl, rfl⟩ := hsame
    cases s.cell? u v with
    | none => exact .none
    | some c => exact .some (h c)
  · exact (paints_refl s).cells u v

theorem paints_changeAll {f : Cell → Cell} (h : ∀ x y, a.Has x y → ∀ c, B.may x y c (f c))
    (s : Surface) : B.Paints s (s.changeAll a f) := by
  refine Paints.foldl _ s fun dy hdy s' => Paints.foldl _ s' fun dx hdx s'' => ?_
  refine paints_change (h _ _ (Area.has_inter_iff (b := s.area).mp ?_).1) s''
  rw [List.mem_range] at hdy hdx
  simp only [Area.Has, Area.right, Area.bottom]
  omega

/-! ### Texts -/

theorem Allows.mono (h : B.Allows a style) (hx : a.x ≤ b.x)
    (hsub : ∀ {x y}, b.Has x y → a.Has x y) : B.Allows b style where
  sign hxy := h.sign (hsub hxy)
  empty hxy hlt := h.empty (hsub hxy) (Nat.lt_of_le_of_lt hx hlt)

theorem Allows.inter (h : B.Allows a style) (b : Area) : B.Allows (a.inter b) style :=
  h.mono (Nat.le_max_left a.x b.x) fun hxy => (Area.has_inter_iff.mp hxy).1

theorem Allows.row (h : B.Allows a style) (n : Nat) : B.Allows (a.row n) style := by
  refine h.mono (Nat.le_refl a.x) fun hxy => ?_
  simp only [Area.Has, Area.row, Area.right, Area.bottom] at hxy ⊢
  omega

theorem Allows.indent (h : B.Allows a style) (n : Nat) : B.Allows (a.indent n) style := by
  refine h.mono (Nat.le_add_right a.x n) fun hxy => ?_
  simp only [Area.Has, Area.indent, Area.right, Area.bottom] at hxy ⊢
  omega

theorem paints_set (h : B.Allows a style) (hxy : a.Has x y) (sign : String) (s : Surface) :
    B.Paints s (s.set x y sign style) :=
  paints_change (fun c => h.sign hxy c sign) s

theorem paints_append (h : B.Allows a style) (hxy : a.Has x y) (sign : String) (s : Surface) :
    B.Paints s (s.append x y sign style) :=
  paints_change (fun c => h.sign hxy c (c.sign ++ sign)) s

theorem paints_wash (h : B.Allows a style) (s : Surface) : B.Paints s (s.wash a style) := by
  unfold Surface.wash
  split
  · exact paints_refl s
  · exact paints_changeAll (fun x y hxy c => h.sign hxy c c.sign) s

theorem paints_clearRun (h : B.Allows a style) {n : Nat} (hy : a.y ≤ y ∧ y < a.bottom)
    (hx : a.x < x) (hstop : x + n ≤ a.right) (s : Surface) : B.Paints s (s.clearRun x y n) := by
  induction n generalizing x s with
  | zero => exact paints_refl s
  | succ n ih =>
    have hxy : a.Has x y := ⟨Nat.le_of_lt hx, by omega, hy.1, hy.2⟩
    exact (paints_change (h.empty hxy hx) s).trans (ih (by omega) (by omega) _)

/-! ### Brushes in use -/

/-- Leaves cells at certain places as they are. -/
def keeping (p : Nat → Nat → Prop) : Brush where
  may x y c c' := p x y → c' = c
  refl _ _ _ _ := rfl
  trans h h' hxy := (h' hxy).trans (h hxy)

theorem allows_keeping {p : Nat → Nat → Prop} (h : ∀ x y, a.Has x y → ¬ p x y) (style : Style) :
    (keeping p).Allows a style where
  sign hxy _ _ hp := absurd hp (h _ _ hxy)
  empty hxy _ _ hp := absurd hp (h _ _ hxy)

/-- Leaves all cells outside an area as they are. -/
abbrev inside (a : Area) : Brush := keeping fun x y => ¬ a.Has x y

/-- Leaves all cells of an area as they are. -/
abbrev outside (a : Area) : Brush := keeping a.Has

theorem allows_inside (h : ∀ x y, b.Has x y → a.Has x y) (style : Style) :
    (inside a).Allows b style :=
  allows_keeping (fun x y hxy => not_not_intro (h x y hxy)) style

theorem Paints.cell?_eq {p : Nat → Nat → Prop} {s' : Surface} (h : (keeping p).Paints s s')
    {x y : Nat} (hxy : p x y) : s'.cell? x y = s.cell? x y := by
  have hcell := h.cells x y
  generalize s.cell? x y = c at hcell ⊢
  generalize s'.cell? x y = c' at hcell ⊢
  cases hcell with
  | none => rfl
  | some hmay => rw [hmay hxy]

/-- What one of many steps does to a place, if the others leave it alone. -/
theorem cell?_foldl_range (step : Surface → Nat → Surface) {n i x y : Nat} (hi : i < n)
    (hother : ∀ j, j ≠ i → ∀ s, (keeping fun u v => u = x ∧ v = y).Paints s (step s j))
    (s : Surface) :
    ∃ before, before.cell? x y = s.cell? x y ∧
      ((List.range n).foldl step s).cell? x y = (step before i).cell? x y := by
  have hkeys : ((List.range n).map id).Nodup := by
    rw [List.map_id]
    exact List.nodup_range
  obtain ⟨before, hbefore, hafter⟩ := Paints.exists_turn step id hkeys (List.mem_range.mpr hi)
    (fun j _ hj => hother j hj) s
  exact ⟨before, hbefore.cell?_eq ⟨rfl, rfl⟩, hafter.cell?_eq ⟨rfl, rfl⟩⟩

/-- Of the changes of all cells of an area one is that of a place in it. -/
theorem cell?_changeAll {x y : Nat} {c : Cell} (hxy : a.Has x y) (hc : s.cell? x y = some c)
    (f : Cell → Cell) : (s.changeAll a f).cell? x y = some (f c) := by
  have hplace : (a.inter s.area).Has x y := Area.has_inter_iff.mpr ⟨hxy, Surface.area_has hc⟩
  unfold Surface.changeAll
  generalize a.inter s.area = b at hplace ⊢
  simp only [Area.Has, Area.right, Area.bottom] at hplace
  have hother {u v : Nat} (hne : ¬ (u = x ∧ v = y)) (s : Surface) :
      (keeping fun u v => u = x ∧ v = y).Paints s (s.change u v f) :=
    paints_change (fun _ hsame => absurd hsame hne) s
  have hrow : y - b.y < b.height := by omega
  have hcolumn : x - b.x < b.width := by omega
  obtain ⟨above, habove, hbelow⟩ := cell?_foldl_range
    (fun s dy => (List.range b.width).foldl (fun s dx => s.change (b.x + dx) (b.y + dy) f) s)
    hrow (fun dy hdy s => Paints.foldl _ s fun dx _ s => hother (by omega) s) s
  obtain ⟨before, hbefore, hafter⟩ := cell?_foldl_range
    (fun s dx => s.change (b.x + dx) (b.y + (y - b.y)) f)
    hcolumn (fun dx hdx s => hother (by omega) s) above
  have hx : x = b.x + (x - b.x) := by omega
  have hy : y = b.y + (y - b.y) := by omega
  dsimp only
  rw [hbelow, hafter, Surface.cell?_change, if_pos ⟨hx, hy⟩, hbefore, habove, hc,
    Option.map_some]

theorem cell?_wash {x y : Nat} {c : Cell} (hxy : a.Has x y) (hc : s.cell? x y = some c)
    (style : Style) : (s.wash a style).cell? x y = some (c.styled style) := by
  unfold Surface.wash
  split
  · rename_i hplain
    obtain rfl := eq_of_beq hplain
    simp [hc, Cell.styled, Marks.union]
  · exact cell?_changeAll hxy hc _

/-- Changes no color behind a sign, but for cells to the right of a column that are emptied. -/
def dimming (column : Nat) : Brush where
  may x _ c c' := c'.back = c.back ∨ column < x ∧ c'.back = .plain
  refl _ _ _ := .inl rfl
  trans := by
    rintro x y c d e (h | h) (h' | h')
    · exact .inl (h'.trans h)
    · exact .inr h'
    · exact .inr ⟨h.1, h'.trans h.2⟩
    · exact .inr h'

theorem allows_dimming {column : Nat} {style : Style} (ha : column ≤ a.x)
    (hstyle : style.back = none) : (dimming column).Allows a style where
  sign _ c _ := .inl (by simp [Cell.styled, hstyle])
  empty _ hlt _ := .inr ⟨Nat.lt_of_le_of_lt ha hlt, rfl⟩

end Brush

end CatalogDesk.Draw
