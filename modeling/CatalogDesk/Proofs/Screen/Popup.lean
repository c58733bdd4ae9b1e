import CatalogDesk.Screen.Popup
import Mathlib.Algebra.Order.Floor.Div

/-! # The size of a popup

    The box of a notice is three rows higher than its text, which is wrapped inside, but has
    three rows at least and ten at most.  Its sizes have sixteen bits: a message that has more
    columns than that counts as the widest one when the width of the box is chosen, and as an
    empty one when its rows are counted.  All sums are cut at the largest size but one, the
    columns of the message and those inside the box, from which the rows are counted.

    Main result: `lawful_iff` says that this sum stays below that size, that the height is the
    one just said, and that no message with fewer columns has a higher box, if and only if the
    columns of the message and those inside the box together are a size.

    Only the width of the box depends on the message in another way: a box for a narrower
    message may be narrower (`inner_le_inner`), but then the message stands in one row. -/

namespace CatalogDesk

open Draw

/-! ## Messages of one letter -/

namespace Text

/-- A letter that is a cluster by itself. -/
theorem clustersFrom_replicate {c : Char} (hc : (Join.start c).takes c = false) (n : Nat) :
    clustersFrom (Join.start c) [c] (List.replicate n c) = List.replicate (n + 1) [c] := by
  induction n with
  | zero => rfl
  | succ n ih =>
    rw [List.replicate_succ, clustersFrom, hc, if_neg Bool.false_ne_true, ih,
      List.replicate_succ (n := n + 1)]
    rfl

theorem clusters_replicate {c : Char} (hc : (Join.start c).takes c = false) (n : Nat) :
    clusters (List.replicate n c) = List.replicate n [c] := by
  cases n with
  | zero => rfl
  | succ n => exact clustersFrom_replicate hc n

/-- A text of one letter, so many times. -/
theorem width_replicate {c : Char} (hc : (Join.start c).takes c = false)
    (hwidth : charWidth c = 1) (n : Nat) : width (String.ofList (List.replicate n c)) = n := by
  rw [width, String.toList_ofList, clusters_replicate hc]
  -- Each letter adds its one column to those behind it.
  induction n with
  | zero => rfl
  | succ n ih =>
    rw [List.replicate_succ, List.foldr_cons, ih, clusterWidth, hwidth]
    omega

end Text

namespace Popup

/-- The columns inside the box of a notice, at least one. -/
def innerColumns (n : Notice) (a : Area) : Nat := max ((box n a).width - 2) 1

/-- The size of the box follows its law. -/
structure Lawful (n : Notice) (a : Area) : Prop where
  /-- The one sum that is not cut at the largest size does not need to be. -/
  fits : sizeOr 0 (Text.width n.message) + innerColumns n a < sizes
  height : (box n a).height =
    min 10 (max 3 (Text.width n.message ⌈/⌉ innerColumns n a + 3))
  grows : ∀ message, Text.width message ≤ Text.width n.message →
    (box { n with message } a).height ≤ (box n a).height

/-! ## Columns and rows -/

variable {message inner : Nat}

theorem boxWidth_le (message title areaWidth : Nat) : boxWidth message title areaWidth ≤ 60 := by
  unfold boxWidth
  omega

/-- The largest size does not bound a box, since sixty columns do. -/
theorem boxWidth_eq (h : message < sizes) (title areaWidth : Nat) :
    boxWidth message title areaWidth =
      min (max message (sizeOr 0 title) + 4) (min 60 (areaWidth - 2)) := by
  have hlarge : 60 ≤ sizes - 1 := by decide
  have hroom : min 60 (areaWidth - 2) ≤ sizes - 1 :=
    Nat.le_trans (Nat.min_le_left _ _) hlarge
  rw [boxWidth, sizeOr, if_pos h, Nat.min_assoc, Nat.min_eq_right hroom]

theorem innerColumns_bounds (n : Notice) (a : Area) :
    1 ≤ innerColumns n a ∧ innerColumns n a ≤ 58 := by
  have hle : (box n a).width ≤ 60 := boxWidth_le _ _ _
  unfold innerColumns
  omega

theorem boxHeight_innerColumns (n : Notice) (a : Area) :
    (box n a).height = boxHeight (Text.width n.message) (innerColumns n a) := rfl

/-- Where the sum is a size, the rows are those that the message fills. -/
theorem textRows_eq (h : message + inner < sizes) (hinner : 1 ≤ inner) :
    textRows message inner = message ⌈/⌉ inner := by
  have hsize : message < sizes := by omega
  have hsum : message + inner - 1 < sizes := by omega
  rw [textRows, sizeOr, if_pos hsize, Nat.mod_eq_of_lt hsum, Nat.ceilDiv_eq_add_pred_div]

/-- A message that has too many columns is given no row at all. -/
theorem textRows_of_sizes_le (h : sizes ≤ message) (hinner : inner ≤ 58) :
    textRows message inner = 0 := by
  have hlarge : ¬ message < sizes := Nat.not_lt.mpr h
  have hsum : 0 + inner - 1 < sizes := by
    unfold sizes
    omega
  rw [textRows, sizeOr, if_neg hlarge, Nat.mod_eq_of_lt hsum, Nat.div_eq_zero_iff]
  omega

theorem boxHeight_eq (h : message + inner < sizes) (hinner : 1 ≤ inner) :
    boxHeight message inner = min 10 (max 3 (message ⌈/⌉ inner + 3)) := by
  rw [boxHeight, textRows_eq h hinner]
  omega

/-! ## Two messages -/

/-- A wider message has no narrower box, and if it has a wider one, the narrower message stands
    in one row. -/
theorem innerColumns_cases {n : Notice} {a : Area} {message : String}
    (hle : Text.width message ≤ Text.width n.message) (hsize : Text.width n.message < sizes) :
    innerColumns { n with message } a = innerColumns n a ∨
      innerColumns { n with message } a < innerColumns n a ∧
        Text.width message ≤ innerColumns { n with message } a := by
  have hsize' : Text.width message < sizes := Nat.lt_of_le_of_lt hle hsize
  simp only [innerColumns, box, boxWidth_eq hsize, boxWidth_eq hsize']
  generalize sizeOr 0 (Text.width (" " ++ n.title ++ " ")) = title
  generalize min 60 (a.width - 2) = room
  omega

/-- Fewer columns in as wide a box, or in one row, take no more rows. -/
theorem ceilDiv_le_ceilDiv_of_cases {m m' i i' : Nat} (hle : m' ≤ m) (hi : 1 ≤ i')
    (hcases : i' = i ∨ i' < i ∧ m' ≤ i') : m' ⌈/⌉ i' ≤ m ⌈/⌉ i := by
  rcases hcases with rfl | ⟨hlt, hrow⟩
  · rw [Nat.ceilDiv_eq_add_pred_div, Nat.ceilDiv_eq_add_pred_div]
    exact Nat.div_le_div_right (by omega)
  · have hone : m' ⌈/⌉ i' ≤ 1 := by
      rw [ceilDiv_le_iff_le_mul hi]
      omega
    rcases Nat.eq_zero_or_pos m' with rfl | hpos
    · rw [zero_ceilDiv]
      exact Nat.zero_le _
    · have hmore : 0 < m ⌈/⌉ i := by
        rw [Nat.ceilDiv_eq_add_pred_div]
        exact Nat.div_pos (by omega) (by omega)
      omega

/-! ## The law -/

variable {n : Notice} {a : Area}

theorem height_eq (h : Text.width n.message + innerColumns n a < sizes) :
    (box n a).height = min 10 (max 3 (Text.width n.message ⌈/⌉ innerColumns n a + 3)) :=
  boxHeight_eq h (innerColumns_bounds n a).1

/-- A message with fewer columns, too, has a sum that is a size. -/
theorem height_le (h : Text.width n.message + innerColumns n a < sizes) {message : String}
    (hle : Text.width message ≤ Text.width n.message) :
    (box { n with message } a).height ≤ (box n a).height := by
  have hsize : Text.width n.message < sizes := by omega
  have hcases := innerColumns_cases (a := a) hle hsize
  have hfits : Text.width message + innerColumns { n with message } a < sizes := by
    rcases hcases with hsame | ⟨hless, -⟩ <;> omega
  have hrows : Text.width message ⌈/⌉ innerColumns { n with message } a ≤
      Text.width n.message ⌈/⌉ innerColumns n a :=
    ceilDiv_le_ceilDiv_of_cases hle (innerColumns_bounds _ a).1 hcases
  have hheight : (box { n with message } a).height =
      min 10 (max 3 (Text.width message ⌈/⌉ innerColumns { n with message } a + 3)) :=
    height_eq hfits
  rw [hheight, height_eq h]
  omega

/-- A message that has more columns than a size is given three rows, but fills more than ten. -/
theorem Lawful.message_lt (h : Lawful n a) : Text.width n.message < sizes := by
  by_contra hlarge
  have hmessage : sizes ≤ Text.width n.message := Nat.not_lt.mp hlarge
  obtain ⟨hone, hinner⟩ := innerColumns_bounds n a
  have hthree : (box n a).height = 3 := by
    rw [boxHeight_innerColumns, boxHeight, textRows_of_sizes_le hmessage hinner]
    rfl
  have hrows : 7 ≤ Text.width n.message ⌈/⌉ innerColumns n a := by
    rw [Nat.ceilDiv_eq_add_pred_div, Nat.le_div_iff_mul_le hone]
    unfold sizes at hmessage
    omega
  have hheight := h.height
  omega

theorem Lawful.sum_lt (h : Lawful n a) : Text.width n.message + innerColumns n a < sizes := by
  have hfits := h.fits
  rw [sizeOr, if_pos h.message_lt] at hfits
  exact hfits

/-- The size of the box follows its law exactly if the columns of the message and those inside
    the box together are a size. -/
theorem lawful_iff (n : Notice) (a : Area) :
    Lawful n a ↔ Text.width n.message + innerColumns n a < sizes := by
  constructor
  · exact Lawful.sum_lt
  · intro h
    have hsize : Text.width n.message < sizes := by omega
    refine ⟨?_, height_eq h, fun message hle => height_le h hle⟩
    rw [sizeOr, if_pos hsize]
    exact h

/-- A message of as many letters as there are sizes, as it may come from a failing gateway. -/
theorem not_lawful_sizes :
    ¬ Lawful ⟨.error, "Error", String.ofList (List.replicate 65536 'x'), none, 5000⟩
      ⟨0, 0, 30, 14⟩ := by
  intro h
  have hlt := h.message_lt
  rw [Text.width_replicate (by decide) (by decide)] at hlt
  exact absurd hlt (by decide)

end Popup

end CatalogDesk
