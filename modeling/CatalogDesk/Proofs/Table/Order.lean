import CatalogDesk.Proofs.Json.Data
import CatalogDesk.Table.Basic

/-! # The order of cells, and sorting by it

    Sorting rows needs an order of the values of a column.  Values of all kinds may stand
    in one column, and different ones may tie: lists of the same length, objects, and
    numbers that are the same floating-point number.  So the order is a weak one, and what
    a sort does with ties has to be said: `pairwise_mergeSort_ties`.

    A NaN would tie with every number and thereby spoil the order, but data has no NaN:
    `Json.isData`.  The order of data is `compareValues_eq_weigh`, which compares values by
    what they weigh. -/

namespace CatalogDesk

namespace Table

/-! ## What values weigh -/

/-- What a value weighs among those of its kind, if that is a number. -/
def amount : Json → Int
  | .bool b => b.toNat
  | .number n => (numberValue n).rank
  | .list items => items.length
  | _ => 0

/-- What a value weighs among those of its kind, if that is a text. -/
def wording : Json → String
  | .text s => s
  | _ => ""

/-- Compares kinds, then amounts, then texts. -/
def weigh : Json → Json → Ordering :=
  compareLex (fun a b => compare (kindRank a) (kindRank b))
    (compareLex (fun a b => compare (amount a) (amount b))
      (fun a b => compare (wording a) (wording b)))

theorem transCmp_on {α β : Type} (cmp : β → β → Ordering) [Std.TransCmp cmp] (f : α → β) :
    Std.TransCmp fun a b => cmp (f a) (f b) where
  eq_swap := Std.OrientedCmp.eq_swap
  isLE_trans := Std.TransCmp.isLE_trans

instance : Std.TransCmp weigh :=
  have := transCmp_on compare kindRank
  have := transCmp_on compare amount
  have := transCmp_on compare wording
  inferInstanceAs (Std.TransCmp (compareLex _ (compareLex _ _)))

theorem isNaN_numberValue {n : Json.Number} (h : n.isData = true) :
    (numberValue n).isNaN = false := by
  cases n with
  | integer i => exact Binary64.isNaN_ofRatio _ _ _
  | real x => exact Binary64.isNaN_of_isFinite h

theorem weigh_of_kindRank {a b : Json} (h : kindRank a = kindRank b) :
    weigh a b = (compare (amount a) (amount b)).then (compare (wording a) (wording b)) := by
  simp [weigh, compareLex, h]

theorem weigh_of_kindRank_ne {a b : Json} (h : kindRank a ≠ kindRank b) :
    weigh a b = compare (kindRank a) (kindRank b) := by
  have hne : compare (kindRank a) (kindRank b) ≠ .eq := by simpa using h
  simp only [weigh, compareLex]
  cases hc : compare (kindRank a) (kindRank b) with
  | eq => exact absurd hc hne
  | lt => rfl
  | gt => rfl

theorem compareValues_of_kindRank_ne {a b : Json} (h : kindRank a ≠ kindRank b) :
    compareValues a b = compare (kindRank a) (kindRank b) := by
  unfold compareValues
  split <;> first | rfl | exact absurd rfl h

theorem compare_natCast (m n : Nat) : compare (m : Int) (n : Int) = compare m n := by
  simp only [compare, compareOfLessAndEq, Int.ofNat_lt, Int.natCast_inj]

theorem compareValues_eq_weigh {a b : Json} (ha : a.isData = true) (hb : b.isData = true) :
    compareValues a b = weigh a b := by
  by_cases hkind : kindRank a = kindRank b
  · rw [weigh_of_kindRank hkind]
    -- values of different kinds contradict `hkind`, which leaves one case for each kind
    cases a <;> cases b <;> simp only [kindRank, reduceCtorEq, Nat.reduceEqDiff] at hkind
    case null.null => rfl
    case bool.bool x y => simp [compareValues, amount, wording, compare_natCast]
    case number.number x y =>
      rw [Json.isData] at ha hb
      simp [compareValues, amount, wording,
        Binary64.compare?_of_numbers (isNaN_numberValue ha) (isNaN_numberValue hb)]
    case text.text x y => simp [compareValues, amount, wording]
    case list.list x y => simp [compareValues, amount, wording, compare_natCast]
    case object.object x y => simp [compareValues, amount, wording, kindRank]
  · rw [weigh_of_kindRank_ne hkind, compareValues_of_kindRank_ne hkind]

end Table

/-! ## Sorting -/

/-- What a comparison says to a sort in this direction. -/
def SortDirection.orient : SortDirection → Ordering → Ordering
  | .ascending, o => o
  | .descending, o => o.swap

namespace Table

theorem inOrder_eq (direction : SortDirection) (a b : Json) :
    inOrder direction a b = (direction.orient (compareValues a b)).isLE := by
  cases direction with
  | ascending =>
    simp only [inOrder, SortDirection.orient]
    cases compareValues a b <;> rfl
  | descending =>
    simp only [inOrder, SortDirection.orient]
    cases compareValues a b <;> rfl

instance {α : Type} (direction : SortDirection) (cmp : α → α → Ordering) [Std.TransCmp cmp] :
    Std.TransCmp fun a b => direction.orient (cmp a b) where
  eq_swap {a b} := by
    have hswap : cmp a b = (cmp b a).swap := Std.OrientedCmp.eq_swap
    cases direction with
    | ascending => exact hswap
    | descending => exact congrArg Ordering.swap hswap
  isLE_trans {a b c} hab hbc := by
    have hswap (a b : α) : (cmp a b).swap = cmp b a := Std.OrientedCmp.eq_swap.symm
    cases direction with
    | ascending =>
      simp only [SortDirection.orient] at hab hbc ⊢
      exact Std.TransCmp.isLE_trans hab hbc
    | descending =>
      simp only [SortDirection.orient, hswap] at hab hbc ⊢
      exact Std.TransCmp.isLE_trans hbc hab

variable {α : Type} {cmp : α → α → Ordering} [Std.TransCmp cmp]

theorem isLE_total (a b : α) : ((cmp a b).isLE || (cmp b a).isLE) = true := by
  have hswap : cmp b a = (cmp a b).swap := Std.OrientedCmp.eq_swap
  rw [hswap]
  cases cmp a b <;> rfl

theorem pairwise_mergeSort_isLE (l : List α) :
    (l.mergeSort fun a b => (cmp a b).isLE).Pairwise fun a b => (cmp a b).isLE :=
  List.pairwise_mergeSort (fun _ _ _ => Std.TransCmp.isLE_trans) isLE_total l

/-- A sort keeps the list of what ties with an item. -/
theorem filter_mergeSort_ties (l : List α) (a : α) :
    (l.mergeSort fun a b => (cmp a b).isLE).filter (cmp a · == .eq) =
      l.filter (cmp a · == .eq) := by
  have hties : (l.filter (cmp a · == .eq)).Pairwise fun x y => (cmp x y).isLE := by
    rw [List.pairwise_iff_forall_sublist]
    intro x y hxy
    have hx : cmp a x = .eq := by simpa using (List.mem_filter.mp (hxy.subset (by simp))).2
    have hy : cmp a y = .eq := by simpa using (List.mem_filter.mp (hxy.subset (by simp))).2
    have heq : cmp x y = .eq := Std.TransCmp.eq_trans (Std.OrientedCmp.eq_symm hx) hy
    simp [heq]
  have hsub : (l.filter (cmp a · == .eq)).Sublist
      ((l.mergeSort fun a b => (cmp a b).isLE).filter (cmp a · == .eq)) := by
    have hstays := (List.sublist_mergeSort (fun _ _ _ => Std.TransCmp.isLE_trans)
      isLE_total hties List.filter_sublist).filter (cmp a · == .eq)
    rwa [List.filter_filter, List.filter_congr (q := (cmp a · == .eq)) (by simp)] at hstays
  exact (hsub.eq_of_length ((List.mergeSort_perm l _).filter _).length_eq.symm).symm

/-- A sorted list has smaller items before larger ones, and those that tie as they were. -/
theorem pairwise_mergeSort_ties (cmp : α → α → Ordering) [Std.TransCmp cmp] {R : α → α → Prop}
    {l : List α} (hl : l.Pairwise R) :
    (l.mergeSort fun a b => (cmp a b).isLE).Pairwise fun a b =>
      cmp a b = .lt ∨ cmp a b = .eq ∧ R a b := by
  rw [List.pairwise_iff_forall_sublist]
  intro a b hab
  have hle : (cmp a b).isLE :=
    List.pairwise_iff_forall_sublist.mp (pairwise_mergeSort_isLE l) hab
  cases hcmp : cmp a b with
  | lt => exact .inl rfl
  | gt => simp [hcmp] at hle
  | eq =>
    have hties : [a, b].Sublist (l.filter (cmp a · == .eq)) := by
      rw [← filter_mergeSort_ties]
      have hfilter := hab.filter (cmp a · == .eq)
      rwa [List.filter_eq_self.mpr (by simp [hcmp, Std.ReflCmp.compare_self])] at hfilter
    have hsub := hties.trans List.filter_sublist
    exact .inr ⟨rfl, List.pairwise_iff_forall_sublist.mp hl hsub⟩

end Table

end CatalogDesk
