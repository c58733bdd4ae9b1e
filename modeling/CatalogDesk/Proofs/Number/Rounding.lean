import CatalogDesk.Number.Binary64
import Mathlib.Algebra.Order.Field.Power
import Mathlib.Data.Rat.Cast.Order
import Mathlib.Tactic.FieldSimp
import Mathlib.Tactic.Linarith
import Mathlib.Tactic.NormNum
import Mathlib.Tactic.Positivity
import Mathlib.Tactic.Ring

/-! # What rounding comes to

    A quotient is rounded to a number or to an infinity, and never to a NaN (`isNaN_ofRatio`).  It
    is rounded to a finite number if it is not beyond the greatest one (`isFinite_ofRatio`): if
    its last place were too great for a finite number, the quotient would be, too (`place_le`). -/

namespace CatalogDesk.Binary64

theorem magnitude_ofMagnitude (negative : Bool) {m : Nat} (h : m < Nat.pow 2 63) :
    (ofMagnitude negative m).magnitude = m := by
  unfold ofMagnitude magnitude
  rw [UInt64.toNat_ofNat']
  simp only [Nat.pow_eq] at h ⊢
  split <;> omega

theorem isNaN_ofMagnitude (negative : Bool) {m : Nat} (h : m ≤ infinityBits) :
    (ofMagnitude negative m).isNaN = false := by
  have hlt : m < Nat.pow 2 63 := by
    simp only [infinityBits, Nat.pow_eq] at h ⊢
    omega
  unfold isNaN
  rw [magnitude_ofMagnitude negative hlt, decide_eq_false_iff_not]
  omega

theorem isNaN_infinity_or_ofMagnitude (negative : Bool) (m : Nat) :
    (if infinityBits ≤ m then infinity negative else ofMagnitude negative m).isNaN = false := by
  split
  · exact isNaN_ofMagnitude negative (Nat.le_refl _)
  · exact isNaN_ofMagnitude negative (by omega)

/-- Rounding may go to infinity, but not beyond. -/
theorem isNaN_ofRatio (negative : Bool) (num den : Nat) :
    (ofRatio negative num den).isNaN = false := by
  unfold ofRatio
  split
  · exact isNaN_ofMagnitude negative (Nat.zero_le _)
  · exact isNaN_infinity_or_ofMagnitude negative _

theorem isNaN_of_isFinite {x : Binary64} (h : x.isFinite = true) : x.isNaN = false := by
  unfold isFinite at h
  unfold isNaN
  rw [decide_eq_true_iff] at h
  rw [decide_eq_false_iff_not]
  omega

theorem compare?_of_numbers {x y : Binary64} (hx : x.isNaN = false) (hy : y.isNaN = false) :
    x.compare? y = some (compare x.rank y.rank) := by
  simp [compare?, hx, hy]

/-! ## Finite numbers -/

theorem isFinite_ofMagnitude (negative : Bool) {m : Nat} (h : m < infinityBits) :
    (ofMagnitude negative m).isFinite = true := by
  have hlt : m < Nat.pow 2 63 := by
    simp only [infinityBits, Nat.pow_eq] at h ⊢
    omega
  rw [isFinite, magnitude_ofMagnitude negative hlt, decide_eq_true h]

theorem isFinite_neg {x : Binary64} (h : x.isFinite = true) : x.neg.isFinite = true :=
  isFinite_ofMagnitude _ (of_decide_eq_true h)

theorem isFinite_of_not_isInfinite {x : Binary64} (hnan : x.isNaN = false)
    (hinfinite : x.isInfinite = false) : x.isFinite = true := by
  simp only [isNaN, isInfinite, isFinite, decide_eq_false_iff_not, decide_eq_true_eq] at *
  omega

/-! ## The rounding of a quotient -/

/-- The greatest finite number. -/
def greatest : Nat := (2 ^ 53 - 1) * 2 ^ 971

theorem greatest_eq : (greatest : ℚ) = (2 ^ 53 - 1) * 2 ^ (971 : Int) := by
  rw [greatest, Nat.cast_mul, Nat.cast_sub Nat.one_le_two_pow, Nat.cast_pow, Nat.cast_pow]
  rfl

/-- A quotient over a power of two, as the rounding takes it: two natural numbers. -/
def scaled (num den : Nat) (e : Int) : Nat × Nat :=
  if e < 0 then (num * Nat.pow 2 (-e).toNat, den) else (num, den * Nat.pow 2 e.toNat)

/-- The exponent with which a quotient has 52 or 53 binary digits. -/
def guess (num den : Nat) : Int := (num.log2 : Int) - den.log2 - 52

/-- The exponent of the last place of a quotient that is rounded. -/
def place (num den : Nat) : Int :=
  max (if Nat.pow 2 52 ≤ (scaled num den (guess num den)).1 / (scaled num den (guess num den)).2
    then guess num den else guess num den - 1) (-1074)

/-- The magnitude of a quotient that is rounded. -/
def rounded (num den : Nat) : Nat :=
  (place num den + 1074).toNat * Nat.pow 2 52 +
    roundDiv (scaled num den (place num den)).1 (scaled num den (place num den)).2

variable {num den : Nat}

theorem ofRatio_eq (negative : Bool) (h : num ≠ 0) : ofRatio negative num den =
    if infinityBits ≤ rounded num den then infinity negative
    else ofMagnitude negative (rounded num den) :=
  if_neg h

theorem scaled_pos (hden : 0 < den) (e : Int) : 0 < (scaled num den e).2 := by
  unfold scaled
  split
  · exact hden
  · exact Nat.mul_pos hden (Nat.pow_pos (by decide))

theorem scaled_eq (num den : Nat) (e : Int) :
    ((scaled num den e).1 : ℚ) / (scaled num den e).2 = num / den / 2 ^ e := by
  cases e with
  | ofNat k =>
    have hscaled : scaled num den (.ofNat k) = (num, den * 2 ^ k) :=
      if_neg (Int.not_lt.mpr (Int.natCast_nonneg k))
    rw [hscaled, Int.ofNat_eq_natCast, zpow_natCast, div_div]
    push_cast
    rfl
  | negSucc k =>
    have hscaled : scaled num den (.negSucc k) = (num * 2 ^ (k + 1), den) := if_pos (by omega)
    rw [hscaled, zpow_negSucc, div_inv_eq_mul, div_mul_eq_mul_div]
    push_cast
    rfl

theorem scaled_le_iff (hden : 0 < den) (n : Nat) (e : Int) :
    (scaled num den e).1 ≤ n * (scaled num den e).2 ↔ (num / den : ℚ) ≤ n * 2 ^ e := by
  have hpos : (0 : ℚ) < (scaled num den e).2 := by exact_mod_cast scaled_pos hden e
  have htwo : (0 : ℚ) < 2 ^ e := by positivity
  rw [← div_le_iff₀ htwo, ← scaled_eq, div_le_iff₀ hpos]
  exact_mod_cast Iff.rfl

theorem le_scaled_iff (hden : 0 < den) (n : Nat) (e : Int) :
    n ≤ (scaled num den e).1 / (scaled num den e).2 ↔ (n * 2 ^ e : ℚ) ≤ num / den := by
  have hpos : (0 : ℚ) < (scaled num den e).2 := by exact_mod_cast scaled_pos hden e
  have htwo : (0 : ℚ) < 2 ^ e := by positivity
  rw [Nat.le_div_iff_mul_le (scaled_pos hden e), ← le_div_iff₀ htwo, ← scaled_eq,
    le_div_iff₀ hpos]
  exact_mod_cast Iff.rfl

theorem roundDiv_le {n : Nat} (hden : 0 < den) (h : num ≤ n * den) : roundDiv num den ≤ n := by
  have hquotient : num / den ≤ n := Nat.div_le_of_le_mul (Nat.mul_comm n den ▸ h)
  unfold roundDiv
  dsimp only
  split
  · rename_i hup
    -- nothing is left of a quotient that is `n` already
    have hne : num / den ≠ n := by
      rintro rfl
      have hrest := Nat.div_add_mod num den
      rw [Nat.mul_comm] at hrest
      have hzero : num % den = 0 := by omega
      simp [hzero] at hup
      omega
    omega
  · exact hquotient

/-- What the logarithms say of the quotient. -/
theorem guess_bounds (hnum : num ≠ 0) (hden : 0 < den) :
    (2 ^ 51 * 2 ^ guess num den : ℚ) < num / den ∧
      (num / den : ℚ) < 2 ^ 53 * 2 ^ guess num den := by
  have hpos : (0 : ℚ) < den := by exact_mod_cast hden
  have hnumLow : (2 ^ num.log2 : ℚ) ≤ num := by exact_mod_cast Nat.log2_self_le hnum
  have hnumHigh : (num : ℚ) < 2 ^ (num.log2 + 1) := by exact_mod_cast Nat.lt_log2_self
  have hdenLow : (2 ^ den.log2 : ℚ) ≤ den := by
    exact_mod_cast Nat.log2_self_le (Nat.ne_of_gt hden)
  have hdenHigh : (den : ℚ) < 2 ^ (den.log2 + 1) := by exact_mod_cast Nat.lt_log2_self
  have hguess : (2 ^ guess num den : ℚ) = 2 ^ num.log2 / (2 ^ den.log2 * 2 ^ 52) := by
    rw [guess, zpow_sub₀ two_ne_zero, zpow_sub₀ two_ne_zero, zpow_natCast, zpow_natCast, div_div]
    rfl
  have hdenPos : (0 : ℚ) < 2 ^ den.log2 := by positivity
  rw [hguess]
  constructor
  · rw [lt_div_iff₀ hpos]
    calc (2 ^ 51 * (2 ^ num.log2 / (2 ^ den.log2 * 2 ^ 52)) * den : ℚ)
      _ < 2 ^ 51 * (2 ^ num.log2 / (2 ^ den.log2 * 2 ^ 52)) * 2 ^ (den.log2 + 1) := by gcongr
      _ = 2 ^ num.log2 := by rw [pow_succ 2 den.log2]; field_simp
      _ ≤ num := hnumLow
  · rw [div_lt_iff₀ hpos]
    calc (num : ℚ)
      _ < 2 ^ (num.log2 + 1) := hnumHigh
      _ = 2 ^ 53 * (2 ^ num.log2 / (2 ^ den.log2 * 2 ^ 52)) * 2 ^ den.log2 := by
        rw [pow_succ 2 num.log2]; field_simp
      _ ≤ 2 ^ 53 * (2 ^ num.log2 / (2 ^ den.log2 * 2 ^ 52)) * den := by gcongr

/-- There are at most 53 binary digits in front of the last place. -/
theorem quotient_lt (hnum : num ≠ 0) (hden : 0 < den) :
    (num / den : ℚ) < 2 ^ 53 * 2 ^ place num den := by
  have hmono {e : Int} (he : e ≤ place num den) : (2 ^ e : ℚ) ≤ 2 ^ place num den :=
    zpow_le_zpow_right₀ one_le_two he
  -- with the guess the quotient may have a digit less than it should
  by_cases hfits : Nat.pow 2 52 ≤
      (scaled num den (guess num den)).1 / (scaled num den (guess num den)).2
  · have hplace : guess num den ≤ place num den := by
      rw [place, if_pos hfits]
      exact le_max_left _ _
    calc (num / den : ℚ)
      _ < 2 ^ 53 * 2 ^ guess num den := (guess_bounds hnum hden).2
      _ ≤ 2 ^ 53 * 2 ^ place num den := mul_le_mul_of_nonneg_left (hmono hplace) (by positivity)
  · have hplace : guess num den - 1 ≤ place num den := by
      rw [place, if_neg hfits]
      exact le_max_left _ _
    rw [le_scaled_iff hden, not_le] at hfits
    calc (num / den : ℚ)
      _ < 2 ^ 52 * 2 ^ guess num den := by exact_mod_cast hfits
      _ = 2 ^ 53 * 2 ^ (guess num den - 1) := by rw [zpow_sub_one₀ two_ne_zero]; ring
      _ ≤ 2 ^ 53 * 2 ^ place num den := mul_le_mul_of_nonneg_left (hmono hplace) (by positivity)

/-- There are that many unless the last place is the least one. -/
theorem le_quotient (hnum : num ≠ 0) (hden : 0 < den) (h : -1074 < place num den) :
    (2 ^ 52 * 2 ^ place num den : ℚ) ≤ num / den := by
  have hplace := (lt_max_iff.mp h).resolve_right (lt_irrefl _)
  rw [place, max_eq_left hplace.le]
  split
  · rename_i hfits
    exact_mod_cast (le_scaled_iff hden _ _).mp hfits
  · calc (2 ^ 52 * 2 ^ (guess num den - 1) : ℚ)
      _ = 2 ^ 51 * 2 ^ guess num den := by rw [zpow_sub_one₀ two_ne_zero]; ring
      _ ≤ num / den := (guess_bounds hnum hden).1.le

theorem place_le (hnum : num ≠ 0) (hden : 0 < den) (h : (num / den : ℚ) ≤ greatest) :
    place num den ≤ 971 := by
  by_contra hgreat
  have hmono : (2 ^ (972 : Int) : ℚ) ≤ 2 ^ place num den :=
    zpow_le_zpow_right₀ one_le_two (by omega)
  have hle := le_quotient hnum hden (by omega)
  have hbeyond : (greatest : ℚ) < 2 ^ 52 * 2 ^ (972 : Int) := by
    have hpower : (0 : ℚ) < 2 ^ (971 : Int) := by positivity
    calc (greatest : ℚ)
      _ = (2 ^ 53 - 1) * 2 ^ (971 : Int) := greatest_eq
      _ < 2 ^ 53 * 2 ^ (971 : Int) := mul_lt_mul_of_pos_right (sub_one_lt _) hpower
      _ = 2 ^ 52 * 2 ^ (971 + 1 : Int) := by rw [zpow_add_one₀ two_ne_zero]; ring
  linarith

theorem rounded_lt (hnum : num ≠ 0) (hden : 0 < den) (h : num ≤ greatest * den) :
    rounded num den < infinityBits := by
  have hpos : (0 : ℚ) < den := by exact_mod_cast hden
  have hquotient : (num / den : ℚ) ≤ greatest := by
    rw [div_le_iff₀ hpos]
    exact_mod_cast h
  have hround {n : Nat} (hn : (num / den : ℚ) ≤ n * 2 ^ place num den) :
      roundDiv (scaled num den (place num den)).1 (scaled num den (place num den)).2 ≤ n :=
    roundDiv_le (scaled_pos hden _) ((scaled_le_iff hden n _).mpr hn)
  have hlow : -1074 ≤ place num den := le_max_right _ _
  simp only [rounded, infinityBits, Nat.pow_eq]
  rcases Int.lt_or_eq_of_le (place_le hnum hden hquotient) with hlt | heq
  · have hdigits := hround (n := 2 ^ 53) (by exact_mod_cast (quotient_lt hnum hden).le)
    omega
  · -- the greatest finite number has this last place, and the quotient is not rounded beyond it
    have hdigits := hround (n := 2 ^ 53 - 1) (by
      rw [heq]
      exact hquotient.trans_eq (by rw [greatest_eq]; norm_num))
    rw [heq] at hdigits ⊢
    omega

/-- A quotient that is not beyond the greatest finite number is rounded to a finite one. -/
theorem isFinite_ofRatio (negative : Bool) (hden : 0 < den) (h : num ≤ greatest * den) :
    (ofRatio negative num den).isFinite = true := by
  by_cases hnum : num = 0
  · rw [ofRatio, if_pos hnum]
    exact isFinite_ofMagnitude _ (by decide)
  · have hlt := rounded_lt hnum hden h
    rw [ofRatio_eq _ hnum, if_neg (Nat.not_le.mpr hlt)]
    exact isFinite_ofMagnitude _ hlt

/-! ## Quotients of finite numbers -/

variable {x y : Binary64}

theorem ratio_pos (x : Binary64) : 0 < x.ratio.2 := by
  unfold ratio
  split
  · exact Nat.pow_pos (by decide)
  · exact Nat.one_pos

theorem ratio_le (h : x.isFinite = true) : x.ratio.1 ≤ greatest * x.ratio.2 := by
  have hmagnitude : x.magnitude < 2047 * 2 ^ 52 := of_decide_eq_true h
  have hfield : x.exponentField ≤ 2046 :=
    Nat.le_of_lt_succ ((Nat.div_lt_iff_lt_mul (by decide)).mpr hmagnitude)
  have hfraction : x.fractionField < 2 ^ 52 := Nat.mod_lt _ (by decide)
  have hmantissa : x.mantissa ≤ 2 ^ 53 - 1 := by
    simp only [mantissa, Nat.pow_eq]
    split <;> omega
  have hgrows (n k : Nat) : n ≤ n * 2 ^ k := Nat.le_mul_of_pos_right n (Nat.two_pow_pos k)
  unfold ratio
  split
  · calc x.mantissa
      _ ≤ 2 ^ 53 - 1 := hmantissa
      _ ≤ greatest := hgrows _ 971
      _ ≤ greatest * 2 ^ (-x.exponent).toNat := hgrows _ _
  · have hexponent : x.exponent.toNat ≤ 971 := by
      unfold exponent
      omega
    have hpower {k n : Nat} (h : k ≤ n) : 2 ^ k ≤ 2 ^ n := Nat.pow_le_pow_right (by decide) h
    rw [Nat.mul_one, greatest]
    exact Nat.mul_le_mul hmantissa (hpower hexponent)

/-- A finite number that is divided by one that is not less than one stays finite. -/
theorem isFinite_div (hx : x.isFinite = true) (hy : y.ratio.2 ≤ y.ratio.1) :
    (x.div y).isFinite = true := by
  have hpos := Nat.mul_pos (ratio_pos x) (Nat.lt_of_lt_of_le (ratio_pos y) hy)
  refine isFinite_ofRatio _ hpos ?_
  calc x.ratio.1 * y.ratio.2
    _ ≤ greatest * x.ratio.2 * y.ratio.1 := Nat.mul_le_mul (ratio_le hx) hy
    _ = greatest * (x.ratio.2 * y.ratio.1) := Nat.mul_assoc _ _ _

end CatalogDesk.Binary64
