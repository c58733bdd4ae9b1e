import CatalogDesk.Calendar.Reader
import Mathlib.Data.List.TakeWhile
import Mathlib.Data.Nat.Digits.Lemmas

/-! # Numbers in digits

    Instants are written in numbers of a fixed width and read digit by digit.  This module
    joins the two sides: the digits of `padded` are the number's (`digitsValue_padded`), a
    reader that finds digits takes exactly those (`number_of_digits`), and a reader that
    succeeds says how large its number is at most (`number_lt_pow`). -/

namespace CatalogDesk

/-! ## Checked steps -/

section checked
variable {ε α β : Type}

/-- A sequence of two checked steps succeeds when both do. -/
theorem bind_eq_ok_iff {x : Except ε α} {f : α → Except ε β} {b : β} :
    (x >>= f) = .ok b ↔ ∃ a, x = .ok a ∧ f a = .ok b := by
  cases x with
  | error e => simp [bind, Except.bind]
  | ok a => simp [bind, Except.bind]

theorem map_eq_ok_iff {x : Except ε α} {f : α → β} {b : β} :
    x.map f = .ok b ↔ ∃ a, x = .ok a ∧ f a = b := by
  cases x with
  | error e => simp [Except.map]
  | ok a => simp [Except.map]

end checked

namespace Timestamp

/-! ## Digits -/

/-- Decimal digits and nothing else. -/
def Digits (ds : List Char) : Prop := ∀ c ∈ ds, c.isDigit = true

section digits
variable {ds rest : List Char} {c : Char}

theorem digitsValue_eq_ofDigitChars (ds : List Char) :
    digitsValue ds = Nat.ofDigitChars 10 ds 0 := by
  have hstep : (fun n c => n * 10 + (Char.toNat c - '0'.toNat)) =
      fun n c => 10 * n + (Char.toNat c - '0'.toNat) := by
    funext n c
    rw [Nat.mul_comm]
  unfold digitsValue Nat.ofDigitChars
  rw [hstep]

theorem digit_lt (h : c.isDigit = true) : c.toNat - '0'.toNat < 10 := by
  have hle : c.toNat ≤ 57 := by
    simp only [Char.isDigit, Bool.and_eq_true, decide_eq_true_eq, UInt32.le_iff_toNat_le] at h
    exact h.2
  have hzero : '0'.toNat = 48 := rfl
  omega

/-- So many digits, so large a number at most. -/
theorem Digits.digitsValue_lt (h : Digits ds) : digitsValue ds < 10 ^ ds.length := by
  rw [digitsValue_eq_ofDigitChars]
  induction ds with
  | nil => simp [Nat.ofDigitChars]
  | cons c ds ih =>
    -- the first digit counts for as many places as digits follow it
    have hhead := digit_lt (h c List.mem_cons_self)
    have htail := ih fun d hd => h d (List.mem_cons_of_mem c hd)
    have hvalue : Nat.ofDigitChars 10 (c :: ds) 0 =
        10 ^ ds.length * (c.toNat - '0'.toNat) + Nat.ofDigitChars 10 ds 0 := by
      rw [← Nat.ofDigitChars_eq_ofDigitChars_zero]
      simp [Nat.ofDigitChars]
    have hle : 10 ^ ds.length * (c.toNat - '0'.toNat) ≤ 10 ^ ds.length * 9 :=
      Nat.mul_le_mul_left _ (by omega)
    rw [hvalue, List.length_cons, Nat.pow_succ]
    omega

theorem length_le_byteLength (cs : List Char) : cs.length ≤ byteLength cs := by
  -- every character has at least one byte, whatever was counted before it
  have hfold : ∀ n, n + cs.length ≤ cs.foldl (fun n c => n + c.utf8Size) n := by
    induction cs with
    | nil => intro n; simp
    | cons c cs ih =>
      intro n
      have hsize := Char.utf8Size_pos c
      have hrest := ih (n + c.utf8Size)
      rw [List.foldl_cons, List.length_cons]
      omega
  simpa [byteLength] using hfold 0

/-! ## Leading digits -/

theorem leadingDigits_some (n : Nat) (cs : List Char) :
    leadingDigits (some n) cs = (cs.take n).takeWhile Char.isDigit := rfl

theorem leadingDigits_none (cs : List Char) :
    leadingDigits none cs = cs.takeWhile Char.isDigit := rfl

/-- The leading digits are digits, and no more of them than asked for. -/
theorem digits_leadingDigits (max : Option Nat) (cs : List Char) :
    Digits (leadingDigits max cs) := by
  intro c hc
  cases max with
  | none => exact List.all_eq_true.mp List.all_takeWhile c hc
  | some n => exact List.all_eq_true.mp List.all_takeWhile c hc

theorem length_leadingDigits_le (n : Nat) (cs : List Char) :
    (leadingDigits (some n) cs).length ≤ min n cs.length := by
  rw [leadingDigits_some, ← List.length_take]
  exact (List.takeWhile_prefix Char.isDigit).length_le

/-- Before something that is no digit, all digits are leading ones. -/
theorem Digits.leadingDigits_eq (h : Digits ds) (hc : c.isDigit = false) :
    leadingDigits none (ds ++ c :: rest) = ds := by
  rw [leadingDigits_none, List.takeWhile_append_of_pos h, List.takeWhile_cons_of_neg (by simp [hc]),
    List.append_nil]

theorem Digits.leadingDigits_le (h : Digits ds) {n : Nat} (hn : ds.length ≤ n)
    (hc : c.isDigit = false) : leadingDigits (some n) (ds ++ c :: rest) = ds := by
  rw [leadingDigits_some, List.take_append, List.take_of_length_le hn,
    List.takeWhile_append_of_pos h]
  -- there may be room for more digits, but the next character is none
  cases hleft : n - ds.length with
  | zero => simp
  | succ m =>
    rw [List.take_succ_cons, List.takeWhile_cons_of_neg (by simp [hc]), List.append_nil]

/-- When all digits that are asked for are there, it does not matter what follows. -/
theorem Digits.leadingDigits_length (rest : List Char) (h : Digits ds) :
    leadingDigits (some ds.length) (ds ++ rest) = ds := by
  rw [leadingDigits_some, List.take_left, List.takeWhile_eq_self_iff.mpr h]

/-! ## Numbers -/

/-- A reader that finds digits takes them for the number that they denote. -/
theorem number_of_digits {min : Nat} {max : Option Nat}
    (hlead : leadingDigits max (ds ++ rest) = ds) (hmin : min ≤ ds.length)
    (hmax : digitsValue ds ≤ maxNumber) :
    number min max (ds ++ rest) = .ok (digitsValue ds, rest) := by
  have hbytes : ¬ byteLength (ds ++ rest) < min := by
    have hlength := length_le_byteLength (ds ++ rest)
    rw [List.length_append] at hlength
    omega
  unfold number
  rw [if_neg hbytes, hlead]
  dsimp only
  rw [if_neg (by omega), if_neg (by omega), List.drop_left]

/-- A reader that succeeds has taken the leading digits. -/
theorem number_eq_ok {min n : Nat} {max : Option Nat} {cs : List Char}
    (h : number min max cs = .ok (n, rest)) :
    n = digitsValue (leadingDigits max cs) ∧ rest = cs.drop (leadingDigits max cs).length := by
  unfold number at h
  dsimp only at h
  split at h
  · cases h
  · split at h
    · cases h
    · split at h
      · cases h
      · obtain ⟨rfl, rfl⟩ := Prod.mk.inj (Except.ok.inj h)
        exact ⟨rfl, rfl⟩

/-- What is left tells how many digits were taken, and so how large the number is at most. -/
theorem number_lt_pow {min w n : Nat} {cs : List Char}
    (h : number min (some w) cs = .ok (n, rest)) :
    n < 10 ^ (cs.length - rest.length) ∧ cs.length - rest.length ≤ w := by
  obtain ⟨rfl, rfl⟩ := number_eq_ok h
  have hwidth := length_leadingDigits_le w cs
  have hused : cs.length - (cs.drop (leadingDigits (some w) cs).length).length =
      (leadingDigits (some w) cs).length := by
    rw [List.length_drop]
    omega
  rw [hused]
  exact ⟨(digits_leadingDigits (some w) cs).digitsValue_lt, by omega⟩

end digits

/-! ## Numbers of a fixed width -/

section padded
variable {w n : Nat} (rest : List Char)

theorem padded_toList (w n : Nat) : (padded w n).toList =
    List.replicate (w - (Nat.toDigits 10 n).length) '0' ++ Nat.toDigits 10 n := by
  unfold padded
  simp only [String.toList_append, Nat.toString_eq_ofList_toDigits, String.toList_ofList,
    String.length_ofList]

theorem digits_padded (w n : Nat) : Digits (padded w n).toList := by
  intro c hc
  rw [padded_toList, List.mem_append] at hc
  rcases hc with hzero | hdigit
  · rw [List.eq_of_mem_replicate hzero]
    rfl
  · exact Nat.isDigit_of_mem_toDigits (by omega) (by omega) hdigit

theorem digitsValue_padded (w n : Nat) : digitsValue (padded w n).toList = n := by
  rw [digitsValue_eq_ofDigitChars, padded_toList, Nat.ofDigitChars_append,
    Nat.ofDigitChars_replicate_zero, Nat.mul_zero, Nat.ofDigitChars_ten_toDigits]

theorem le_length_padded (w n : Nat) : w ≤ (padded w n).toList.length := by
  rw [padded_toList, List.length_append, List.length_replicate]
  omega

/-- A number that fits its width fills it. -/
theorem length_padded (hw : 0 < w) (hn : n < 10 ^ w) : (padded w n).toList.length = w := by
  have hfit := (Nat.length_toDigits_le_iff (by omega) hw).mpr hn
  rw [padded_toList, List.length_append, List.length_replicate]
  omega

/-- A number of a fixed width is read as the number, whatever follows it. -/
theorem number_padded {min : Nat} (hmin : min ≤ w) (hw : 0 < w) (hn : n < 10 ^ w)
    (hmax : n ≤ maxNumber) :
    number min (some w) ((padded w n).toList ++ rest) = .ok (n, rest) := by
  have hlength := length_padded hw hn
  have hlead : leadingDigits (some w) ((padded w n).toList ++ rest) = (padded w n).toList := by
    have h := Digits.leadingDigits_length rest (digits_padded w n)
    rwa [hlength] at h
  have hread := number_of_digits hlead (by omega : min ≤ _) (by rwa [digitsValue_padded])
  rwa [digitsValue_padded] at hread

/-- The first character is a digit. -/
theorem exists_padded_cons (hw : 0 < w) (n : Nat) :
    ∃ c cs, (padded w n).toList = c :: cs ∧ c.isDigit = true := by
  have hlength := le_length_padded w n
  have hdigits := digits_padded w n
  cases hlist : (padded w n).toList with
  | nil =>
    rw [hlist, List.length_nil] at hlength
    omega
  | cons c cs =>
    rw [hlist] at hdigits
    exact ⟨c, cs, rfl, hdigits c List.mem_cons_self⟩

end padded

end Timestamp

end CatalogDesk
