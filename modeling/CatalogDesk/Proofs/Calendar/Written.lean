import CatalogDesk.Proofs.Calendar.Instants

/-! # Written instants, read back

    An instant is written in one form only, with offset `+00:00`.  Part by part, what is
    written is what the strict reader takes: the fields by `field_padded`, the fraction by
    `optionalFraction_fractionText`, the leap second by `assemble_clock`.  So an instant of a
    year with four digits is read back as itself.  Another year is written with a sign, which
    only the lenient reader takes, and that one has no use for the offset at the end:
    `ofText_text_iff` says that four digits are exactly what it takes. -/

namespace CatalogDesk.Timestamp

/-! ## Parts of the text -/

section parts
variable (rest : List Char)

theorem literal_self (c : Char) : literal c (c :: rest) = .ok ((), rest) := by
  simp [literal]

/-- A field of two digits is read, whether or not the reader asks for both of them. -/
theorem field_padded {min low high n : Nat} (hmin : min ≤ 2) (hlow : low ≤ n) (hhigh : n ≤ high)
    (htwo : high < 100) : field min low high ((padded 2 n).toList ++ rest) = .ok (n, rest) := by
  have hnumber : number min (some 2) ((padded 2 n).toList ++ rest) = .ok (n, rest) :=
    number_padded rest hmin (by omega) (by omega) (by unfold maxNumber; norm_num; omega)
  have hrange : inRange low high n = .ok () := by
    simp [inRange, hlow, hhigh]
  unfold field
  rw [hnumber]
  simp only [bind, Except.bind, hrange]

/-- There is no blank in front of a digit. -/
theorem dropBlank_digit {c : Char} (hc : c.isDigit = true) (cs : List Char) :
    Text.dropBlank (c :: cs) = c :: cs := by
  have hblank : Text.isBlank c = false := by
    simp only [Char.isDigit, Bool.and_eq_true, decide_eq_true_eq,
      UInt32.le_iff_toNat_le] at hc
    have hlow : 48 ≤ c.toNat := hc.1
    have hhigh : c.toNat ≤ 57 := hc.2
    simp only [Text.isBlank, Bool.or_eq_false_iff, Bool.and_eq_false_iff, decide_eq_false_iff_not,
      beq_eq_false_iff_ne]
    omega
  unfold Text.dropBlank
  rw [List.dropWhile_cons_of_neg (by simp [hblank])]

theorem lenientField_padded {low high n : Nat} (hlow : low ≤ n) (hhigh : n ≤ high)
    (htwo : high < 100) :
    lenientField low high ((padded 2 n).toList ++ rest) = .ok (n, rest) := by
  obtain ⟨c, cs, hcons, hc⟩ := exists_padded_cons (w := 2) (by omega) n
  have hblank : Text.dropBlank ((padded 2 n).toList ++ rest) = (padded 2 n).toList ++ rest := by
    rw [hcons, List.cons_append, dropBlank_digit hc]
  unfold lenientField
  rw [hblank]
  exact field_padded rest (by omega) hlow hhigh htwo

/-- Digits after the point count from the left. -/
theorem fraction_padded {w n : Nat} (hw : 0 < w) (hnine : w ≤ 9) (hn : n < 10 ^ w) :
    fraction ((padded w n).toList ++ '+' :: rest) = .ok (n * 10 ^ (9 - w), '+' :: rest) := by
  have hlength := length_padded hw hn
  have hlead : leadingDigits (some 9) ((padded w n).toList ++ '+' :: rest) =
      (padded w n).toList :=
    (digits_padded w n).leadingDigits_le (by omega) rfl
  have hmax : n ≤ maxNumber := by
    have hpow : 10 ^ w ≤ 10 ^ 9 := Nat.pow_le_pow_right (by omega) hnine
    unfold maxNumber
    norm_num at hpow ⊢
    omega
  have hnumber : number 1 (some 9) ((padded w n).toList ++ '+' :: rest) =
      .ok (n, '+' :: rest) := by
    have hread := number_of_digits hlead (by omega : 1 ≤ _) (by rwa [digitsValue_padded])
    rwa [digitsValue_padded] at hread
  unfold fraction
  rw [hnumber]
  simp only [bind, Except.bind, List.length_append, List.length_cons, hlength]
  rw [Nat.add_sub_cancel_right]
  rfl

/-- Three, six or nine digits are as many as the fraction needs. -/
theorem optionalFraction_fractionText {n : Nat} (hn : n < 1000000000) :
    optionalFraction ((fractionText n).toList ++ '+' :: rest) = .ok (n, '+' :: rest) := by
  -- what is left out after three or six digits are zeros
  have hpoint : ∀ w m, 0 < w → w ≤ 9 → m < 10 ^ w → m * 10 ^ (9 - w) = n →
      optionalFraction (("." ++ padded w m).toList ++ '+' :: rest) = .ok (n, '+' :: rest) := by
    intro w m hw hnine hm hvalue
    rw [String.toList_append, ← hvalue]
    exact fraction_padded rest hw hnine hm
  unfold fractionText
  by_cases hzero : n = 0
  · rw [if_pos hzero, hzero]
    rfl
  · rw [if_neg hzero]
    by_cases hmilli : n % 1000000 = 0
    · rw [if_pos hmilli]
      exact hpoint 3 _ (by omega) (by omega) (by omega) (by omega)
    · rw [if_neg hmilli]
      by_cases hmicro : n % 1000 = 0
      · rw [if_pos hmicro]
        exact hpoint 6 _ (by omega) (by omega) (by omega) (by omega)
      · rw [if_neg hmicro]
        exact hpoint 9 n (by omega) (by omega) (by omega) (by omega)

end parts

/-! ## The time of day -/

section clock
variable {t : Timestamp}

/-- The second that is written: 60 in a leap second. -/
def shownSecond (t : Timestamp) : Nat :=
  if 1000000000 ≤ t.nano then t.second % 60 + 1 else t.second % 60

/-- The fraction that is written. -/
def shownNano (t : Timestamp) : Nat :=
  if 1000000000 ≤ t.nano then t.nano - 1000000000 else t.nano

/-- The written form, as the readers go through it. -/
theorem text_toList (t : Timestamp) : t.text.toList =
    (yearText t.date.year).toList ++ '-' :: ((padded 2 t.date.month).toList ++ '-' ::
      ((padded 2 t.date.day).toList ++ 'T' :: ((padded 2 (t.second / 3600)).toList ++ ':' ::
        ((padded 2 (t.second / 60 % 60)).toList ++ ':' :: ((padded 2 t.shownSecond).toList ++
          ((fractionText t.shownNano).toList ++ "+00:00".toList)))))) := by
  have hdash : "-".toList = ['-'] := rfl
  have hletter : "T".toList = ['T'] := rfl
  have hcolon : ":".toList = [':'] := rfl
  simp only [text, clock, shownSecond, shownNano, String.toList_append, hdash, hletter, hcolon,
    List.append_assoc, List.cons_append, List.nil_append]

theorem shownSecond_le (t : Timestamp) : t.shownSecond ≤ 60 := by
  unfold shownSecond
  split <;> omega

theorem IsInstant.shownNano_lt (h : t.IsInstant) : t.shownNano < 1000000000 := by
  have hnano := h.nano_lt
  unfold shownNano
  split <;> omega

/-- The parts of the clock make the second of the day again, and second 60 a leap second:
    it is written only where the minute ends, so there is nothing it could be confused
    with. -/
theorem IsInstant.assemble_clock (h : t.IsInstant) :
    assemble t.date.year t.date.month t.date.day (t.second / 3600) (t.second / 60 % 60)
      t.shownSecond t.shownNano = .ok (t.date, t.second, t.nano) := by
  have hday := h.isDay
  have hnano := h.nano_lt
  unfold assemble
  dsimp only
  rw [if_pos hday]
  unfold shownSecond shownNano
  by_cases hleap : 1000000000 ≤ t.nano
  · -- second 60 is written, and read as the leap second after second 59
    have hend := h.atMinute hleap
    have hsecond : t.second / 3600 * 3600 + t.second / 60 % 60 * 60 + 59 = t.second := by omega
    have hrest : t.nano - 1000000000 + 1000000000 = t.nano := by omega
    rw [if_pos hleap, if_pos hleap, if_pos (by omega), hsecond, hrest]
  · -- below a minute no second is 60
    have hsecond : t.second / 3600 * 3600 + t.second / 60 % 60 * 60 + t.second % 60 =
        t.second := by omega
    rw [if_neg hleap, if_neg hleap, if_neg (by omega), hsecond]

end clock

/-! ## Years of four digits -/

section whole
variable {t : Timestamp}

/-- What every reader of an instant's fields may use. -/
theorem IsInstant.fields (h : t.IsInstant) :
    (1 ≤ t.date.month ∧ t.date.month ≤ 12) ∧ (1 ≤ t.date.day ∧ t.date.day ≤ 31) ∧
      t.second / 3600 ≤ 23 ∧ t.second / 60 % 60 ≤ 59 ∧ t.shownSecond ≤ 60 := by
  obtain ⟨-, hmonth, hday, hday'⟩ := Date.isValid_iff.mp h.isDay
  have hlast := (Date.daysInMonth_bounds t.date.year t.date.month).2
  have hsecond := h.second_lt
  unfold daySeconds at hsecond
  exact ⟨hmonth, ⟨hday, by omega⟩, by omega, by omega, shownSecond_le t⟩

theorem IsInstant.readStrict_text (h : t.IsInstant) (hplain : t.PlainYear) :
    readStrict t.text.toList = .ok t := by
  obtain ⟨⟨hmonth, hmonth'⟩, ⟨hday, hday'⟩, hhour, hminute, hsecond⟩ := h.fields
  obtain ⟨hzero, hfour⟩ := hplain
  have hyear : yearText t.date.year = padded 4 t.date.year.toNat := by
    unfold yearText
    rw [if_pos (by simp [hzero, hfour])]
  have hread : ∀ rest, number 4 (some 4) ((padded 4 t.date.year.toNat).toList ++ rest) =
      .ok (t.date.year.toNat, rest) := fun rest =>
    number_padded rest (by omega) (by omega) (by omega) (by unfold maxNumber; norm_num; omega)
  have hsame : ((t.date.year.toNat : Nat) : Int) = t.date.year := Int.toNat_of_nonneg hzero
  have hseparator : ∀ rest, separator ('T' :: rest) = .ok ((), rest) := fun _ => rfl
  have hnano : ∀ rest, optionalFraction ((fractionText t.shownNano).toList ++ '+' :: rest) =
      .ok (t.shownNano, '+' :: rest) := fun rest =>
    optionalFraction_fractionText rest h.shownNano_lt
  have hzone : "+00:00".toList = '+' :: ['0', '0', ':', '0', '0'] := rfl
  have hoffset : offset ('+' :: ['0', '0', ':', '0', '0']) = .ok (0, []) := by rfl
  have hlocal : ofLocal t.date t.second t.nano 0 = t := by
    have hlt := h.second_lt
    unfold ofLocal
    dsimp only
    rw [if_neg (by omega), if_pos (by omega)]
    simp
  rw [text_toList, hyear, hzone]
  unfold readStrict
  simp only [bind, Except.bind, hread, literal_self, hseparator, hnano, hoffset, hsame,
    field_padded _ (Nat.le_refl 2) hmonth hmonth' (by omega),
    field_padded _ (Nat.le_refl 2) hday hday' (by omega),
    field_padded _ (Nat.le_refl 2) (Nat.zero_le _) hhour (by omega),
    field_padded _ (Nat.le_refl 2) (Nat.zero_le _) hminute (by omega),
    field_padded _ (Nat.le_refl 2) (Nat.zero_le _) hsecond (by omega),
    h.assemble_clock, hlocal]
  rfl

/-! ## Other years -/

/-- The strict reader starts with a digit. -/
theorem readStrict_sign {c : Char} (hc : c.isDigit = false) (cs : List Char) :
    ∃ e, readStrict (c :: cs) = .error e := by
  have hnone : leadingDigits (some 4) (c :: cs) = [] := by
    rw [leadingDigits_some, List.take_succ_cons, List.takeWhile_cons_of_neg (by simp [hc])]
  have hnumber : ∃ e, number 4 (some 4) (c :: cs) = .error e := by
    unfold number
    split
    · exact ⟨_, rfl⟩
    · rw [hnone]
      exact ⟨_, rfl⟩
  obtain ⟨e, he⟩ := hnumber
  unfold readStrict
  rw [he]
  exact ⟨e, rfl⟩

/-- A year that four digits do not show has a sign in front. -/
theorem yearText_sign {year : Int} (hother : ¬ (0 ≤ year ∧ year ≤ 9999)) :
    (yearText year).toList =
      (if year < 0 then '-' else '+') :: (padded 4 year.natAbs).toList := by
  unfold yearText
  rw [if_neg (by simpa using hother), String.toList_append]
  split <;> rfl

/-- A year with its sign is read by the lenient reader, however many digits it has. -/
theorem lenientYear_sign {year : Int} (hother : ¬ (0 ≤ year ∧ year ≤ 9999))
    (hmin : Date.minYear ≤ year) (hmax : year ≤ Date.maxYear) (rest : List Char) :
    lenientYear ((yearText year).toList ++ '-' :: rest) = .ok (year, '-' :: rest) := by
  unfold Date.minYear at hmin
  unfold Date.maxYear at hmax
  have hnumber : number 1 none ((padded 4 year.natAbs).toList ++ '-' :: rest) =
      .ok (year.natAbs, '-' :: rest) := by
    have hlead : leadingDigits none ((padded 4 year.natAbs).toList ++ '-' :: rest) =
        (padded 4 year.natAbs).toList := (digits_padded 4 year.natAbs).leadingDigits_eq rfl
    have hlength := le_length_padded 4 year.natAbs
    have hread := number_of_digits hlead (by omega : 1 ≤ _)
      (by rw [digitsValue_padded]; unfold maxNumber; norm_num; omega)
    rwa [digitsValue_padded] at hread
  have hinside : (decide (year < -maxFieldYear - 1) || decide (maxFieldYear < year)) = false := by
    rw [Bool.or_eq_false_iff, decide_eq_false_iff_not, decide_eq_false_iff_not]
    unfold maxFieldYear
    omega
  rw [yearText_sign hother, List.cons_append]
  by_cases hneg : year < 0
  · have hblank : ∀ cs, Text.dropBlank ('-' :: cs) = '-' :: cs := fun _ => rfl
    have hvalue : -((year.natAbs : Nat) : Int) = year := by omega
    rw [if_pos hneg]
    simp only [lenientYear, hblank, hnumber, Except.map, bind, Except.bind, hvalue, hinside]
    rfl
  · have hblank : ∀ cs, Text.dropBlank ('+' :: cs) = '+' :: cs := fun _ => rfl
    have hvalue : ((year.natAbs : Nat) : Int) = year := by omega
    rw [if_neg hneg]
    simp only [lenientYear, hblank, hnumber, Except.map, bind, Except.bind, hvalue, hinside]
    rfl

/-- The lenient reader has no place for the offset. -/
theorem IsInstant.readLenient_text (h : t.IsInstant) (hother : ¬ t.PlainYear) :
    readLenient t.text.toList = .error .tooLong := by
  obtain ⟨⟨hmonth, hmonth'⟩, ⟨hday, hday'⟩, hhour, hminute, hsecond⟩ := h.fields
  obtain ⟨⟨hmin, hmax⟩, -⟩ := Date.isValid_iff.mp h.isDay
  have hnano : ∀ rest, optionalFraction ((fractionText t.shownNano).toList ++ '+' :: rest) =
      .ok (t.shownNano, '+' :: rest) := fun rest =>
    optionalFraction_fractionText rest h.shownNano_lt
  have hzone : "+00:00".toList = '+' :: ['0', '0', ':', '0', '0'] := rfl
  rw [text_toList, hzone]
  unfold readLenient
  simp only [bind, Except.bind, lenientYear_sign hother hmin hmax, literal_self, hnano,
    lenientField_padded _ hmonth hmonth' (by omega), lenientField_padded _ hday hday' (by omega),
    lenientField_padded _ (Nat.zero_le _) hhour (by omega),
    lenientField_padded _ (Nat.zero_le _) hminute (by omega),
    lenientField_padded _ (Nat.zero_le _) hsecond (by omega)]
  rfl

/-- A year with a sign is too much for one reader, and the offset for the other. -/
theorem IsInstant.ofText_text_other (h : t.IsInstant) (hother : ¬ t.PlainYear) :
    ofText t.text = .error .tooLong := by
  have hstrict : ∃ e, readStrict t.text.toList = .error e := by
    rw [text_toList, yearText_sign hother, List.cons_append]
    refine readStrict_sign ?_ _
    split <;> rfl
  obtain ⟨e, he⟩ := hstrict
  unfold ofText
  rw [he]
  exact h.readLenient_text hother

/-- An instant is read back from its written form when its year has four digits, and only
    then. -/
theorem IsInstant.ofText_text_iff (h : t.IsInstant) : ofText t.text = .ok t ↔ t.PlainYear := by
  constructor
  · intro hread
    by_contra hother
    rw [h.ofText_text_other hother] at hread
    cases hread
  · intro hplain
    unfold ofText
    rw [h.readStrict_text hplain]

end whole

end CatalogDesk.Timestamp
