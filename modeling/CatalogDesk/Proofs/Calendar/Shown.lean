import CatalogDesk.Proofs.Calendar.Written
import CatalogDesk.Proofs.Table.Order

/-! # The order of time and the order of its texts

    Tables show an instant to the minute, and put instants in the order of these texts.
    `compare_shortText` says what that order is: years compare by their texts, and within a
    year the text has the order of time down to the minute, since all its numbers have two
    digits.

    So the texts mislead in two ways: within a minute they are the same, and the texts of
    years that have a sign are not in the order of the years.  `agree_iff_not_misleads` says
    that there is no other. -/

namespace CatalogDesk

/-! ## The order of time -/

instance : Ord Date :=
  ⟨compareLex (compareOn Date.year) (compareLex (compareOn Date.month) (compareOn Date.day))⟩

instance : Ord Timestamp :=
  ⟨compareLex (compareOn Timestamp.date)
    (compareLex (compareOn Timestamp.second) (compareOn Timestamp.nano))⟩

instance : Std.TransOrd Date :=
  inferInstanceAs (Std.TransCmp (compareLex _ (compareLex _ _)))

instance : Std.TransOrd Timestamp :=
  inferInstanceAs (Std.TransCmp (compareLex _ (compareLex _ _)))

instance : Std.LawfulEqOrd Date where
  compare_self := Std.ReflOrd.compare_self
  eq_of_compare {a b} h := by
    obtain ⟨year, month, day⟩ := a
    obtain ⟨year', month', day'⟩ := b
    change compareLex _ (compareLex _ _) _ _ = .eq at h
    simpa [compareLex_eq_eq, compareOn] using h

instance : Std.LawfulEqOrd Timestamp where
  compare_self := Std.ReflOrd.compare_self
  eq_of_compare {a b} h := by
    obtain ⟨date, second, nano⟩ := a
    obtain ⟨date', second', nano'⟩ := b
    change compareLex _ (compareLex _ _) _ _ = .eq at h
    simpa [compareLex_eq_eq, compareOn] using h

namespace Timestamp

/-- Numbers compare by their quotients first, and then by their remainders. -/
theorem compare_div_mod (m n p : Nat) :
    compare m n = (compare (m / p) (n / p)).then (compare (m % p) (n % p)) := by
  cases h : compare (m / p) (n / p) with
  | lt => exact Nat.compare_eq_lt.mpr (Nat.lt_of_div_lt_div (Nat.compare_eq_lt.mp h))
  | gt => exact Nat.compare_eq_gt.mpr (Nat.lt_of_div_lt_div (Nat.compare_eq_gt.mp h))
  | eq =>
    have hm := Nat.div_add_mod m p
    have hn := Nat.div_add_mod n p
    rw [Nat.compare_eq_eq] at h
    rw [h] at hm
    generalize p * (n / p) = k at hm hn
    rw [Ordering.eq_then]
    cases hrest : compare (m % p) (n % p) with
    | lt =>
      have hlt := Nat.compare_eq_lt.mp hrest
      exact Nat.compare_eq_lt.mpr (by omega)
    | gt =>
      have hlt := Nat.compare_eq_gt.mp hrest
      exact Nat.compare_eq_gt.mpr (by omega)
    | eq =>
      have heq := Nat.compare_eq_eq.mp hrest
      exact Nat.compare_eq_eq.mpr (by omega)

/-! ## Texts, character by character -/

section texts

variable {a b : List Char}

theorem compare_char_eq_lt_iff {c d : Char} : compare c d = .lt ↔ c < d := by
  change compareOfLessAndEq c d = .lt ↔ c < d
  unfold compareOfLessAndEq
  split
  · simp_all
  · split <;> simp_all

theorem compare_chars_eq_lt_iff {a b : List Char} : compare a b = .lt ↔ a < b := by
  induction a generalizing b with
  | nil => cases b <;> simp
  | cons c a ih =>
    cases b with
    | nil => simp
    | cons d b =>
      rw [List.compare_cons_cons, Ordering.then_eq_lt, ih, compare_char_eq_lt_iff,
        Std.LawfulEqOrd.compare_eq_iff_eq, List.cons_lt_cons_iff]

/-- Texts compare as the lists of their characters. -/
theorem compare_toList (s t : String) : compare s t = compare s.toList t.toList := by
  change compareOfLessAndEq s t = compare s.toList t.toList
  unfold compareOfLessAndEq
  split
  · rename_i hlt
    exact (compare_chars_eq_lt_iff.mpr hlt).symm
  · rename_i hge
    split
    · rename_i heq
      rw [heq, Std.ReflOrd.compare_self]
    · rename_i hne
      cases hcompare : compare s.toList t.toList with
      | lt => exact absurd (compare_chars_eq_lt_iff.mp hcompare) hge
      | eq =>
        rw [Std.LawfulEqOrd.compare_eq_iff_eq] at hcompare
        exact absurd (String.toList_inj.mp hcompare) hne
      | gt => rfl

/-- Texts that start with as many characters compare by these first. -/
theorem compare_append_of_length (h : a.length = b.length) (x y : List Char) :
    compare (a ++ x) (b ++ y) = (compare a b).then (compare x y) := by
  induction a generalizing b with
  | nil =>
    cases b with
    | nil => rfl
    | cons d b => simp at h
  | cons c a ih =>
    cases b with
    | nil => simp at h
    | cons d b =>
      have hrest : a.length = b.length := by simpa using h
      rw [List.cons_append, List.cons_append, List.compare_cons_cons, List.compare_cons_cons,
        ih hrest, Ordering.then_assoc]

/-- Numbers compare first by their digits if what ends them is smaller than any digit. -/
theorem Digits.compare_append (ha : Digits a) (hb : Digits b) {c : Char} (hc : c < '0')
    (x y : List Char) :
    compare (a ++ c :: x) (b ++ c :: y) = (compare a b).then (compare x y) := by
  have hless {d : Char} (hd : d.isDigit = true) : compare c d = .lt := by
    simp only [Char.isDigit, Bool.and_eq_true, decide_eq_true_eq] at hd
    exact compare_char_eq_lt_iff.mpr (UInt32.lt_of_lt_of_le hc hd.1)
  induction a generalizing b with
  | nil =>
    cases b with
    | nil => simp [List.compare_cons_cons]
    | cons d b =>
      have hd := hless (hb d List.mem_cons_self)
      simp [List.compare_cons_cons, hd]
  | cons d a ih =>
    have hd := hless (ha d List.mem_cons_self)
    cases b with
    | nil =>
      have hd' : compare d c = .gt := by
        rw [Std.OrientedOrd.eq_swap (a := d) (b := c), hd]
        rfl
      simp [List.compare_cons_cons, hd']
    | cons e b =>
      have ha' : Digits a := fun d hd => ha d (List.mem_cons_of_mem _ hd)
      have hb' : Digits b := fun e he => hb e (List.mem_cons_of_mem _ he)
      rw [List.cons_append, List.cons_append, List.compare_cons_cons, List.compare_cons_cons,
        ih ha' hb', Ordering.then_assoc]

theorem digitsValue_cons (c : Char) (ds : List Char) :
    digitsValue (c :: ds) = 10 ^ ds.length * (c.toNat - '0'.toNat) + digitsValue ds := by
  rw [digitsValue_eq_ofDigitChars, digitsValue_eq_ofDigitChars,
    ← Nat.ofDigitChars_eq_ofDigitChars_zero]
  simp [Nat.ofDigitChars]

theorem compare_digit {c d : Char} (hc : c.isDigit = true) (hd : d.isDigit = true) :
    compare c d = compare (c.toNat - '0'.toNat) (d.toNat - '0'.toNat) := by
  have hzero {e : Char} (he : e.isDigit = true) : '0'.toNat ≤ e.toNat := by
    simp only [Char.isDigit, Bool.and_eq_true, decide_eq_true_eq] at he
    exact he.1
  have hless {e f : Char} (he : e.isDigit = true) (hlt : e < f) :
      e.toNat - '0'.toNat < f.toNat - '0'.toNat :=
    Nat.sub_lt_sub_right (hzero he) hlt
  cases h : compare c d with
  | lt => exact (Nat.compare_eq_lt.mpr (hless hc (compare_char_eq_lt_iff.mp h))).symm
  | eq => rw [Std.LawfulEqOrd.compare_eq_iff_eq.mp h, Std.ReflOrd.compare_self]
  | gt =>
    have hlt : d < c := compare_char_eq_lt_iff.mp (Std.OrientedCmp.lt_of_gt h)
    exact (Nat.compare_eq_gt.mpr (hless hd hlt)).symm

/-- Numbers of as many digits compare as their digits do. -/
theorem Digits.compare_eq (ha : Digits a) (hb : Digits b) (h : a.length = b.length) :
    compare a b = compare (digitsValue a) (digitsValue b) := by
  induction a generalizing b with
  | nil =>
    cases b with
    | nil => rfl
    | cons d b => simp at h
  | cons c a ih =>
    cases b with
    | nil => simp at h
    | cons d b =>
      have ha' : Digits a := fun c hc => ha c (List.mem_cons_of_mem _ hc)
      have hb' : Digits b := fun d hd => hb d (List.mem_cons_of_mem _ hd)
      have hrest : a.length = b.length := by simpa using h
      have hsmall := ha'.digitsValue_lt
      have hsmall' := hb'.digitsValue_lt
      have hfirst : compare c d = compare (c.toNat - '0'.toNat) (d.toNat - '0'.toNat) :=
        compare_digit (ha c List.mem_cons_self) (hb d List.mem_cons_self)
      rw [hrest] at hsmall
      rw [List.compare_cons_cons, hfirst, ih ha' hb' hrest, digitsValue_cons, digitsValue_cons,
        hrest, compare_div_mod (_ + _) _ (10 ^ b.length)]
      simp only [Nat.mul_add_div (Nat.pow_pos (Nat.succ_pos 9)), Nat.mul_add_mod,
        Nat.div_eq_of_lt hsmall, Nat.div_eq_of_lt hsmall', Nat.mod_eq_of_lt hsmall,
        Nat.mod_eq_of_lt hsmall', Nat.add_zero]

theorem compare_padded {w m n : Nat} (hw : 0 < w) (hm : m < 10 ^ w) (hn : n < 10 ^ w) :
    compare (padded w m).toList (padded w n).toList = compare m n := by
  have hlength : (padded w m).toList.length = (padded w n).toList.length := by
    rw [length_padded hw hm, length_padded hw hn]
  rw [(digits_padded w m).compare_eq (digits_padded w n) hlength, digitsValue_padded,
    digitsValue_padded]

end texts

/-! ## Short texts -/

section shown

variable {s t : Timestamp}

/-- The order of time to the minute. -/
def compareMinutes (s t : Timestamp) : Ordering :=
  (compare s.date t.date).then (compare (s.second / 60) (t.second / 60))

theorem compareMinutes_eq_eq_iff :
    compareMinutes s t = .eq ↔ s.date = t.date ∧ s.second / 60 = t.second / 60 := by
  rw [compareMinutes, Ordering.then_eq_eq, Std.LawfulEqOrd.compare_eq_iff_eq, Nat.compare_eq_eq]

theorem compare_eq_compareMinutes (s t : Timestamp) : compare s t =
    (compareMinutes s t).then
      ((compare (s.second % 60) (t.second % 60)).then (compare s.nano t.nano)) := by
  have hsplit : compare s t = (compare s.date t.date).then
      ((compare s.second t.second).then (compare s.nano t.nano)) := rfl
  rw [hsplit, compare_div_mod s.second t.second 60, compareMinutes]
  simp only [Ordering.then_assoc]

theorem shortText_toList (t : Timestamp) : t.shortText.toList =
    (yearText t.date.year).toList ++ '-' :: ((padded 2 t.date.month).toList ++ '-' ::
      ((padded 2 t.date.day).toList ++ ' ' :: ((padded 2 (t.second / 3600)).toList ++ ':' ::
        (padded 2 (t.second / 60 % 60)).toList))) := by
  have hdash : "-".toList = ['-'] := rfl
  have hblank : " ".toList = [' '] := rfl
  have hcolon : ":".toList = [':'] := rfl
  simp only [shortText, clock, String.toList_append, hdash, hblank, hcolon,
    List.append_assoc, List.cons_append, List.nil_append]

theorem yearText_plain {year : Int} (hplain : 0 ≤ year ∧ year ≤ 9999) :
    yearText year = padded 4 year.toNat := by
  unfold yearText
  rw [if_pos (by simpa using hplain)]

/-- The text of a year is digits, of which the first may be a sign. -/
theorem exists_yearText (year : Int) :
    ∃ c ds, (yearText year).toList = c :: ds ∧ Digits ds := by
  by_cases hplain : 0 ≤ year ∧ year ≤ 9999
  · obtain ⟨c, ds, hlist, -⟩ := exists_padded_cons (w := 4) (by omega) year.toNat
    refine ⟨c, ds, yearText_plain hplain ▸ hlist, fun d hd => digits_padded 4 year.toNat d ?_⟩
    rw [hlist]
    exact List.mem_cons_of_mem c hd
  · exact ⟨_, _, yearText_sign hplain, digits_padded 4 _⟩

theorem compare_yearText_append (y z : Int) (cs ds : List Char) :
    compare ((yearText y).toList ++ '-' :: cs) ((yearText z).toList ++ '-' :: ds) =
      (compare (yearText y) (yearText z)).then (compare cs ds) := by
  obtain ⟨c, a, ha, hdigits⟩ := exists_yearText y
  obtain ⟨d, b, hb, hdigits'⟩ := exists_yearText z
  have hdash : '-' < '0' := by decide
  rw [compare_toList, ha, hb, List.cons_append, List.cons_append, List.compare_cons_cons,
    List.compare_cons_cons, hdigits.compare_append hdigits' hdash, Ordering.then_assoc]

/-- Numbers of two digits compare first, if the same character ends them. -/
theorem compare_padded_append {m n : Nat} (hm : m < 100) (hn : n < 100) (c : Char)
    (cs ds : List Char) :
    compare ((padded 2 m).toList ++ c :: cs) ((padded 2 n).toList ++ c :: ds) =
      (compare m n).then (compare cs ds) := by
  have hlength : (padded 2 m).toList.length = (padded 2 n).toList.length := by
    rw [length_padded (by omega) hm, length_padded (by omega) hn]
  rw [compare_append_of_length hlength, compare_padded (by omega) hm hn,
    List.compare_cons_cons, Std.ReflOrd.compare_self, Ordering.eq_then]

/-- Short texts compare by the texts of the years first, and within a year by the time to the
    minute. -/
theorem IsInstant.compare_shortText (hs : s.IsInstant) (ht : t.IsInstant) :
    compare s.shortText t.shortText =
      (compare (yearText s.date.year) (yearText t.date.year)).then
        (((compare s.date.month t.date.month).then (compare s.date.day t.date.day)).then
          (compare (s.second / 60) (t.second / 60))) := by
  obtain ⟨⟨-, hmonth⟩, ⟨-, hday⟩, hhour, hminute, -⟩ := hs.fields
  obtain ⟨⟨-, hmonth'⟩, ⟨-, hday'⟩, hhour', hminute', -⟩ := ht.fields
  have hhours (u : Timestamp) : u.second / 60 / 60 = u.second / 3600 := by omega
  rw [compare_toList, shortText_toList, shortText_toList, compare_yearText_append,
    compare_padded_append (by omega) (by omega), compare_padded_append (by omega) (by omega),
    compare_padded_append (by omega) (by omega), compare_padded (by omega) (by omega) (by omega),
    compare_div_mod (s.second / 60) _ 60, hhours, hhours]
  simp only [Ordering.then_assoc]

/-- Different years have different texts. -/
theorem yearText_injective {y z : Int} (h : yearText y = yearText z) : y = z := by
  have hdigit (n : Nat) (c : Char) (ds : List Char) (hlist : (padded 4 n).toList = c :: ds) :
      c.isDigit = true := digits_padded 4 n c (hlist ▸ List.mem_cons_self)
  have hvalue {m n : Nat} (hlist : (padded 4 m).toList = (padded 4 n).toList) : m = n := by
    rw [← digitsValue_padded 4 m, hlist, digitsValue_padded]
  replace h := congrArg String.toList h
  by_cases hy : 0 ≤ y ∧ y ≤ 9999
  · rw [yearText_plain hy] at h
    by_cases hz : 0 ≤ z ∧ z ≤ 9999
    · rw [yearText_plain hz] at h
      have := hvalue h
      omega
    · rw [yearText_sign hz] at h
      have hsign := hdigit _ _ _ h
      split at hsign <;> cases hsign
  · rw [yearText_sign hy] at h
    by_cases hz : 0 ≤ z ∧ z ≤ 9999
    · rw [yearText_plain hz] at h
      have hsign := hdigit _ _ _ h.symm
      split at hsign <;> cases hsign
    · rw [yearText_sign hz] at h
      obtain ⟨hsign, hdigits⟩ := List.cons.inj h
      have hnumber := hvalue hdigits
      have hbelow : y < 0 ↔ z < 0 := by
        split_ifs at hsign with hy' hz' hz'
        · exact iff_of_true hy' hz'
        · exact absurd hsign (by decide)
        · exact absurd hsign (by decide)
        · exact iff_of_false hy' hz'
      omega

theorem compare_yearText_eq_eq_iff {y z : Int} :
    compare (yearText y) (yearText z) = .eq ↔ y = z := by
  rw [Std.LawfulEqOrd.compare_eq_iff_eq]
  exact ⟨yearText_injective, congrArg yearText⟩

/-- No text comes before that of an instant. -/
theorem compare_empty_shortText (t : Timestamp) : compare "" t.shortText = .lt := by
  obtain ⟨c, ds, hyear, -⟩ := exists_yearText t.date.year
  rw [compare_toList, shortText_toList, hyear]
  rfl

/-- Years of four digits are in the order of their texts. -/
theorem compare_yearText_of_plain {y z : Int} (hy : 0 ≤ y ∧ y ≤ 9999) (hz : 0 ≤ z ∧ z ≤ 9999) :
    compare (yearText y) (yearText z) = compare y z := by
  obtain ⟨m, rfl⟩ := Int.eq_ofNat_of_zero_le hy.1
  obtain ⟨n, rfl⟩ := Int.eq_ofNat_of_zero_le hz.1
  rw [compare_toList, yearText_plain hy, yearText_plain hz, Table.compare_natCast]
  exact compare_padded (by omega) (by omega) (by omega)

/-! ## Where the texts mislead -/

/-- Of two instants that stand in this order, the texts are in the order of a sort in the
    direction and the instants are not, or the other way about. -/
def Misleads (d : SortDirection) (s t : Timestamp) : Prop :=
  (s.date = t.date ∧ s.second / 60 = t.second / 60 ∧ d.orient (compare s t) = .gt) ∨
    compare (yearText s.date.year) (yearText t.date.year) ≠ compare s.date.year t.date.year

/-- In years of four digits only a minute misleads. -/
theorem misleads_iff_of_plain (hs : s.PlainYear) (ht : t.PlainYear) (d : SortDirection) :
    Misleads d s t ↔
      s.date = t.date ∧ s.second / 60 = t.second / 60 ∧ d.orient (compare s t) = .gt :=
  or_iff_left (not_not.mpr (compare_yearText_of_plain hs ht))

theorem orient_eq_gt_iff_iff {o o' : Ordering} (h : o ≠ .eq) (h' : o' ≠ .eq) (d : SortDirection) :
    (d.orient o = .gt ↔ d.orient o' = .gt) ↔ o = o' := by
  cases d <;> cases o <;> cases o' <;> simp_all [SortDirection.orient]

theorem IsInstant.agree_iff_not_misleads (hs : s.IsInstant) (ht : t.IsInstant)
    (d : SortDirection) :
    (d.orient (compare s.shortText t.shortText) = .gt ↔ d.orient (compare s t) = .gt) ↔
      ¬ Misleads d s t := by
  have htext := hs.compare_shortText ht
  have hdates : compare s.date t.date = (compare s.date.year t.date.year).then
      ((compare s.date.month t.date.month).then (compare s.date.day t.date.day)) := rfl
  have horder := compare_eq_compareMinutes s t
  by_cases hyear : s.date.year = t.date.year
  · -- the texts go by the minute
    have hminutes : compare s.shortText t.shortText = compareMinutes s t := by
      rw [htext, compareMinutes, hdates, hyear, Std.ReflOrd.compare_self,
        Std.ReflOrd.compare_self, Ordering.eq_then, Ordering.eq_then]
    have hyears : ¬ compare (yearText s.date.year) (yearText t.date.year) ≠
        compare s.date.year t.date.year := by
      simp [hyear]
    rw [hminutes, Misleads, or_iff_left hyears, ← and_assoc, ← compareMinutes_eq_eq_iff]
    cases hminute : compareMinutes s t with
    | eq => cases d <;> simp [SortDirection.orient]
    | lt => simp [horder, hminute]
    | gt => simp [horder, hminute]
  · -- the years decide, both of the texts and of the instants
    have hyears : compare s.date.year t.date.year ≠ .eq := by
      simpa using hyear
    have hyears' : compare (yearText s.date.year) (yearText t.date.year) ≠ .eq := by
      rwa [Ne, compare_yearText_eq_eq_iff]
    have hdate : s.date ≠ t.date := fun h => hyear (congrArg Date.year h)
    have hfirst {o : Ordering} (h : o ≠ .eq) (o' : Ordering) : o.then o' = o := by
      cases o with
      | eq => exact absurd rfl h
      | _ => rfl
    rw [htext, horder, compareMinutes, hdates, Misleads, or_iff_right (fun h => hdate h.1), not_not]
    simp only [Ordering.then_assoc, hfirst hyears, hfirst hyears']
    exact orient_eq_gt_iff_iff hyears' hyears d

end shown

end Timestamp

end CatalogDesk
