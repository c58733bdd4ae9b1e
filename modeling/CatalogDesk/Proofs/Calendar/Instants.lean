import CatalogDesk.Proofs.Calendar.Digits
import Mathlib.Tactic.Ring

/-! # What reading gives is an instant

    A `Timestamp` record holds any numbers; an instant is a day that there is, a second of
    that day, and a fraction that reaches into a leap second only at the end of a minute
    (`Timestamp.IsInstant`).  Both readers give instants only (`isInstant_of_ofText`).  The
    strict one has to move by its offset for that, which may end in the day before or the
    day after, and so in another year. -/

namespace CatalogDesk

/-! ## Days -/

namespace Date
variable {d : Date}

theorem isValid_iff : d.isValid = true ↔
    (minYear ≤ d.year ∧ d.year ≤ maxYear) ∧ (1 ≤ d.month ∧ d.month ≤ 12) ∧
      1 ≤ d.day ∧ d.day ≤ daysInMonth d.year d.month := by
  unfold isValid
  simp only [Bool.and_eq_true, decide_eq_true_eq, and_assoc]

theorem daysInMonth_bounds (year : Int) (month : Nat) :
    28 ≤ daysInMonth year month ∧ daysInMonth year month ≤ 31 := by
  unfold daysInMonth
  repeat' split
  all_goals omega

/-- The day after is a day, before the end of the calendar. -/
theorem isValid_next (h : d.isValid = true) (hyear : d.year < maxYear) :
    d.next.isValid = true := by
  obtain ⟨⟨hmin, hmax⟩, ⟨hmonth, hmonth'⟩, hday, hday'⟩ := isValid_iff.mp h
  unfold next
  rw [isValid_iff]
  by_cases hinside : d.day < daysInMonth d.year d.month
  · rw [if_pos hinside]
    exact ⟨⟨hmin, hmax⟩, ⟨hmonth, hmonth'⟩, by simp, hinside⟩
  · rw [if_neg hinside]
    by_cases hlast : d.month < 12
    · rw [if_pos hlast]
      have hdays := (daysInMonth_bounds d.year (d.month + 1)).1
      exact ⟨⟨hmin, hmax⟩, ⟨by simp, hlast⟩, Nat.le_refl 1, by dsimp only; omega⟩
    · rw [if_neg hlast]
      have hdays := (daysInMonth_bounds (d.year + 1) 1).1
      exact ⟨⟨by dsimp only; omega, hyear⟩, by simp, Nat.le_refl 1, by dsimp only; omega⟩

/-- The day before is a day, after the start of the calendar. -/
theorem isValid_prev (h : d.isValid = true) (hyear : minYear < d.year) :
    d.prev.isValid = true := by
  obtain ⟨⟨hmin, hmax⟩, ⟨hmonth, hmonth'⟩, hday, hday'⟩ := isValid_iff.mp h
  unfold prev
  rw [isValid_iff]
  by_cases hinside : 1 < d.day
  · rw [if_pos hinside]
    exact ⟨⟨hmin, hmax⟩, ⟨hmonth, hmonth'⟩, by dsimp only; omega, by dsimp only; omega⟩
  · rw [if_neg hinside]
    by_cases hfirst : 1 < d.month
    · rw [if_pos hfirst]
      have hdays := (daysInMonth_bounds d.year (d.month - 1)).1
      exact ⟨⟨hmin, hmax⟩, ⟨by dsimp only; omega, by dsimp only; omega⟩, by dsimp only; omega,
        Nat.le_refl _⟩
    · rw [if_neg hfirst]
      exact ⟨⟨by dsimp only; omega, by dsimp only; omega⟩, by simp, by simp, Nat.le_refl 31⟩

end Date

namespace Timestamp

/-- A day that there is, a second of the day, and a leap second only after the last second
    of a minute. -/
structure IsInstant (t : Timestamp) : Prop where
  isDay : t.date.isValid = true
  second_lt : t.second < daySeconds
  nano_lt : t.nano < 2000000000
  atMinute : 1000000000 ≤ t.nano → t.second % 60 = 59

instance (t : Timestamp) : Decidable t.IsInstant :=
  decidable_of_iff (t.date.isValid = true ∧ t.second < daySeconds ∧ t.nano < 2000000000 ∧
      (1000000000 ≤ t.nano → t.second % 60 = 59))
    ⟨fun h => ⟨h.1, h.2.1, h.2.2.1, h.2.2.2⟩,
      fun h => ⟨h.isDay, h.second_lt, h.nano_lt, h.atMinute⟩⟩

/-- Is the year one that four digits show? -/
def PlainYear (t : Timestamp) : Prop := 0 ≤ t.date.year ∧ t.date.year ≤ 9999

instance (t : Timestamp) : Decidable t.PlainYear :=
  inferInstanceAs (Decidable (_ ∧ _))

/-! ## Parts of the text -/

section parts
variable {cs rest : List Char} {n : Nat}

theorem range_of_field {min low high : Nat} (h : field min low high cs = .ok (n, rest)) :
    low ≤ n ∧ n ≤ high := by
  simp only [field, bind_eq_ok_iff, Prod.exists] at h
  obtain ⟨m, cs', -, u, hrange, hsame⟩ := h
  obtain ⟨rfl, rfl⟩ := Prod.mk.inj (Except.ok.inj hsame)
  unfold inRange at hrange
  split at hrange
  · rename_i hin
    simpa only [Bool.and_eq_true, decide_eq_true_eq] using hin
  · cases hrange

/-- Whatever the count of its digits, a fraction is less than a second. -/
theorem optionalFraction_lt (h : optionalFraction cs = .ok (n, rest)) : n < 1000000000 := by
  unfold optionalFraction at h
  split at h
  · rename_i digits
    simp only [fraction, bind_eq_ok_iff, Prod.exists] at h
    obtain ⟨m, rest', hnumber, hsame⟩ := h
    obtain ⟨rfl, rfl⟩ := Prod.mk.inj (Except.ok.inj hsame)
    obtain ⟨hlt, hused⟩ := number_lt_pow hnumber
    -- the digits that were used and the zeros that are added make nine places
    generalize digits.length - rest'.length = used at hlt hused
    calc m * Nat.pow 10 (9 - used) < 10 ^ used * 10 ^ (9 - used) :=
          Nat.mul_lt_mul_of_pos_right hlt (Nat.pow_pos (by omega))
      _ = 10 ^ 9 := by rw [← Nat.pow_add, Nat.add_sub_cancel' hused]
      _ = 1000000000 := by norm_num
  · obtain ⟨rfl, rfl⟩ := Prod.mk.inj (Except.ok.inj h)
    omega

/-- An offset is a whole count of minutes. -/
theorem minutes_of_offset {east : Int} (h : offset cs = .ok (east, rest)) :
    ∃ minutes : Int, east = 60 * minutes := by
  unfold offset at h
  split at h
  · cases h
  · rename_i c cs'
    split at h
    · obtain ⟨rfl, rfl⟩ := Prod.mk.inj (Except.ok.inj h)
      exact ⟨0, rfl⟩
    · split at h
      · simp only [bind_eq_ok_iff, Prod.exists] at h
        obtain ⟨hours, _, -, _, _, -, minutes, _, -, hlast⟩ := h
        split at hlast
        · cases hlast
        · obtain ⟨heast, -⟩ := Prod.mk.inj (Except.ok.inj hlast)
          split at heast
          · exact ⟨hours * 60 + minutes, by rw [← heast]; push_cast; ring⟩
          · exact ⟨-(hours * 60 + minutes), by rw [← heast]; push_cast; ring⟩
      · cases h

end parts

/-! ## Whole texts -/

section whole
variable {year east : Int} {month day hour minute second nano s n : Nat} {date : Date}
  {t : Timestamp}

/-- What fields in their ranges denote is an instant, of the year that was read. -/
theorem isInstant_of_assemble (hhour : hour ≤ 23) (hminute : minute ≤ 59)
    (hsecond : second ≤ 60) (hnano : nano < 1000000000)
    (h : assemble year month day hour minute second nano = .ok (date, s, n)) :
    IsInstant ⟨date, s, n⟩ ∧ date.year = year := by
  unfold assemble at h
  dsimp only at h
  split at h
  · rename_i hday
    split at h
    · -- second 60 becomes the leap second after second 59
      obtain ⟨rfl, rfl, rfl⟩ := by simpa only [Except.ok.injEq, Prod.mk.injEq] using h
      refine ⟨⟨hday, ?_, by dsimp only; omega, fun _ => by dsimp only; omega⟩, rfl⟩
      dsimp only [daySeconds]
      omega
    · obtain ⟨rfl, rfl, rfl⟩ := by simpa only [Except.ok.injEq, Prod.mk.injEq] using h
      refine ⟨⟨hday, ?_, by dsimp only; omega, fun hleap => ?_⟩, rfl⟩
      · dsimp only [daySeconds]
        omega
      · dsimp only at hleap
        omega
  · cases h

/-- A local time within a day of UTC is an instant, if it is not at either end of the
    calendar: minutes stay minutes, and the date moves by one day at most. -/
theorem isInstant_ofLocal (h : IsInstant ⟨date, s, n⟩) {minutes : Int}
    (hoffset : (60 * minutes).natAbs < daySeconds)
    (hmin : Date.minYear < date.year) (hmax : date.year < Date.maxYear) :
    IsInstant (ofLocal date s n (60 * minutes)) := by
  obtain ⟨hday, hsecond, hnano, hleap⟩ := h
  dsimp only at hday hsecond hnano hleap
  unfold ofLocal daySeconds at *
  dsimp only
  split
  · exact ⟨Date.isValid_prev hday hmin, by dsimp only [daySeconds]; omega, hnano,
      fun hn => by have := hleap hn; dsimp only; omega⟩
  · split
    · exact ⟨hday, by dsimp only [daySeconds]; omega, hnano,
        fun hn => by have := hleap hn; dsimp only; omega⟩
    · exact ⟨Date.isValid_next hday hmax, by dsimp only [daySeconds]; omega, hnano,
        fun hn => by have := hleap hn; dsimp only; omega⟩

/-- The strict form has a year of four digits, far from the ends of the calendar. -/
theorem isInstant_of_readStrict {cs : List Char} (h : readStrict cs = .ok t) : t.IsInstant := by
  simp only [readStrict, bind_eq_ok_iff, Prod.exists] at h
  obtain ⟨year, _, hyear, _, _, -, month, _, -, _, _, -, day, _, -, _, _, -, hour, _, hhour,
    _, _, -, minute, _, hminute, _, _, -, second, _, hsecond, nano, _, hnano, east, rest,
    heast, hlast⟩ := h
  split at hlast
  · cases hlast
  · rename_i hwithin
    split at hlast
    · cases hlast
    · simp only [bind_eq_ok_iff, Prod.exists] at hlast
      obtain ⟨date, s, n, hassemble, hsame⟩ := hlast
      obtain ⟨hinstant, hdate⟩ := isInstant_of_assemble (range_of_field hhour).2
        (range_of_field hminute).2 (range_of_field hsecond).2 (optionalFraction_lt hnano)
        hassemble
      -- moving by a day may leave the years of four digits, but not the calendar
      have hfour : year < 10 ^ 4 := by
        obtain ⟨hlt, hused⟩ := number_lt_pow hyear
        exact Nat.lt_of_lt_of_le hlt (Nat.pow_le_pow_right (by omega) hused)
      obtain ⟨minutes, rfl⟩ := minutes_of_offset heast
      have hday : (60 * minutes).natAbs < daySeconds := by
        unfold maxOffset at hwithin
        unfold daySeconds
        omega
      rw [← Except.ok.inj hsame]
      exact isInstant_ofLocal hinstant hday (by unfold Date.minYear; omega)
        (by unfold Date.maxYear; omega)

theorem isInstant_of_readLenient {cs : List Char} (h : readLenient cs = .ok t) :
    t.IsInstant := by
  simp only [readLenient, lenientField, bind_eq_ok_iff, Prod.exists] at h
  obtain ⟨year, _, -, _, _, -, month, _, -, _, _, -, day, _, -, _, _, -, hour, _, hhour,
    _, _, -, minute, _, hminute, _, _, -, second, _, hsecond, nano, rest, hnano, hlast⟩ := h
  split at hlast
  · cases hlast
  · simp only [bind_eq_ok_iff, Prod.exists] at hlast
    obtain ⟨date, s, n, hassemble, hsame⟩ := hlast
    rw [← Except.ok.inj hsame]
    exact (isInstant_of_assemble (range_of_field hhour).2 (range_of_field hminute).2
      (range_of_field hsecond).2 (optionalFraction_lt hnano) hassemble).1

/-- Whatever text is read, in whichever form, what comes out is an instant. -/
theorem isInstant_of_ofText {text : String} (h : ofText text = .ok t) : t.IsInstant := by
  unfold ofText at h
  split at h
  · rename_i hstrict
    rw [Except.ok.inj h] at hstrict
    exact isInstant_of_readStrict hstrict
  · exact isInstant_of_readLenient h

end whole

end Timestamp

end CatalogDesk
