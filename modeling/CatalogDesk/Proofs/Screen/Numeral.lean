import CatalogDesk.Proofs.Screen.Zipper

/-! # What is typed into a numeric field

    A *numeral* is a minus sign in front, if there is one, and then figures with at most one
    point among them.  What is left of a numeral is one (`IsNumeral.sublist`), so only a
    character that is taken can spoil it; and of those a figure or a point does, if it is put in
    front of the sign.

    Main result: `numerals_iff_none_overtakes` says that a numeric field shows numerals all along
    a run of keys if and only if none of the keys puts a character in front of the sign. -/

namespace CatalogDesk

/-! ## Numerals -/

namespace Text

/-- What comes after the minus sign in front, if there is one. -/
def unsigned : List Char → List Char
  | '-' :: cs => cs
  | cs => cs

def IsFigure (c : Char) : Prop := '0' ≤ c ∧ c ≤ '9'

instance : DecidablePred IsFigure := fun _ => inferInstanceAs (Decidable (_ ∧ _))

/-- A minus sign in front, if there is one, then figures with at most one point among them. -/
def IsNumeral (cs : List Char) : Prop :=
  (∀ c ∈ unsigned cs, IsFigure c ∨ c = '.') ∧ (unsigned cs).count '.' ≤ 1

instance : DecidablePred IsNumeral := fun cs =>
  letI := List.decidableBAll (fun c => IsFigure c ∨ c = '.') (unsigned cs)
  inferInstanceAs (Decidable (_ ∧ _))

variable {c : Char} {cs ds : List Char}

theorem unsigned_of_head? (h : cs.head? ≠ some '-') : unsigned cs = cs := by
  unfold unsigned
  split
  · exact absurd rfl h
  · rfl

theorem unsigned_sublist (cs : List Char) : (unsigned cs).Sublist cs := by
  unfold unsigned
  split
  · exact List.sublist_cons_self _ _
  · exact List.Sublist.refl _

theorem unsigned_sublist_unsigned (h : ds.Sublist cs) : (unsigned ds).Sublist (unsigned cs) := by
  by_cases hsign : cs.head? = some '-'
  · obtain ⟨rest, rfl⟩ := List.head?_eq_some_iff.mp hsign
    -- the sign is either left out or kept in front
    rcases List.sublist_cons_iff.mp h with hrest | ⟨kept, rfl, hkept⟩
    · exact (unsigned_sublist ds).trans hrest
    · exact hkept
  · rw [unsigned_of_head? hsign]
    exact (unsigned_sublist ds).trans h

/-- A character that is not put in front of the sign is one more after it. -/
theorem unsigned_insert (hminus : c ≠ '-') (hplace : cs = [] → ds.head? ≠ some '-') :
    (unsigned (cs ++ c :: ds)).Perm (c :: unsigned (cs ++ ds)) := by
  cases cs with
  | nil =>
    have hfront : (c :: ds).head? ≠ some '-' := fun h => hminus (Option.some.inj h)
    rw [List.nil_append, List.nil_append, unsigned_of_head? hfront,
      unsigned_of_head? (hplace rfl)]
  | cons d cs =>
    by_cases hd : d = '-'
    · subst hd
      exact List.perm_middle
    · have hfront (es : List Char) : ((d :: cs) ++ es).head? ≠ some '-' :=
        fun h => hd (Option.some.inj h)
      rw [unsigned_of_head? (hfront _), unsigned_of_head? (hfront _)]
      exact List.perm_middle

theorem IsFigure.ne (h : IsFigure c) : c ≠ '.' ∧ c ≠ '-' := by
  constructor
  · rintro rfl
    exact absurd h (by decide)
  · rintro rfl
    exact absurd h (by decide)

namespace IsNumeral

theorem nil : IsNumeral [] := ⟨nofun, Nat.zero_le 1⟩

theorem sublist (h : IsNumeral cs) (hsub : ds.Sublist cs) : IsNumeral ds := by
  have hunsigned := unsigned_sublist_unsigned hsub
  exact ⟨fun c hc => h.1 c (hunsigned.subset hc), Nat.le_trans (hunsigned.count_le '.') h.2⟩

theorem insert_figure (h : IsNumeral (cs ++ ds)) (hc : IsFigure c)
    (hplace : cs = [] → ds.head? ≠ some '-') : IsNumeral (cs ++ c :: ds) := by
  have hperm := unsigned_insert hc.ne.2 hplace
  constructor
  · intro d hd
    rcases List.mem_cons.mp (hperm.mem_iff.mp hd) with rfl | hd
    · exact .inl hc
    · exact h.1 d hd
  · rw [hperm.count_eq, List.count_cons_of_ne hc.ne.1]
    exact h.2

theorem insert_point (h : IsNumeral (cs ++ ds)) (hnone : '.' ∉ cs ++ ds)
    (hplace : cs = [] → ds.head? ≠ some '-') : IsNumeral (cs ++ '.' :: ds) := by
  have hperm := unsigned_insert (by decide : '.' ≠ '-') hplace
  have hnone' : '.' ∉ unsigned (cs ++ ds) := fun hp => hnone ((unsigned_sublist _).subset hp)
  constructor
  · intro d hd
    rcases List.mem_cons.mp (hperm.mem_iff.mp hd) with rfl | hd
    · exact .inr rfl
    · exact h.1 d hd
  · have hcount := hperm.count_eq '.'
    rw [List.count_cons_self, List.count_eq_zero_of_not_mem hnone'] at hcount
    exact Nat.le_of_eq hcount

theorem minus (h : IsNumeral cs) (hsign : cs.head? ≠ some '-') : IsNumeral ('-' :: cs) := by
  rw [IsNumeral, unsigned_of_head? hsign] at h
  exact h

end IsNumeral

/-- Nothing stands in front of the sign of a numeral. -/
theorem not_isNumeral_cons (hminus : c ≠ '-') (hsign : cs.head? = some '-') :
    ¬ IsNumeral (c :: cs) := by
  intro h
  have hfront : (c :: cs).head? ≠ some '-' := fun hc => hminus (Option.some.inj hc)
  rw [IsNumeral, unsigned_of_head? hfront] at h
  have hmem : '-' ∈ c :: cs := List.mem_cons_of_mem _ (List.mem_of_mem_head? hsign)
  exact absurd (h.1 '-' hmem) (by decide)

end Text

/-! ## Zippers -/

namespace Zipper

variable {z : Zipper} {c : Char}

/-- Is the cursor in front of a minus sign that begins the text? -/
def BeforeSign (z : Zipper) : Prop := z.before = [] ∧ z.after.head? = some '-'

theorem takes_iff :
    z.takes true c = true ↔ Text.IsFigure c ∨ (c = '.' ∧ '.' ∉ z.chars) ∨
      (c = '-' ∧ z.before = [] ∧ z.after.head? ≠ some '-') := by
  have hfigure : ('0' ≤ c && c ≤ '9') = true ↔ Text.IsFigure c := by
    rw [Bool.and_eq_true, decide_eq_true_iff, decide_eq_true_iff, Text.IsFigure]
  unfold takes
  by_cases hc : Text.IsFigure c
  · simp [hc, hfigure.mpr hc]
  · have hne : ('0' ≤ c && c ≤ '9') = false := Bool.eq_false_iff.mpr (mt hfigure.mp hc)
    by_cases hpoint : c = '.'
    · subst hpoint
      simp [hc]
    · by_cases hminus : c = '-'
      · subst hminus
        simp [hc]
      · simp [hc, hne, hpoint, hminus]

/-- A character that is taken leaves a numeral, if it is not put in front of the sign. -/
theorem isNumeral_insert_iff (h : Text.IsNumeral z.chars) (htakes : z.takes true c = true) :
    Text.IsNumeral (z.insert c).chars ↔ ¬ z.BeforeSign := by
  have hchars : (z.insert c).chars = z.before.reverse ++ c :: z.after := by
    simp [chars, insert]
  rw [hchars]
  constructor
  · rintro hnumeral ⟨hbefore, hsign⟩
    rw [hbefore, List.reverse_nil, List.nil_append] at hnumeral
    -- a second sign is not taken there, so the character is none
    have hminus : c ≠ '-' := by
      rintro rfl
      rcases takes_iff.mp htakes with hfigure | ⟨hpoint, -⟩ | ⟨-, -, hnone⟩
      · exact hfigure.ne.2 rfl
      · exact absurd hpoint (by decide)
      · exact hnone hsign
    exact Text.not_isNumeral_cons hminus hsign hnumeral
  · intro hbehind
    have hplace : z.before.reverse = [] → z.after.head? ≠ some '-' :=
      fun hbefore hsign => hbehind ⟨List.reverse_eq_nil_iff.mp hbefore, hsign⟩
    rcases takes_iff.mp htakes with hfigure | ⟨rfl, hnone⟩ | ⟨rfl, hbefore, hsign⟩
    · exact h.insert_figure hfigure hplace
    · exact h.insert_point hnone hplace
    · rw [chars, hbefore, List.reverse_nil, List.nil_append] at h
      rw [hbefore, List.reverse_nil, List.nil_append]
      exact h.minus hsign

/-- Keys that type no character take at most some away. -/
theorem chars_steer (code : KeyCode) : (z.steer code).chars.Sublist z.chars := by
  have hmove {y : Zipper} (h : y.chars = z.chars) : y.chars.Sublist z.chars :=
    h ▸ List.Sublist.refl _
  cases code with
  | backspace =>
    exact ((List.tail_sublist _).reverse).append (List.Sublist.refl _)
  | delete => exact (List.Sublist.refl _).append (List.tail_sublist _)
  | left => exact hmove chars_moveLeft
  | right => exact hmove chars_moveRight
  | toEnd => exact hmove chars_moveEnd
  | _ => exact List.Sublist.refl _

/-- Does the key put a character in front of the sign? -/
def Overtakes (z : Zipper) (k : Key) : Prop :=
  ∃ c, k.typed? = some c ∧ z.takes true c = true ∧ z.BeforeSign

/-- **Step lemma.** A key leaves a numeral if and only if it puts nothing in front of the
    sign. -/
theorem isNumeral_press_iff (h : Text.IsNumeral z.chars) (k : Key) :
    Text.IsNumeral (z.press true k).chars ↔ ¬ z.Overtakes k := by
  have hnone (hk : k.typed? = none) : ¬ z.Overtakes k := by
    rintro ⟨c, hc, -⟩
    rw [hk] at hc
    cases hc
  cases hcode : k.code with
  | char c =>
    simp only [press, hcode]
    split
    · rename_i hclear
      -- a key that clears the text has control held down, and so types nothing
      have hcontrol : k.control = true := by
        rw [Key.isControl, Bool.and_eq_true] at hclear
        exact hclear.1
      have hk : k.typed? = none := by
        simp [Key.typed?, hcode, hcontrol]
      exact iff_of_true Text.IsNumeral.nil (hnone hk)
    · split
      · rename_i hheld
        have hk : k.typed? = none := by
          rw [Key.typed?, hcode]
          exact if_pos hheld
        exact iff_of_true h (hnone hk)
      · rename_i hheld
        have hk : k.typed? = some c := by
          rw [Key.typed?, hcode]
          exact if_neg hheld
        unfold type
        split
        · rename_i htakes
          rw [isNumeral_insert_iff h htakes]
          refine not_congr ⟨fun hplace => ⟨c, hk, htakes, hplace⟩, ?_⟩
          rintro ⟨_, -, -, hplace⟩
          exact hplace
        · rename_i htakes
          refine iff_of_true h ?_
          rintro ⟨d, hd, hd', -⟩
          rw [hk] at hd
          cases hd
          exact htakes hd'
  | _ =>
    have hk : k.typed? = none := by rw [Key.typed?, hcode]
    simp only [press, hcode]
    exact iff_of_true (h.sublist (chars_steer _)) (hnone hk)

end Zipper

/-! ## Fields -/

namespace TextField

def pressAll (f : TextField) (keys : List Key) : TextField :=
  f.after (keys.map .press)

/-- Does the key put a character in front of the minus sign that begins the text? -/
def Overtakes (f : TextField) (k : Key) : Prop :=
  ∃ c, k.typed? = some c ∧ f.accepts c = true ∧ f.cursor = 0 ∧ f.value.toList.head? = some '-'

variable {f : TextField} {z : Zipper}

theorem Holds.overtakes_iff (h : f.Holds true z) (k : Key) : f.Overtakes k ↔ z.Overtakes k := by
  have hplace : (f.cursor = 0 ∧ f.value.toList.head? = some '-') ↔ z.BeforeSign := by
    rw [h.cursor, h.toList_value, Zipper.BeforeSign, Zipper.chars, List.length_eq_zero_iff]
    refine and_congr_right fun hbefore => ?_
    rw [hbefore, List.reverse_nil, List.nil_append]
  unfold Overtakes Zipper.Overtakes
  simp only [h.accepts, hplace]

/-- **Run lemma**, from any numeric field that shows a numeral. -/
theorem Holds.numerals_iff (h : f.Holds true z) (hnumeral : Text.IsNumeral z.chars)
    (keys : List Key) :
    (∀ typed, typed <+: keys → Text.IsNumeral (f.pressAll typed).value.toList) ↔
      ∀ typed k, typed ++ [k] <+: keys → ¬ (f.pressAll typed).Overtakes k := by
  have hshown : Text.IsNumeral f.value.toList := by
    rw [h.toList_value]
    exact hnumeral
  induction keys generalizing f z with
  | nil =>
    constructor
    · intro _ typed k hprefix
      have hnil := List.prefix_nil.mp hprefix
      exact absurd hnil (List.concat_ne_nil k typed)
    · intro _ typed hprefix
      rw [List.prefix_nil.mp hprefix]
      exact hshown
  | cons k keys ih =>
    have hnext : (f.press k).2.Holds true (z.press true k) := h.press k
    have hstep : Text.IsNumeral (z.press true k).chars ↔ ¬ f.Overtakes k := by
      rw [h.overtakes_iff]
      exact Zipper.isNumeral_press_iff hnumeral k
    have hafter : Text.IsNumeral (f.press k).2.value.toList ↔ ¬ f.Overtakes k := by
      rw [hnext.toList_value]
      exact hstep
    -- the first key leaves a numeral either way, and that carries the rest of the run
    constructor
    · intro hall typed k' hprefix
      have hfirst : ¬ f.Overtakes k :=
        hafter.mp (hall [k] (List.cons_prefix_cons.mpr ⟨rfl, List.nil_prefix⟩))
      cases typed with
      | nil =>
        have hk : k' = k := (List.cons_prefix_cons.mp hprefix).1
        rw [hk]
        exact hfirst
      | cons k'' typed =>
        obtain ⟨rfl, hrest⟩ := List.cons_prefix_cons.mp hprefix
        refine (ih hnext (hstep.mpr hfirst) (hafter.mpr hfirst)).mp ?_ typed k' hrest
        intro typed' htyped'
        exact hall (k'' :: typed') (List.cons_prefix_cons.mpr ⟨rfl, htyped'⟩)
    · intro hnone typed hprefix
      cases typed with
      | nil => exact hshown
      | cons k' typed =>
        obtain ⟨rfl, hrest⟩ := List.cons_prefix_cons.mp hprefix
        have hfirst : ¬ f.Overtakes k' :=
          hnone [] k' (List.cons_prefix_cons.mpr ⟨rfl, List.nil_prefix⟩)
        refine (ih hnext (hstep.mpr hfirst) (hafter.mpr hfirst)).mpr ?_ typed hrest
        intro typed' k hk
        exact hnone (k' :: typed') k (List.cons_prefix_cons.mpr ⟨rfl, hk⟩)

/-- A numeric field that was empty shows numerals all along, if and only if no key puts a
    character in front of a minus sign. -/
theorem numerals_iff_none_overtakes (label placeholder : String) (masked : Bool)
    (keys : List Key) :
    (∀ typed, typed <+: keys → Text.IsNumeral
      (pressAll { label, placeholder, masked, numeric := true } typed).value.toList) ↔
    ∀ typed k, typed ++ [k] <+: keys →
      ¬ (pressAll { label, placeholder, masked, numeric := true } typed).Overtakes k := by
  have hnew : Holds { label, placeholder, masked, numeric := true } true {} :=
    ⟨rfl, rfl, rfl, rfl⟩
  exact hnew.numerals_iff Text.IsNumeral.nil keys

/-- A minus sign is typed, and a figure in front of it. -/
theorem not_isNumeral_of_home : ¬ Text.IsNumeral (pressAll { label := "Price", numeric := true }
    [{ code := .char '-' }, { code := .home }, { code := .char '5' }]).value.toList := by
  decide

end TextField

end CatalogDesk
