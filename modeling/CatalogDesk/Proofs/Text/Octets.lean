import CatalogDesk.Text.Utf8

/-! # Octets of texts

    The octets of a text stand for this text again (`decode_encodeChars`).  A character
    has one to four octets, and the first one says how many: each case has a lemma on what
    is read from octets in the ranges of that case.

    The octets that begin a text are those of a text if and only if that text begins it
    (`encodeChars_prefix_iff`), since reading octets from the front gives the characters one by
    one.  The same holds at the end (`encodeChars_suffix_iff`), for another reason: octets are
    not read from there, but the first octet of a character is no tail and all others are
    (`encodeChar_eq_cons`), so an octet that is no tail stands where a character starts
    (`exists_split_of_not_isTail`).

    A text in two parts can be edited where they meet, and the octet where they meet is found
    by counting the characters of the first part (`octetOf_append`).  So an edit at the octet
    of a character never falls inside one: `insertAt?_append` and `removeAt?_append` say what
    comes of it. -/

namespace CatalogDesk.Text

/-- Are these the octets of a text? -/
def IsText (bs : List UInt8) : Prop := ∃ cs, encodeChars cs = bs

theorem encodeChars_cons (c : Char) (cs : List Char) :
    encodeChars (c :: cs) = encodeChar c ++ encodeChars cs := List.flatMap_cons

theorem encodeChars_append (cs ds : List Char) :
    encodeChars (cs ++ ds) = encodeChars cs ++ encodeChars ds := List.flatMap_append

/-! ## Reading octets in their ranges -/

theorem decode_one {a : UInt8} (rest : List UInt8) (ha : a.toNat < 0x80) :
    decode (a :: rest) = Char.ofNat a.toNat :: decode rest := by
  rw [decode.eq_def]
  simp [UInt8.lt_iff_toNat_lt, ha]

theorem isTail_iff (b : UInt8) : isTail b = true ↔ 0x80 ≤ b.toNat ∧ b.toNat ≤ 0xBF := by
  simp [isTail, UInt8.le_iff_toNat_le]

theorem decode_two {a b : UInt8} (rest : List UInt8) (ha : 0xC2 ≤ a.toNat) (ha' : a.toNat ≤ 0xDF)
    (hb : isTail b = true) :
    decode (a :: b :: rest) = joinBits (a.toNat - 0xC0) [b] :: decode rest := by
  have hlt : ¬ a.toNat < 0x80 := by omega
  rw [decode.eq_def]
  simp [UInt8.lt_iff_toNat_lt, UInt8.le_iff_toNat_le, hlt, ha, ha', hb]

theorem decode_three {a b c : UInt8} (rest : List UInt8) (ha : 0xE0 ≤ a.toNat)
    (ha' : a.toNat ≤ 0xEF) (hb : isSecond a b = true) (hc : isTail c = true) :
    decode (a :: b :: c :: rest) = joinBits (a.toNat - 0xE0) [b, c] :: decode rest := by
  have hlt : ¬ a.toNat < 0x80 := by omega
  have htwo : ¬ a.toNat ≤ 0xDF := by omega
  rw [decode.eq_def]
  simp [UInt8.lt_iff_toNat_lt, UInt8.le_iff_toNat_le, hlt, htwo, ha, ha', hb, hc]

theorem decode_four {a b c d : UInt8} (rest : List UInt8) (ha : 0xF0 ≤ a.toNat)
    (ha' : a.toNat ≤ 0xF4) (hb : isSecond a b = true) (hc : isTail c = true)
    (hd : isTail d = true) :
    decode (a :: b :: c :: d :: rest) = joinBits (a.toNat - 0xF0) [b, c, d] :: decode rest := by
  have hlt : ¬ a.toNat < 0x80 := by omega
  have htwo : ¬ a.toNat ≤ 0xDF := by omega
  have hthree : ¬ a.toNat ≤ 0xEF := by omega
  rw [decode.eq_def]
  simp [UInt8.lt_iff_toNat_lt, UInt8.le_iff_toNat_le, hlt, htwo, hthree, ha, ha', hb, hc, hd]

/-! ## The octets of a character -/

theorem toNat_ofNat {n : Nat} (h : n < 256) : (UInt8.ofNat n).toNat = n := by
  rw [UInt8.toNat_ofNat', Nat.mod_eq_of_lt h]

theorem isTail_ofNat (n : Nat) : isTail (.ofNat (0x80 + n % 0x40)) = true := by
  rw [isTail_iff, toNat_ofNat (by omega)]
  omega

theorem isSecond_ofNat {m n : Nat} (hm : m < 256) (hn : n < 0x40)
    (h : (m = 0xE0 → 0x20 ≤ n) ∧ (m = 0xED → n < 0x20) ∧ (m = 0xF0 → 0x10 ≤ n) ∧
      (m = 0xF4 → n < 0x10)) :
    isSecond (.ofNat m) (.ofNat (0x80 + n)) = true := by
  have ha := toNat_ofNat hm
  have hb := toNat_ofNat (n := 0x80 + n) (by omega)
  unfold isSecond isTail
  simp only [UInt8.le_iff_toNat_le, ← UInt8.toNat_inj, ha, hb, UInt8.reduceToNat]
  split
  · simp; omega
  · split
    · simp; omega
    · split
      · simp; omega
      · split <;> simp <;> omega

theorem decode_encodeChar (c : Char) (rest : List UInt8) :
    decode (encodeChar c ++ rest) = c :: decode rest := by
  have hvalid : c.toNat < 0xD800 ∨ 0xDFFF < c.toNat ∧ c.toNat < 0x110000 := c.valid
  have hback : Char.ofNat c.toNat = c := Char.ofNat_toNat c
  -- what follows is about the code point alone
  generalize hn : c.toNat = n at hvalid hback
  unfold encodeChar
  simp only [hn]
  split
  · rename_i hone
    have ha := toNat_ofNat (n := n) (by omega)
    rw [List.cons_append, List.nil_append, decode_one rest (by omega), ha, hback]
  · split
    · have ha := toNat_ofNat (n := 0xC0 + n / 0x40) (by omega)
      have hb := toNat_ofNat (n := 0x80 + n % 0x40) (by omega)
      have hvalue : (n / 0x40) * 0x40 + n % 0x40 = n := by omega
      simp only [List.cons_append, List.nil_append]
      rw [decode_two rest (by omega) (by omega) (isTail_ofNat n)]
      simp only [joinBits, List.foldl_cons, List.foldl_nil, ha, hb, Nat.add_sub_cancel_left]
      rw [hvalue, hback]
    · split
      · have ha := toNat_ofNat (n := 0xE0 + n / 0x1000) (by omega)
        have hb := toNat_ofNat (n := 0x80 + n / 0x40 % 0x40) (by omega)
        have hc := toNat_ofNat (n := 0x80 + n % 0x40) (by omega)
        have hsecond := isSecond_ofNat (m := 0xE0 + n / 0x1000) (n := n / 0x40 % 0x40)
          (by omega) (by omega) (by omega)
        have hvalue : (n / 0x1000 * 0x40 + n / 0x40 % 0x40) * 0x40 + n % 0x40 = n := by omega
        simp only [List.cons_append, List.nil_append]
        rw [decode_three rest (by omega) (by omega) hsecond (isTail_ofNat n)]
        simp only [joinBits, List.foldl_cons, List.foldl_nil, ha, hb, hc, Nat.add_sub_cancel_left]
        rw [hvalue, hback]
      · have ha := toNat_ofNat (n := 0xF0 + n / 0x40000) (by omega)
        have hb := toNat_ofNat (n := 0x80 + n / 0x1000 % 0x40) (by omega)
        have hc := toNat_ofNat (n := 0x80 + n / 0x40 % 0x40) (by omega)
        have hd := toNat_ofNat (n := 0x80 + n % 0x40) (by omega)
        have hsecond := isSecond_ofNat (m := 0xF0 + n / 0x40000) (n := n / 0x1000 % 0x40)
          (by omega) (by omega) (by omega)
        have hvalue : ((n / 0x40000 * 0x40 + n / 0x1000 % 0x40) * 0x40 + n / 0x40 % 0x40) * 0x40 +
            n % 0x40 = n := by omega
        simp only [List.cons_append, List.nil_append]
        rw [decode_four rest (by omega) (by omega) hsecond (isTail_ofNat _) (isTail_ofNat n)]
        simp only [joinBits, List.foldl_cons, List.foldl_nil, ha, hb, hc, hd,
          Nat.add_sub_cancel_left]
        rw [hvalue, hback]

theorem decode_encodeChars_append (cs : List Char) (rest : List UInt8) :
    decode (encodeChars cs ++ rest) = cs ++ decode rest := by
  induction cs with
  | nil => rfl
  | cons c cs ih =>
    rw [encodeChars_cons, List.append_assoc, decode_encodeChar, ih, List.cons_append]

theorem decode_encodeChars (cs : List Char) : decode (encodeChars cs) = cs := by
  have hback := decode_encodeChars_append cs []
  rwa [List.append_nil, decode, List.append_nil] at hback

theorem encodeChars_inj {cs ds : List Char} : encodeChars cs = encodeChars ds ↔ cs = ds := by
  constructor
  · intro h
    rw [← decode_encodeChars cs, h, decode_encodeChars]
  · exact congrArg encodeChars

/-! ## How many octets there are -/

theorem utf8Size_eq_ite (c : Char) :
    c.utf8Size = if c.toNat < 0x80 then 1 else if c.toNat < 0x800 then 2
      else if c.toNat < 0x10000 then 3 else 4 := by
  have hle (bound : UInt32) : c.val ≤ bound ↔ c.toNat < bound.toNat + 1 :=
    UInt32.le_iff_toNat_le.trans Nat.lt_succ_iff.symm
  change (if c.val ≤ 127 then 1 else if c.val ≤ 2047 then 2 else if c.val ≤ 65535 then 3 else 4) = _
  simp only [hle, UInt32.reduceToNat, Nat.reduceAdd]

theorem length_encodeChar (c : Char) : (encodeChar c).length = c.utf8Size := by
  rw [utf8Size_eq_ite]
  unfold encodeChar
  simp only [apply_ite List.length, List.length_cons, List.length_nil]

theorem utf8ByteSize_ofList_cons (c : Char) (cs : List Char) :
    (String.ofList (c :: cs)).utf8ByteSize = c.utf8Size + (String.ofList cs).utf8ByteSize := by
  rw [String.ofList_cons, String.utf8ByteSize_append, String.utf8ByteSize_singleton]

theorem length_encodeChars (cs : List Char) :
    (encodeChars cs).length = (String.ofList cs).utf8ByteSize := by
  induction cs with
  | nil => rfl
  | cons c cs ih =>
    rw [encodeChars_cons, List.length_append, length_encodeChar, ih, utf8ByteSize_ofList_cons]

theorem length_octets (s : String) : (octets s).length = s.utf8ByteSize := by
  rw [octets, length_encodeChars, String.ofList_toList]

theorem length_encodeChars_reverse (cs : List Char) :
    (encodeChars cs.reverse).length = (encodeChars cs).length :=
  ((List.reverse_perm cs).flatMap_right encodeChar).length_eq

/-! ## Beginnings -/

theorem encodeChars_prefix_iff {front cs : List Char} :
    encodeChars front <+: encodeChars cs ↔ front <+: cs := by
  constructor
  · rintro ⟨rest, h⟩
    refine ⟨decode rest, ?_⟩
    rw [← decode_encodeChars_append, h, decode_encodeChars]
  · rintro ⟨back, rfl⟩
    exact ⟨encodeChars back, (encodeChars_append front back).symm⟩

/-! ## Ends -/

theorem not_isTail_ofNat {n : Nat} (h : n < 0x80 ∨ 0xC0 ≤ n ∧ n < 256) :
    isTail (.ofNat n) = false := by
  rw [Bool.eq_false_iff, ne_eq, isTail_iff, toNat_ofNat (by omega)]
  omega

/-- The first octet of a character is no tail, and all others are. -/
theorem encodeChar_eq_cons (c : Char) :
    ∃ lead tails, encodeChar c = lead :: tails ∧ isTail lead = false ∧
      ∀ b ∈ tails, isTail b = true := by
  have hvalid : c.toNat < 0xD800 ∨ 0xDFFF < c.toNat ∧ c.toNat < 0x110000 := c.valid
  have hone (m : Nat) : ∀ b ∈ [UInt8.ofNat (0x80 + m % 0x40)], isTail b = true :=
    List.forall_mem_singleton.mpr (isTail_ofNat m)
  unfold encodeChar
  dsimp only
  split
  · exact ⟨_, _, rfl, not_isTail_ofNat (by omega), List.forall_mem_nil _⟩
  · split
    · exact ⟨_, _, rfl, not_isTail_ofNat (by omega), hone _⟩
    · split
      · exact ⟨_, _, rfl, not_isTail_ofNat (by omega),
          List.forall_mem_cons.mpr ⟨isTail_ofNat _, hone _⟩⟩
      · exact ⟨_, _, rfl, not_isTail_ofNat (by omega), List.forall_mem_cons.mpr ⟨isTail_ofNat _,
          List.forall_mem_cons.mpr ⟨isTail_ofNat _, hone _⟩⟩⟩

/-- An octet that is no tail stands where a character starts. -/
theorem exists_split_of_not_isTail {cs : List Char} {before after : List UInt8} {b : UInt8}
    (h : encodeChars cs = before ++ b :: after) (hb : isTail b = false) :
    ∃ front back, cs = front ++ back ∧ encodeChars front = before := by
  induction cs generalizing before with
  | nil => simp [encodeChars] at h
  | cons c cs ih =>
    rw [encodeChars_cons] at h
    rcases List.append_eq_append_iff.mp h with ⟨rest, hbefore, hrest⟩ | ⟨rest, hchar, hrest⟩
    · -- it comes behind the first character
      obtain ⟨front, back, rfl, hfront⟩ := ih hrest
      exact ⟨c :: front, back, rfl, by rw [encodeChars_cons, hfront, hbefore]⟩
    · cases rest with
      | nil =>
        refine ⟨[c], cs, rfl, ?_⟩
        rw [encodeChars_cons, hchar, List.append_nil]
        exact List.append_nil before
      | cons b' rest =>
        obtain ⟨rfl, -⟩ := List.cons.inj hrest
        obtain ⟨lead, tails, hlead, -, htails⟩ := encodeChar_eq_cons c
        rw [hlead] at hchar
        cases before with
        | nil => exact ⟨[], c :: cs, rfl, rfl⟩
        | cons lead' before =>
          -- an octet of the first character behind its first one is a tail
          have hmem : b ∈ tails := by
            rw [(List.cons.inj hchar).2]
            simp
          rw [htails b hmem] at hb
          cases hb

theorem encodeChars_suffix_iff {back cs : List Char} :
    encodeChars back <:+ encodeChars cs ↔ back <:+ cs := by
  constructor
  · rintro ⟨before, h⟩
    cases back with
    | nil => exact List.nil_suffix
    | cons c back =>
      obtain ⟨lead, tails, hlead, hstart, -⟩ := encodeChar_eq_cons c
      have hat : encodeChars cs = before ++ lead :: (tails ++ encodeChars back) := by
        rw [← h, encodeChars_cons, hlead, List.cons_append]
      obtain ⟨front, rest, rfl, hfront⟩ := exists_split_of_not_isTail hat hstart
      rw [encodeChars_append, hfront, List.append_cancel_left_eq, encodeChars_inj] at h
      exact ⟨front, by rw [h]⟩
  · rintro ⟨front, rfl⟩
    exact ⟨encodeChars front, (encodeChars_append front back).symm⟩

/-! ## Places in a text -/

theorem getElem?_charStarts_append (start : Nat) (cs ds : List Char) :
    (charStarts start (cs ++ ds))[cs.length]? =
      if ds = [] then none else some (start + (String.ofList cs).utf8ByteSize) := by
  induction cs generalizing start with
  | nil => cases ds <;> rfl
  | cons c cs ih =>
    rw [utf8ByteSize_ofList_cons, ← Nat.add_assoc]
    exact ih (start + c.utf8Size)

/-- The octet behind the first part of a text is found by counting its characters. -/
theorem octetOf_append (t u : String) : octetOf (t ++ u) t.length = t.utf8ByteSize := by
  have hstarts := getElem?_charStarts_append 0 t.toList u.toList
  rw [String.length_toList] at hstarts
  rw [octetOf, String.toList_append, hstarts]
  split
  · rename_i hempty
    rw [String.toList_eq_nil_iff.mp hempty, String.append_empty]
    rfl
  · rw [String.ofList_toList, Nat.zero_add]
    rfl

theorem pos?_eq_some_iff {s : String} {octet : Nat} {p : s.Pos} :
    s.pos? ⟨octet⟩ = some p ↔ p.offset = ⟨octet⟩ := by
  unfold String.pos? String.Slice.pos?
  constructor
  · intro h
    obtain ⟨q, hq, rfl⟩ := Option.map_eq_some_iff.mp h
    split at hq
    · rw [← Option.some.inj hq]
      rfl
    · cases hq
  · intro h
    have hvalid : String.Pos.Raw.isValidForSlice s.toSlice ⟨octet⟩ = true :=
      String.Pos.Raw.isValidForSlice_eq_true_iff.mpr (h ▸ p.isValid.toSlice)
    rw [dif_pos hvalid, Option.map_some, Option.some.injEq]
    exact String.Pos.ext h.symm

/-- A text in two parts has a place where they meet. -/
theorem exists_place (t u : String) :
    ∃ p, (t ++ u).pos? ⟨t.utf8ByteSize⟩ = some p ∧ p.Splits t u := by
  have hvalid : String.Pos.Raw.IsValid (t ++ u) t.rawEndPos :=
    String.Pos.Raw.isValid_iff_exists_append.mpr ⟨t, u, rfl, rfl⟩
  exact ⟨⟨_, hvalid⟩, pos?_eq_some_iff.mpr rfl, rfl, rfl⟩

/-! ## Edits at a place -/

theorem insertAt?_append (t u : String) (c : Char) :
    insertAt? (t ++ u) t.utf8ByteSize c = some (t ++ String.singleton c ++ u) := by
  obtain ⟨p, hplace, hsplits⟩ := exists_place t u
  obtain ⟨hfront, hback⟩ := p.splits.eq hsplits
  rw [insertAt?, hplace, Option.map_some, hfront, hback]

theorem removeAt?_append (t : String) (c : Char) (u : String) :
    removeAt? (t ++ (String.singleton c ++ u)) t.utf8ByteSize = some (t ++ u) := by
  obtain ⟨p, hplace, hsplits⟩ := exists_place t (String.singleton c ++ u)
  have hne := hsplits.ne_endPos_of_singleton
  have hfront := p.splits.eq_left hsplits
  have hback := (p.next hne).splits.eq_right hsplits.next
  rw [removeAt?, hplace, Option.bind_some, dif_neg hne, hfront, hback]

/-- A text from which a character was removed has fewer octets. -/
theorem utf8ByteSize_of_removeAt? {s t : String} {octet : Nat} (h : removeAt? s octet = some t) :
    t.utf8ByteSize < s.utf8ByteSize := by
  obtain ⟨p, -, hp⟩ := Option.bind_eq_some_iff.mp h
  split at hp
  · cases hp
  · rename_i hne
    -- the character between the two parts that are left has at least one octet
    have hparts := (p.splits_next_right hne).eq_append
    have hsize := congrArg String.utf8ByteSize hparts
    have hchar := (p.get hne).utf8Size_pos
    rw [← Option.some.inj hp]
    simp only [String.utf8ByteSize_append, String.utf8ByteSize_singleton] at hsize ⊢
    omega

end CatalogDesk.Text
