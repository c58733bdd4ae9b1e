import CatalogDesk.Proofs.Text.Octets
import CatalogDesk.Session.Token

/-! # What is shown of a token

    A token of more than ten octets is shown by its first four and its last four.  They are
    counted as octets but shown as characters, so a token whose cut falls inside a character
    cannot be shown at all.

    Main result: `masksWell_iff` says that every token that a text makes can be shown, and that
    nothing but its ends is shown of a long one, if and only if those octets are texts of their
    own.  The second half holds of every token (`masked_congr_ends`), and the first one of tokens
    in ASCII (`masksWell_of_ascii`). -/

namespace CatalogDesk.Token

open Text

/-! ## Octets cut off -/

theorem firstOctets_append (front back : List Char) :
    firstOctets (encodeChars front).length (front ++ back) = .ok front := by
  induction front with
  | nil => rw [show encodeChars [] = [] from rfl, List.length_nil, firstOctets]
  | cons c front ih =>
    have hpos := Char.utf8Size_pos c
    rw [encodeChars_cons, List.length_append, length_encodeChar, List.cons_append, firstOctets,
      if_pos (by omega), Nat.add_sub_cancel_left, ih]
    · rfl
    · omega

theorem split_of_firstOctets {n : Nat} {cs front : List Char} (hn : n ≤ (encodeChars cs).length)
    (h : firstOctets n cs = .ok front) :
    (encodeChars front).length = n ∧ ∃ back, cs = front ++ back := by
  fun_induction firstOctets n cs generalizing front with
  | case1 cs =>
    cases h
    exact ⟨rfl, cs, rfl⟩
  | case2 n hzero =>
    exact absurd (Nat.le_zero.mp hn) hzero
  | case3 n c cs hzero hfits ih =>
    rw [encodeChars_cons, List.length_append, length_encodeChar] at hn
    cases hrest : firstOctets (n - c.utf8Size) cs with
    | error e =>
      rw [hrest] at h
      cases h
    | ok rest =>
      rw [hrest] at h
      cases h
      obtain ⟨hlength, back, rfl⟩ := ih (by omega) hrest
      rw [encodeChars_cons, List.length_append, length_encodeChar, hlength]
      exact ⟨by omega, back, rfl⟩
  | case4 => cases h

/-- What is cut off at the front is the text of the first octets. -/
theorem firstOctets_eq_ok_iff {n : Nat} {cs front : List Char} (hn : n ≤ (encodeChars cs).length) :
    firstOctets n cs = .ok front ↔ encodeChars front = (encodeChars cs).take n := by
  constructor
  · intro h
    obtain ⟨hlength, back, rfl⟩ := split_of_firstOctets hn h
    rw [encodeChars_append, ← hlength, List.take_left]
  · intro h
    obtain ⟨back, rfl⟩ := encodeChars_prefix_iff.mp (h ▸ List.take_prefix n (encodeChars cs))
    have hlength := congrArg List.length h
    rw [List.length_take, Nat.min_eq_left hn] at hlength
    rw [← hlength]
    exact firstOctets_append front back

theorem lastOctets_append (front back : List Char) :
    lastOctets (encodeChars back).length (front ++ back) = .ok back := by
  unfold lastOctets
  rw [List.reverse_append, ← length_encodeChars_reverse, firstOctets_append]
  exact congrArg Except.ok (List.reverse_reverse back)

theorem split_of_lastOctets {n : Nat} {cs back : List Char} (hn : n ≤ (encodeChars cs).length)
    (h : lastOctets n cs = .ok back) :
    (encodeChars back).length = n ∧ ∃ front, cs = front ++ back := by
  unfold lastOctets at h
  cases hcut : firstOctets n cs.reverse with
  | error e =>
    rw [hcut] at h
    cases h
  | ok cut =>
    rw [hcut] at h
    cases h
    obtain ⟨hlength, rest, hrest⟩ :=
      split_of_firstOctets (by rwa [length_encodeChars_reverse]) hcut
    refine ⟨by rw [length_encodeChars_reverse, hlength], rest.reverse, ?_⟩
    rw [← List.reverse_append, ← hrest, List.reverse_reverse]

/-- What is cut off at the back is the text of the last octets. -/
theorem lastOctets_eq_ok_iff {n : Nat} {cs back : List Char} (hn : n ≤ (encodeChars cs).length) :
    lastOctets n cs = .ok back ↔
      encodeChars back = (encodeChars cs).drop ((encodeChars cs).length - n) := by
  constructor
  · intro h
    obtain ⟨hlength, front, rfl⟩ := split_of_lastOctets hn h
    rw [encodeChars_append, ← hlength, List.length_append, Nat.add_sub_cancel, List.drop_left]
  · intro h
    obtain ⟨front, rfl⟩ := encodeChars_suffix_iff.mp (h ▸ List.drop_suffix _ (encodeChars cs))
    have hlength := congrArg List.length h
    rw [List.length_drop, Nat.sub_sub_self hn] at hlength
    rw [← hlength]
    exact lastOctets_append front back

/-! ## Tokens -/

/-- Is the token shown by its ends? -/
def IsLong (t : Token) : Prop := 10 < (octets t.value).length

/-- The first four octets of the token. -/
def front (t : Token) : List UInt8 := (octets t.value).take 4

/-- The last four octets of the token. -/
def back (t : Token) : List UInt8 := (octets t.value).drop ((octets t.value).length - 4)

variable {t : Token}

theorem masked_of_not_isLong (h : ¬ t.IsLong) : ∃ mask, t.masked = .ok mask := by
  rw [IsLong, length_octets] at h
  unfold masked
  rw [if_pos (by omega)]
  exact ⟨_, rfl⟩

/-- A long token is shown by the texts of its ends. -/
theorem masked_eq_ok_iff (h : t.IsLong) (mask : String) :
    t.masked = .ok mask ↔ ∃ first last, encodeChars first = t.front ∧ encodeChars last = t.back ∧
      String.ofList (first ++ ['.', '.', '.'] ++ last) = mask := by
  have hfour : 4 ≤ (encodeChars t.value.toList).length := by
    unfold IsLong octets at h
    omega
  rw [IsLong, length_octets] at h
  unfold masked front back octets
  rw [if_neg (by omega)]
  simp only [← firstOctets_eq_ok_iff hfour, ← lastOctets_eq_ok_iff hfour]
  cases firstOctets 4 t.value.toList with
  | error e => simp [bind, Except.bind]
  | ok first =>
    cases lastOctets 4 t.value.toList with
    | error e => simp [bind, Except.bind]
    | ok last => simp [bind, Except.bind]

theorem exists_masked_iff (h : t.IsLong) :
    (∃ mask, t.masked = .ok mask) ↔ IsText t.front ∧ IsText t.back := by
  simp only [masked_eq_ok_iff h]
  constructor
  · rintro ⟨-, first, last, hfirst, hlast, -⟩
    exact ⟨⟨first, hfirst⟩, last, hlast⟩
  · rintro ⟨⟨first, hfirst⟩, last, hlast⟩
    exact ⟨_, first, last, hfirst, hlast, rfl⟩

/-- Where an error says nothing, outcomes are told by their successes. -/
theorem eq_of_ok_iff {α : Type} {x y : Except CutError α} (h : ∀ a, x = .ok a ↔ y = .ok a) :
    x = y := by
  cases x with
  | ok a => exact ((h a).mp rfl).symm
  | error e =>
    cases y with
    | ok a => exact (h a).mpr rfl
    | error e' => rfl

/-- Long tokens with the same ends are shown alike, or both not at all. -/
theorem masked_congr_ends {other : Token} (h : t.IsLong) (hother : other.IsLong)
    (hfront : other.front = t.front) (hback : other.back = t.back) : other.masked = t.masked := by
  refine eq_of_ok_iff fun mask => ?_
  rw [masked_eq_ok_iff h, masked_eq_ok_iff hother, hfront, hback]

theorem exists_described_iff :
    (∃ report, t.described = .ok report) ↔ ∃ mask, t.masked = .ok mask := by
  unfold described
  cases t.masked with
  | error e => simp [Except.map]
  | ok mask => simp [Except.map]

/-! ## What may be shown -/

/-- The token can be shown, alone and in a report, and nothing but its ends is shown of a long
    one. -/
structure MasksWell (t : Token) : Prop where
  masked : ∃ mask, t.masked = .ok mask
  described : ∃ report, t.described = .ok report
  ends : t.IsLong → ∀ other : Token, other.IsLong → other.front = t.front → other.back = t.back →
    other.masked = t.masked ∧ other.described = t.described

theorem masksWell_iff_masked : t.MasksWell ↔ ∃ mask, t.masked = .ok mask := by
  constructor
  · exact fun h => h.masked
  · intro h
    refine ⟨h, exists_described_iff.mpr h, fun hlong other hother hfront hback => ?_⟩
    have hmasked := masked_congr_ends hlong hother hfront hback
    exact ⟨hmasked, by rw [Token.described, Token.described, hmasked]⟩

theorem masksWell_iff_ends : t.MasksWell ↔ (t.IsLong → IsText t.front ∧ IsText t.back) := by
  rw [masksWell_iff_masked]
  by_cases h : t.IsLong
  · rw [exists_masked_iff h]
    exact ⟨fun hends _ => hends, fun hends => hends h⟩
  · exact iff_of_true (masked_of_not_isLong h) fun hlong => absurd hlong h

theorem encodeChars_of_ascii {cs : List Char} (h : ∀ c ∈ cs, c.toNat < 0x80) :
    encodeChars cs = cs.map fun c => .ofNat c.toNat := by
  induction cs with
  | nil => rfl
  | cons c cs ih =>
    obtain ⟨hc, hcs⟩ := List.forall_mem_cons.mp h
    rw [encodeChars_cons, ih hcs, encodeChar, if_pos hc]
    rfl

/-- A token in ASCII can be cut anywhere. -/
theorem masksWell_of_ascii (h : ∀ c ∈ t.value.toList, c.toNat < 0x80) : t.MasksWell := by
  rw [masksWell_iff_ends]
  intro _
  unfold front back octets
  rw [encodeChars_of_ascii h, ← List.map_take, ← List.map_drop]
  constructor
  · exact ⟨_, encodeChars_of_ascii fun c hc => h c (List.mem_of_mem_take hc)⟩
  · exact ⟨_, encodeChars_of_ascii fun c hc => h c (List.mem_of_mem_drop hc)⟩

/-- The token that a text makes can be shown, and nothing but its ends is shown of a long one, if
    and only if its first four octets and its last four are texts of their own. -/
theorem masksWell_iff (s : String) :
    (∀ t, ofText? s = some t → t.MasksWell) ↔
      ∀ t, ofText? s = some t → t.IsLong → IsText t.front ∧ IsText t.back :=
  forall₂_congr fun _ _ => masksWell_iff_ends

/-- Not every accepted text makes such a token: of this one the fourth octet is the first half of
    a letter, so that it cannot be shown. -/
theorem not_masksWell_halfLetter : ¬ ∀ t, ofText? "café-token-1" = some t → t.MasksWell := by
  intro h
  obtain ⟨mask, hmask⟩ := (h ⟨"café-token-1"⟩ (by decide)).masked
  have hcut : masked ⟨"café-token-1"⟩ = .error .insideCharacter := rfl
  rw [hcut] at hmask
  cases hmask

/-- Letters of two octets do no harm where they fit. -/
example : masked ⟨"éàüöçñ"⟩ = .ok "éà...çñ" := rfl

end CatalogDesk.Token
