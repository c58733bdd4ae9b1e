import CatalogDesk.Json.Fields
import CatalogDesk.Json.Printer

/-! # Objects of texts, written and read

    A quoted text is read back as the text (`readQuoted_quote`).  An object whose members are
    texts is read back field by field, whatever blanks stand between its tokens
    (`readFields_members`), so the compact form and the form with a member on each line are
    two layouts of one lemma. -/

namespace CatalogDesk.Json

/-! ## Quoted texts -/

theorem readText_plain {c : Char} (hquote : c ≠ '"') (hslash : c ≠ '\\')
    (hcontrol : ¬ c.toNat < 0x20) (acc cs : List Char) :
    readText acc (c :: cs) = readText (c :: acc) cs := by
  rw [readText]
  · rw [if_neg hcontrol]
  all_goals intros; simp_all

theorem readText_escaped {c e : Char} (h : simpleEscape? c = some e) (acc cs : List Char) :
    readText acc ('\\' :: c :: cs) = readText (e :: acc) cs := by
  rw [readText]
  · rw [h]
  · rintro a b d f rest rfl rfl
    cases h

theorem hex4?_control {n : Nat} (h : n < 32) :
    hex4? '0' '0' (hexDigit (n / 16)) (hexDigit (n % 16)) = some n := by
  have hall : ∀ n < 32, hex4? '0' '0' (hexDigit (n / 16)) (hexDigit (n % 16)) = some n := by
    decide
  exact hall n h

theorem readText_control {c : Char} (h : c.toNat < 32) (acc cs : List Char) :
    readText acc ('\\' :: 'u' :: '0' :: '0' :: hexDigit (c.toNat / 16) ::
      hexDigit (c.toNat % 16) :: cs) = readText (c :: acc) cs := by
  -- a control character is no half of another one
  have hlow : ¬ (0xDC00 ≤ c.toNat && c.toNat ≤ 0xDFFF) = true := by simp; omega
  have hhigh : ¬ (0xD800 ≤ c.toNat && c.toNat ≤ 0xDBFF) = true := by simp; omega
  rw [readText, hex4?_control h]
  dsimp only
  rw [if_neg hlow, if_neg hhigh, Char.ofNat_toNat]

/-- A character as written inside quotes is read as the character. -/
theorem readText_escapeChar (c : Char) (acc cs : List Char) :
    readText acc (escapeChar c ++ cs) = readText (c :: acc) cs := by
  unfold escapeChar
  split
  · exact readText_escaped rfl acc cs
  · exact readText_escaped rfl acc cs
  · exact readText_escaped rfl acc cs
  · exact readText_escaped rfl acc cs
  · exact readText_escaped rfl acc cs
  · rename_i hquote hslash _ _ _
    split
    · rename_i hback
      rw [← Char.ofNat_toNat c, hback]
      exact readText_escaped rfl acc cs
    · split
      · rename_i hfeed
        rw [← Char.ofNat_toNat c, hfeed]
        exact readText_escaped rfl acc cs
      · split
        · rename_i hcontrol
          exact readText_control hcontrol acc cs
        · rename_i hcontrol
          exact readText_plain hquote hslash hcontrol acc cs

theorem readText_flatMap_escapeChar (cs acc rest : List Char) :
    readText acc (cs.flatMap escapeChar ++ '"' :: rest) =
      some (String.ofList (acc.reverse ++ cs), rest) := by
  induction cs generalizing acc with
  | nil =>
    rw [List.flatMap_nil, List.nil_append, List.append_nil]
    rfl
  | cons c cs ih =>
    rw [List.flatMap_cons, List.append_assoc, readText_escapeChar, ih]
    simp

theorem toList_quote (s : String) :
    (quote s).toList = '"' :: (s.toList.flatMap escapeChar ++ ['"']) := by
  simp [quote]

/-- A quoted text is read back. -/
theorem readQuoted_quote (s : String) (rest : List Char) :
    readQuoted ((quote s).toList ++ rest) = some (s, rest) := by
  have hread := readText_flatMap_escapeChar s.toList [] rest
  rw [toList_quote, List.cons_append, List.append_assoc]
  simpa [readQuoted] using hread

/-! ## Blanks -/

theorem skipSpace_cons {c : Char} (hc : isSpace c = false) (cs : List Char) :
    skipSpace (c :: cs) = c :: cs :=
  List.dropWhile_cons_of_neg (by simp [hc])

theorem skipSpace_append {blanks : List Char} (hblanks : ∀ c ∈ blanks, isSpace c = true)
    {c : Char} (hc : isSpace c = false) (cs : List Char) :
    skipSpace (blanks ++ c :: cs) = c :: cs := by
  unfold skipSpace
  rw [List.dropWhile_append_of_pos hblanks]
  exact skipSpace_cons hc cs

theorem skipSpace_append_quote {blanks : List Char} (hblanks : ∀ c ∈ blanks, isSpace c = true)
    (s : String) (cs : List Char) :
    skipSpace (blanks ++ ((quote s).toList ++ cs)) = (quote s).toList ++ cs := by
  rw [toList_quote]
  exact skipSpace_append hblanks rfl _

/-! ## Layouts -/

/-- The blanks of an object as written. -/
structure Layout where
  /-- In front of each member. -/
  lead : List Char := []
  /-- Behind each colon. -/
  gap : List Char := []
  /-- Behind the last member. -/
  close : List Char := []

namespace Layout

/-- They are blanks indeed. -/
structure Blank (l : Layout) : Prop where
  lead : ∀ c ∈ l.lead, isSpace c = true
  gap : ∀ c ∈ l.gap, isSpace c = true
  close : ∀ c ∈ l.close, isSpace c = true

/-- A member as written. -/
def member (l : Layout) (m : String × String) : List Char :=
  l.lead ++ (quote m.1).toList ++ ':' :: (l.gap ++ (quote m.2).toList)

/-- The members as written, with the closing brace. -/
def members (l : Layout) : List (String × String) → List Char
  | [] => l.close ++ ['\x7d']
  | [m] => l.member m ++ l.close ++ ['\x7d']
  | m :: m' :: ms => l.member m ++ ',' :: l.members (m' :: ms)

theorem length_le_members (l : Layout) (ms : List (String × String)) :
    ms.length ≤ (l.members ms).length := by
  induction ms using members.induct with
  | case1 => exact Nat.zero_le _
  | case2 m =>
    rw [members, List.length_append, List.length_singleton, List.length_singleton]
    omega
  | case3 m m' ms ih =>
    rw [members, List.length_append, List.length_cons, List.length_cons]
    exact Nat.le_trans (Nat.succ_le_succ ih) (Nat.le_add_left _ _)

/-- The first member starts with a quote, blanks aside. -/
theorem skipSpace_members {l : Layout} (hl : l.Blank) (m : String × String)
    (ms : List (String × String)) : ∃ cs, skipSpace (l.members (m :: ms)) = '"' :: cs := by
  have hlead (cs : List Char) :
      skipSpace (l.member m ++ cs) = (quote m.1).toList ++ (':' :: (l.gap ++ (quote m.2).toList)
        ++ cs) := by
    rw [member, List.append_assoc, List.append_assoc, skipSpace_append_quote hl.lead]
  cases ms with
  | nil =>
    rw [members, List.append_assoc, hlead, toList_quote]
    exact ⟨_, rfl⟩
  | cons m' ms =>
    rw [members, hlead, toList_quote]
    exact ⟨_, rfl⟩

end Layout

/-! ## Objects -/

variable {σ : Type} {take : σ → String → List Char → Option (σ × List Char)} {l : Layout}

/-- What every member preserves holds after all of them. -/
theorem readFields_preserves {P : σ → Prop}
    (step : ∀ {state key cs state' rest}, P state → take state key cs = some (state', rest) →
      P state') {fuel : Nat} {state final : σ} {cs rest : List Char} (h : P state)
    (hread : readFields take state fuel cs = some (final, rest)) : P final := by
  induction fuel generalizing state cs with
  | zero => cases hread
  | succ fuel ih =>
    rw [readFields] at hread
    split at hread
    · cases hread
    · split at hread
      · split at hread
        · cases hread
        · rename_i htaken
          have hnext := step h htaken
          split at hread
          · cases hread
            exact hnext
          · exact ih hnext hread
          · cases hread
      · cases hread

/-- One member is read, and what stands behind it decides how to go on. -/
theorem readFields_member (hl : l.Blank) {m : String × String} {state : σ} {next : Option σ}
    (htake : ∀ cs, take state m.1 ((quote m.2).toList ++ cs) = next.map (·, cs))
    (fuel : Nat) (cs : List Char) :
    readFields take state (fuel + 1) (l.member m ++ cs) = next.bind fun state =>
      match skipSpace cs with
      | '\x7d' :: rest => some (state, rest)
      | ',' :: rest => readFields take state fuel rest
      | _ => none := by
  have htaken : take state m.1 (skipSpace (l.gap ++ ((quote m.2).toList ++ cs))) =
      next.map (·, cs) := by
    rw [skipSpace_append_quote hl.gap, htake]
  rw [Layout.member, List.append_assoc, List.append_assoc, readFields,
    skipSpace_append_quote hl.lead, readQuoted_quote]
  simp only [List.cons_append, List.append_assoc, skipSpace_cons (c := ':') rfl, htaken]
  cases next <;> rfl

/-- An object of texts is read field by field, whatever blanks it is written with. -/
theorem readFields_members (hl : l.Blank) {next : σ → String × String → Option σ}
    (m : String × String) (ms : List (String × String))
    (htake : ∀ state, ∀ m' ∈ m :: ms, ∀ cs,
      take state m'.1 ((quote m'.2).toList ++ cs) = (next state m').map (·, cs))
    (state : σ) {fuel : Nat} (hfuel : ms.length < fuel) :
    readFields take state fuel (l.members (m :: ms)) =
      ((m :: ms).foldlM next state).map (·, []) := by
  induction ms generalizing m state fuel with
  | nil =>
    obtain ⟨fuel, rfl⟩ := Nat.exists_eq_add_of_lt hfuel
    rw [Layout.members, List.append_assoc, readFields_member hl (htake state m List.mem_cons_self),
      skipSpace_append hl.close rfl]
    cases hnext : next state m <;> simp [hnext]
  | cons m' ms ih =>
    obtain ⟨fuel, rfl⟩ := Nat.exists_eq_add_of_lt hfuel
    rw [Layout.members, readFields_member hl (htake state m List.mem_cons_self),
      skipSpace_cons rfl]
    have hrest (state : σ) :
        readFields take state ((m' :: ms).length + fuel) (l.members (m' :: ms)) =
          ((m' :: ms).foldlM next state).map (·, []) :=
      ih m' (fun state m'' hmem => htake state m'' (List.mem_cons_of_mem m hmem)) state
        (by rw [List.length_cons]; omega)
    cases hnext : next state m with
    | none => simp [hnext]
    | some state' => simpa [hnext] using hrest state'

end CatalogDesk.Json
