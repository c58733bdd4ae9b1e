import CatalogDesk.Text.Case
import Mathlib.Data.List.Basic

/-! # Parts of texts in lower case

    Lower case is formed character by character, with one exception: a capital sigma looks
    at the letters around it.  So the lower case of a part of a text is not always a part of
    the lower case of the text.  It is, if each capital sigma in the part finds there all
    that it looks at; and if one does not, there is a text in which it looks different
    (`lower_infix_iff`).

    That a part is missing is shown by counting: a letter put before or behind the part
    turns some of its sigmas from one form to the other, and none the other way, so that the
    text has fewer sigmas of the first form than the part alone. -/

namespace CatalogDesk.Text

/-! ## Looking for a letter -/

theorem meetsCased_append (cs others : List Char) :
    meetsCased (cs ++ others) =
      if cs.all isCaseIgnorable then meetsCased others else meetsCased cs := by
  induction cs with
  | nil => rfl
  | cons c cs ih =>
    unfold meetsCased at ih ⊢
    by_cases hc : isCaseIgnorable c = true
    · simp only [List.cons_append, List.dropWhile_cons, hc, if_true, ih, List.all_cons,
        Bool.true_and]
    · simp [hc]

theorem meetsCased_of_all {cs : List Char} (h : cs.all isCaseIgnorable = true) :
    meetsCased cs = false := by
  have happend := meetsCased_append cs []
  rw [List.append_nil, if_pos h] at happend
  exact happend

/-! ## The lower case of a part -/

/-- The form of a capital sigma that stands between `before`, which is given in reverse, and
    `after`. -/
def sigmaForm (before after : List Char) : Char :=
  if meetsCased before && !meetsCased after then 'ς' else 'σ'

/-- The lower case of a part that stands between `before`, which is given in reverse, and
    `after`. -/
def lowerBetween (before : List Char) : List Char → List Char → List Char
  | [], _ => []
  | c :: rest, after =>
    (if c = capitalSigma then [sigmaForm before (rest ++ after)] else lowerChar c) ++
      lowerBetween (c :: before) rest after

theorem lowerBetween_append (before part rest after : List Char) :
    lowerBetween before (part ++ rest) after =
      lowerBetween before part (rest ++ after) ++
        lowerBetween (part.reverse ++ before) rest after := by
  induction part generalizing before with
  | nil => rfl
  | cons c part ih =>
    simp only [List.cons_append, lowerBetween, ih, List.append_assoc, List.reverse_cons,
      List.nil_append]

theorem lowerFrom_eq_lowerBetween (before cs : List Char) :
    lowerFrom before cs = lowerBetween before cs [] := by
  induction cs generalizing before with
  | nil => rfl
  | cons c rest ih =>
    have hform : [sigmaForm before rest] =
        if meetsCased before && !meetsCased rest then ['ς'] else ['σ'] := by
      unfold sigmaForm
      split <;> rfl
    simp only [lowerFrom, lowerBetween, ih, List.append_nil, hform]

/-- A text in lower case is put together from its parts. -/
theorem lowerFrom_parts (front part rear : List Char) :
    lowerFrom [] (front ++ part ++ rear) =
      lowerBetween [] front (part ++ rear) ++ lowerBetween front.reverse part rear ++
        lowerBetween (part.reverse ++ front.reverse) rear [] := by
  rw [lowerFrom_eq_lowerBetween, List.append_assoc, lowerBetween_append, lowerBetween_append]
  simp only [List.append_nil, List.append_assoc]

/-- A part looks the same in two places, if all its capital sigmas do. -/
theorem lowerBetween_congr {part before before' after after' : List Char}
    (h : ∀ front rear, part = front ++ capitalSigma :: rear →
      sigmaForm (front.reverse ++ before) (rear ++ after) =
        sigmaForm (front.reverse ++ before') (rear ++ after')) :
    lowerBetween before part after = lowerBetween before' part after' := by
  induction part generalizing before before' with
  | nil => rfl
  | cons c rest ih =>
    -- a sigma of the rest has the first character among those before it
    have hrest :
        lowerBetween (c :: before) rest after = lowerBetween (c :: before') rest after' := by
      apply ih
      intro front rear hsplit
      have hform := h (c :: front) rear (by rw [hsplit]; rfl)
      simpa using hform
    simp only [lowerBetween, hrest]
    by_cases hc : c = capitalSigma
    · have hform := h [] rest (by rw [hc]; rfl)
      change sigmaForm before (rest ++ after) = sigmaForm before' (rest ++ after') at hform
      rw [if_pos hc, if_pos hc, hform]
    · rw [if_neg hc, if_neg hc]

/-! ## Sigmas at an end -/

/-- Has the text a capital sigma at one of its ends, so that it takes more than the text to
    tell whether that ends a word?  Either letters stand before it, and it does if no letter
    follows the text; or none stands before it and none behind, and it does if a letter
    precedes the text. -/
def HasEdgeSigma (cs : List Char) : Prop :=
  ∃ front rear, cs = front ++ capitalSigma :: rear ∧
    (meetsCased front.reverse = true ∧ rear.all isCaseIgnorable = true ∨
      front.all isCaseIgnorable = true ∧ meetsCased rear = false)

/-- Elsewhere a capital sigma finds in the text what it looks at. -/
theorem sigmaForm_of_not_edge {front rear : List Char} (before after : List Char)
    (h : ¬ HasEdgeSigma (front ++ capitalSigma :: rear)) :
    sigmaForm (front.reverse ++ before) (rear ++ after) = sigmaForm front.reverse rear := by
  have hlast : ¬ (meetsCased front.reverse = true ∧ rear.all isCaseIgnorable = true) :=
    fun hedge => h ⟨front, rear, rfl, .inl hedge⟩
  have hfirst : ¬ (front.all isCaseIgnorable = true ∧ meetsCased rear = false) :=
    fun hedge => h ⟨front, rear, rfl, .inr hedge⟩
  unfold sigmaForm
  rw [meetsCased_append, meetsCased_append, List.all_reverse]
  by_cases hfront : front.all isCaseIgnorable = true
  · -- no letter before: one must follow within the text
    have hnone : meetsCased front.reverse = false := meetsCased_of_all (by simpa using hfront)
    have hsome : meetsCased rear = true := by simpa [hfront] using hfirst
    have hrear : ¬ rear.all isCaseIgnorable = true := by
      intro hall
      rw [meetsCased_of_all hall] at hsome
      cases hsome
    simp [hnone, hsome, hrear]
  · rw [if_neg hfront]
    by_cases hrear : rear.all isCaseIgnorable = true
    · have hnone : meetsCased front.reverse = false := by simpa [hrear] using hlast
      simp [hnone]
    · rw [if_neg hrear]

theorem lower_infix_of_not_edge {part text : List Char} (hedge : ¬ HasEdgeSigma part)
    (h : part <:+: text) : lowerFrom [] part <:+: lowerFrom [] text := by
  obtain ⟨front, rear, rfl⟩ := h
  have hsame : lowerBetween front.reverse part rear = lowerFrom [] part := by
    rw [lowerFrom_eq_lowerBetween]
    apply lowerBetween_congr
    intro u v hsplit
    rw [List.append_nil, List.append_nil]
    exact sigmaForm_of_not_edge _ _ (hsplit ▸ hedge)
  rw [lowerFrom_parts, hsame]
  exact ⟨_, _, rfl⟩

/-! ## Counting sigmas -/

theorem count_lowerBetween_le (form : Char) {part before before' after after' : List Char}
    (h : ∀ front rear, part = front ++ capitalSigma :: rear →
      sigmaForm (front.reverse ++ before') (rear ++ after') = form →
        sigmaForm (front.reverse ++ before) (rear ++ after) = form) :
    (lowerBetween before' part after').count form ≤
      (lowerBetween before part after).count form := by
  induction part generalizing before before' with
  | nil => exact Nat.le_refl _
  | cons c rest ih =>
    have hrest : (lowerBetween (c :: before') rest after').count form ≤
        (lowerBetween (c :: before) rest after).count form := by
      apply ih
      intro front rear hsplit
      have hform := h (c :: front) rear (by rw [hsplit]; rfl)
      simpa using hform
    simp only [lowerBetween, List.count_append]
    by_cases hc : c = capitalSigma
    · have hform := h [] rest (by rw [hc]; rfl)
      change sigmaForm before' (rest ++ after') = form →
        sigmaForm before (rest ++ after) = form at hform
      rw [if_pos hc, if_pos hc, List.count_singleton, List.count_singleton]
      by_cases hfirst : sigmaForm before' (rest ++ after') = form
      · simp [hfirst, hform hfirst, hrest]
      · simp [hfirst]
        omega
    · rw [if_neg hc, if_neg hc]
      omega

/-- A capital sigma that loses the form, while no other gains it, makes a difference. -/
theorem count_lowerBetween_lt (form : Char) {front rear before before' after after' : List Char}
    (h : ∀ u v, front ++ capitalSigma :: rear = u ++ capitalSigma :: v →
      sigmaForm (u.reverse ++ before') (v ++ after') = form →
        sigmaForm (u.reverse ++ before) (v ++ after) = form)
    (hhas : sigmaForm (front.reverse ++ before) (rear ++ after) = form)
    (hloses : sigmaForm (front.reverse ++ before') (rear ++ after') ≠ form) :
    (lowerBetween before' (front ++ capitalSigma :: rear) after').count form <
      (lowerBetween before (front ++ capitalSigma :: rear) after).count form := by
  -- the sigma loses the form, and what is on its two sides has it no more often
  have hfront : (lowerBetween before' front (capitalSigma :: rear ++ after')).count form ≤
      (lowerBetween before front (capitalSigma :: rear ++ after)).count form := by
    apply count_lowerBetween_le
    intro u v hsplit hform
    have hsame := h u (v ++ capitalSigma :: rear) (by rw [hsplit]; simp)
    rw [List.append_assoc, List.append_assoc] at hsame
    exact hsame hform
  have hrear : (lowerBetween (capitalSigma :: (front.reverse ++ before')) rear after').count form ≤
      (lowerBetween (capitalSigma :: (front.reverse ++ before)) rear after).count form := by
    apply count_lowerBetween_le
    intro u v hsplit hform
    have hsame := h (front ++ capitalSigma :: u) v (by rw [hsplit]; simp)
    simp only [List.reverse_append, List.reverse_cons, List.append_assoc, List.singleton_append]
      at hsame
    exact hsame hform
  simp only [lowerBetween_append, lowerBetween, if_true, List.count_append, List.count_singleton,
    hhas, beq_self_eq_true, beq_eq_false_iff_ne.mpr hloses]
  simp only [Bool.false_eq_true, if_false]
  omega

/-! ## Letters around the part -/

/-- A letter behind the part leaves no sigma the final form that did not have it. -/
theorem sigmaForm_letter_behind {before rear : List Char}
    (h : sigmaForm before (rear ++ ['a']) = 'ς') : sigmaForm before rear = 'ς' := by
  have hletter : meetsCased ['a'] = true := by decide
  unfold sigmaForm at h ⊢
  rw [meetsCased_append, hletter] at h
  by_cases hrear : rear.all isCaseIgnorable = true
  · simp [hrear] at h
  · rwa [if_neg hrear] at h

/-- A letter before the part leaves no sigma the other form that did not have it. -/
theorem sigmaForm_letter_before {front after : List Char}
    (h : sigmaForm (front ++ ['a']) after = 'σ') : sigmaForm front after = 'σ' := by
  have hletter : meetsCased ['a'] = true := by decide
  unfold sigmaForm at h ⊢
  rw [meetsCased_append, hletter] at h
  by_cases hfront : front.all isCaseIgnorable = true
  · simp [meetsCased_of_all hfront]
  · rwa [if_neg hfront] at h

theorem lowerBetween_letter (before after : List Char) :
    lowerBetween before ['a'] after = ['a'] := by
  have hletter : lowerChar 'a' = ['a'] := by decide
  have hsigma : 'a' ≠ capitalSigma := by decide
  simp only [lowerBetween, if_neg hsigma, hletter, List.append_nil]

theorem lowerFrom_letter_behind (part : List Char) :
    lowerFrom [] (part ++ ['a']) = lowerBetween [] part ['a'] ++ ['a'] := by
  rw [lowerFrom_eq_lowerBetween, lowerBetween_append, lowerBetween_letter]
  rfl

theorem lowerFrom_letter_before (part : List Char) :
    lowerFrom [] (['a'] ++ part) = ['a'] ++ lowerBetween ['a'] part [] := by
  rw [lowerFrom_eq_lowerBetween, lowerBetween_append, lowerBetween_letter]
  rfl

/-- A sigma that ends a word in the part does not where a letter follows. -/
theorem not_infix_letter_behind {front rear : List Char} (hfront : meetsCased front.reverse = true)
    (hrear : rear.all isCaseIgnorable = true) :
    ¬ lowerFrom [] (front ++ capitalSigma :: rear) <:+:
      lowerFrom [] (front ++ capitalSigma :: rear ++ ['a']) := by
  have hletter : meetsCased ['a'] = true := by decide
  have hfewer : (lowerBetween [] (front ++ capitalSigma :: rear) ['a']).count 'ς' <
      (lowerBetween [] (front ++ capitalSigma :: rear) []).count 'ς' := by
    apply count_lowerBetween_lt
    · intro u v _ hform
      rw [List.append_nil v]
      exact sigmaForm_letter_behind hform
    · simp [sigmaForm, hfront, meetsCased_of_all hrear]
    · simp [sigmaForm, meetsCased_append, hrear, hletter]
  -- as a part it would bring all its final sigmas with it
  intro hinfix
  have hcount := hinfix.sublist.count_le 'ς'
  have hnone : ['a'].count 'ς' = 0 := by decide
  rw [lowerFrom_letter_behind, List.count_append, hnone, lowerFrom_eq_lowerBetween] at hcount
  omega

/-- A sigma that ends no word in the part does where a letter comes before. -/
theorem not_infix_letter_before {front rear : List Char}
    (hfront : front.all isCaseIgnorable = true) (hrear : meetsCased rear = false) :
    ¬ lowerFrom [] (front ++ capitalSigma :: rear) <:+:
      lowerFrom [] (['a'] ++ (front ++ capitalSigma :: rear)) := by
  have hletter : meetsCased ['a'] = true := by decide
  have hfewer : (lowerBetween ['a'] (front ++ capitalSigma :: rear) []).count 'σ' <
      (lowerBetween [] (front ++ capitalSigma :: rear) []).count 'σ' := by
    apply count_lowerBetween_lt
    · intro u v _ hform
      rw [List.append_nil u.reverse]
      exact sigmaForm_letter_before hform
    · have hnone : meetsCased front.reverse = false := meetsCased_of_all (by simpa using hfront)
      simp [sigmaForm, hnone]
    · simp [sigmaForm, meetsCased_append, hfront, hrear, hletter]
  intro hinfix
  have hcount := hinfix.sublist.count_le 'σ'
  have hnone : ['a'].count 'σ' = 0 := by decide
  rw [lowerFrom_letter_before, List.count_append, hnone, lowerFrom_eq_lowerBetween] at hcount
  omega

/-- There is a text that has the part, and hides it. -/
theorem exists_hiding {part : List Char} (hedge : HasEdgeSigma part) :
    ∃ text, part <:+: text ∧ ¬ lowerFrom [] part <:+: lowerFrom [] text := by
  obtain ⟨front, rear, rfl, ⟨hfront, hrear⟩ | ⟨hfront, hrear⟩⟩ := hedge
  · exact ⟨_, ⟨[], ['a'], rfl⟩, not_infix_letter_behind hfront hrear⟩
  · exact ⟨_, ⟨['a'], [], by simp⟩, not_infix_letter_before hfront hrear⟩

/-- The lower case of a part is found in the lower case of every text that has the part, if
    and only if the part has no capital sigma at its ends. -/
theorem lower_infix_iff (part : List Char) :
    (∀ text, part <:+: text → lowerFrom [] part <:+: lowerFrom [] text) ↔ ¬ HasEdgeSigma part := by
  constructor
  · intro hfound hedge
    obtain ⟨text, hpart, hhidden⟩ := exists_hiding hedge
    exact hhidden (hfound text hpart)
  · intro hedge text
    exact lower_infix_of_not_edge hedge

end CatalogDesk.Text
