import CatalogDesk.Text.Blank
import Mathlib.Data.List.DropRight

/-! # Trimmed texts

    A text that was trimmed once stays as it is when it is trimmed again, and so does one
    without blanks.  Nothing is left just of the texts in which there is nothing to see. -/

namespace CatalogDesk.Text

theorem trimChars_trimChars (cs : List Char) : trimChars (trimChars cs) = trimChars cs := by
  -- what is left starts with the same character as before the end was trimmed
  have hfront : dropBlank (trimChars cs) = trimChars cs := by
    have hfirst : trimChars cs <+: dropBlank cs := List.rdropWhile_prefix isBlank _
    refine List.dropWhile_eq_self_iff.mpr fun hlt => ?_
    rw [hfirst.getElem hlt]
    exact List.dropWhile_eq_self_iff.mp (List.dropWhile_idempotent isBlank cs) _
  rw [trimChars, hfront]
  exact List.rdropWhile_idempotent isBlank (dropBlank cs)

theorem trim_trim (s : String) : trim (trim s) = trim s := by
  simp [trim, trimChars_trimChars]

theorem trimChars_of_not_blank {cs : List Char} (h : ∀ c ∈ cs, isBlank c = false) :
    trimChars cs = cs := by
  have hfront : dropBlank cs = cs :=
    List.dropWhile_eq_self_iff.mpr fun hlt => by simp [h _ (List.getElem_mem hlt)]
  have hend : cs.reverse.dropWhile isBlank = cs.reverse :=
    List.dropWhile_eq_self_iff.mpr fun hlt => by
      rw [h _ (List.mem_reverse.mp (List.getElem_mem hlt))]
      exact Bool.false_ne_true
  rw [trimChars, hfront, dropBlankEnd, hend, List.reverse_reverse]

/-! ## Nothing to see -/

theorem trim_eq_empty_iff (s : String) : trim s = "" ↔ isBlankText s = true := by
  have hdrop : dropBlank s.toList = [] ↔ ∀ c ∈ s.toList, isBlank c = true :=
    List.dropWhile_eq_nil_iff
  have htrim : trimChars s.toList = [] ↔ ∀ c ∈ dropBlank s.toList, isBlank c = true :=
    List.rdropWhile_eq_nil_iff
  rw [trim, String.ofList_eq_empty_iff, isBlankText, List.all_eq_true, ← hdrop]
  constructor
  · intro h
    -- what is left in front of a visible character would be that character
    have hblank := htrim.mp h
    rw [← List.dropWhile_eq_nil_iff] at hblank
    exact (List.dropWhile_idempotent isBlank s.toList).symm.trans hblank
  · intro h
    rw [trimChars, h]
    rfl

/-- There is something to see in what begins with something to see. -/
theorem isBlankText_append_of_left {s : String} (h : isBlankText s = false) (t : String) :
    isBlankText (s ++ t) = false := by
  simp only [isBlankText, String.toList_append, List.all_append] at h ⊢
  rw [h, Bool.false_and]

/-! ## Something to see -/

/-- Is there something to see in the text? -/
def IsVisible (s : String) : Prop := isBlankText s = false

instance : DecidablePred IsVisible := fun _ => inferInstanceAs (Decidable (_ = _))

theorem isVisible_iff {s : String} : IsVisible s ↔ ∃ c ∈ s.toList, isBlank c = false := by
  simp only [IsVisible, isBlankText, List.all_eq_false, Bool.not_eq_true]

theorem isVisible_append {s t : String} : IsVisible (s ++ t) ↔ IsVisible s ∨ IsVisible t := by
  simp only [isVisible_iff, String.toList_append, List.mem_append, or_and_right, exists_or]

theorem isVisible_iff_trim {s : String} : IsVisible s ↔ trim s ≠ "" := by
  rw [Ne, trim_eq_empty_iff, Bool.not_eq_true]
  exact Iff.rfl

theorem isVisible_trim {s : String} : IsVisible (trim s) ↔ IsVisible s := by
  rw [isVisible_iff_trim, isVisible_iff_trim, trim_trim]

/-- Texts with visible marks between them are visible together, if they are not a single one that
    is not. -/
theorem isVisible_intercalate {sep : String} (hsep : IsVisible sep) :
    ∀ {texts : List String}, texts ≠ [] → (∀ s, texts = [s] → IsVisible s) →
      IsVisible (sep.intercalate texts)
  | [], hne, _ => absurd rfl hne
  | [s], _, hone => by
    rw [String.intercalate_singleton]
    exact hone s rfl
  | s :: t :: texts, _, _ => by
    rw [String.intercalate_cons_cons, isVisible_append, isVisible_append]
    exact .inl (.inr hsep)

end CatalogDesk.Text
