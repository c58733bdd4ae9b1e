import CatalogDesk.Proofs.Text.Octets
import CatalogDesk.Screen.FilterPanel

/-! # What fields and filters show

    A key that is handed to a text field tells whether the text has changed, and it tells the
    truth (`press_iff`): characters are only ever removed by keys that compare the number of
    octets, and a text that lost one has fewer of them.  So the filter panel shows the filters
    that it reported last, or that it was last given (`filters_press`). -/

namespace CatalogDesk

namespace TextField

variable (f : TextField)

@[simp] theorem value_setValue (s : String) : (f.setValue s).value = s := rfl

@[simp] theorem value_setError (e : Option String) : (f.setError e).value = f.value := rfl

@[simp] theorem value_setFocused (on : Bool) : (f.setFocused on).value = f.value := rfl

/-! ## Keys that type no character -/

@[simp] theorem value_moveRight : f.moveRight.value = f.value := by
  unfold moveRight
  split <;> rfl

/-- A text is the same, or has fewer octets, after a character was removed from it. -/
theorem value_edited_removeAt? (octet cursor : Nat) :
    (f.edited (Text.removeAt? f.value octet) cursor).value = f.value ∨
      (f.edited (Text.removeAt? f.value octet) cursor).value.utf8ByteSize <
        f.value.utf8ByteSize := by
  cases hremoved : Text.removeAt? f.value octet with
  | none => exact .inl rfl
  | some t => exact .inr (Text.utf8ByteSize_of_removeAt? hremoved)

theorem value_steer (code : KeyCode) :
    (f.steer code).value = f.value ∨
      (f.steer code).value.utf8ByteSize < f.value.utf8ByteSize := by
  cases code with
  | backspace =>
    simp only [steer, backspace]
    split
    · exact f.value_edited_removeAt? _ _
    · exact .inl rfl
  | delete =>
    simp only [steer, delete]
    split
    · exact f.value_edited_removeAt? _ _
    · exact .inl rfl
  | right => exact .inl f.value_moveRight
  | _ => exact .inl rfl

/-- The number of octets tells whether such a key has changed the text. -/
theorem steer_iff (code : KeyCode) :
    (f.value.utf8ByteSize != (f.steer code).value.utf8ByteSize) = true ↔
      (f.steer code).value ≠ f.value := by
  rw [bne_iff_ne]
  constructor
  · intro hsize hsame
    exact hsize (congrArg String.utf8ByteSize hsame).symm
  · intro hchanged
    rcases f.value_steer code with hsame | hless
    · exact absurd hsame hchanged
    · exact Nat.ne_of_gt hless

/-! ## All keys -/

/-- Nothing is removed from an empty field, and everything from any other. -/
theorem clear_iff : (!f.value.isEmpty) = true ↔ f.clear.value ≠ f.value := by
  rw [Bool.not_eq_true', ← Bool.not_eq_true, String.isEmpty_iff]
  exact not_congr eq_comm

/-- A key tells whether the text has changed. -/
theorem press_iff (k : Key) : (f.press k).1 = true ↔ (f.press k).2.value ≠ f.value := by
  cases hcode : k.code with
  | char c =>
    -- Ctrl+U clears, other keys with Ctrl or Alt do nothing, and the rest is inserted
    simp only [press, hcode]
    split
    · exact f.clear_iff
    · split
      · exact iff_of_false Bool.false_ne_true (not_not_intro rfl)
      · rw [bne_iff_ne]
        exact ne_comm
  | _ =>
    simp only [press, hcode]
    exact f.steer_iff _

theorem value_press {k : Key} (h : (f.press k).1 = false) : (f.press k).2.value = f.value := by
  have hsame : ¬ (f.press k).2.value ≠ f.value := by
    rw [← press_iff, h]
    exact Bool.false_ne_true
  exact Decidable.not_not.mp hsame

end TextField

namespace FilterPanel

variable (p : FilterPanel)

@[simp] theorem filters_setFilters (f : Filters) : (p.setFilters f).filters = f := by
  simp [filters, setFilters]

@[simp] theorem filters_refocus : p.refocus.filters = p.filters := rfl

@[simp] theorem filters_setFocused (on : Bool) : (p.setFocused on).filters = p.filters := rfl

theorem filters_pressChannel {k : Key} (h : (p.pressChannel k).1 = false) :
    (p.pressChannel k).2.filters = p.filters := by
  unfold pressChannel at h ⊢
  split at h
  · rfl
  · rfl
  · split at h
    · cases h
    · rfl
  · split at h
    · cases h
    · rfl
  · rfl

theorem filters_pressPart {k : Key} (h : (p.pressPart k).1 = false) :
    (p.pressPart k).2.filters = p.filters := by
  unfold pressPart at h ⊢
  cases hpart : p.part with
  | search =>
    simp only [hpart] at h ⊢
    simp only [filters, p.search.value_press h]
  | minPrice =>
    simp only [hpart] at h ⊢
    simp only [filters, p.minPrice.value_press h]
  | maxPrice =>
    simp only [hpart] at h ⊢
    simp only [filters, p.maxPrice.value_press h]
  | channel =>
    simp only [hpart] at h ⊢
    exact p.filters_pressChannel h

/-- A key reports the filters that are shown after it, or leaves them as they were. -/
theorem filters_press (k : Key) :
    (p.press k).2.filters = (p.press k).1.getD p.filters := by
  unfold press
  split
  · rfl
  · split
    · rfl
    · rfl
    · cases hchanged : (p.pressPart k).1 with
      | true => simp [hchanged]
      | false => simp [hchanged, p.filters_pressPart hchanged]

end FilterPanel

end CatalogDesk
