/-! # Lists that grow at their end

    Watches, searches and events are kept in lists that grow at the end, and are told by
    their place.  These lemmas say what is at a place after one more was added. -/

namespace CatalogDesk

variable {α : Type}

theorem getElem?_concat_eq_some_iff (l : List α) (a x : α) (i : Nat) :
    (l ++ [a])[i]? = some x ↔ l[i]? = some x ∨ (i = l.length ∧ a = x) := by
  rw [List.getElem?_append, List.getElem?_singleton]
  split
  · rename_i hlt
    constructor
    · exact .inl
    · rintro (h | ⟨h, -⟩)
      · exact h
      · omega
  · rename_i hge
    rw [List.getElem?_eq_none (by omega)]
    by_cases heq : i = l.length
    · simp [heq]
    · have hne : i - l.length ≠ 0 := by omega
      simp [heq, hne]

/-- An item of a list that has grown is the new one, or there is something behind it
    that ends in the new one. -/
theorem concat_eq_append_cons_iff (l before rest : List α) (a x : α) :
    l ++ [a] = before ++ x :: rest ↔
      (rest = [] ∧ l = before ∧ a = x) ∨
        ∃ rest', rest = rest' ++ [a] ∧ l = before ++ x :: rest' := by
  rcases List.eq_nil_or_concat rest with rfl | ⟨rest', last, rfl⟩
  · simp
  · have hassoc : before ++ x :: (rest' ++ [last]) = (before ++ x :: rest') ++ [last] := by simp
    rw [List.concat_eq_append, hassoc, List.append_singleton_inj]
    constructor
    · rintro ⟨hl, rfl⟩
      exact .inr ⟨rest', rfl, hl⟩
    · rintro (⟨hnil, -⟩ | ⟨rest'', hrest, hl⟩)
      · simp at hnil
      · obtain ⟨rfl, rfl⟩ := List.append_singleton_inj.mp hrest
        exact ⟨hl, rfl⟩

end CatalogDesk
