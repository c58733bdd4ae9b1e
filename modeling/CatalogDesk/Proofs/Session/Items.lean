import CatalogDesk.Session.Storage

/-! # Stored items

    What is under a key after an item was put or removed, and that items stay in the order
    of their keys.  In that order an item that is there already is put back in its place
    (`set_of_get?`), and items that are put one after another are those items
    (`foldl_set`). -/

namespace CatalogDesk.Items

theorem get?_cons (key k v : String) (items : Items) :
    get? key ((k, v) :: items) = if k = key then some v else get? key items := by
  unfold get?
  rw [List.find?_cons]
  by_cases h : k = key
  · simp [h]
  · simp [h]

theorem get?_set_self (key value : String) (items : Items) :
    get? key (set key value items) = some value := by
  induction items with
  | nil => rw [set, get?_cons, if_pos rfl]
  | cons item items ih =>
    rw [set]
    split
    · rw [get?_cons, if_pos rfl]
    · split
      · rw [get?_cons, if_pos rfl]
      · rename_i hne
        rw [get?_cons, if_neg (Ne.symm hne), ih]

theorem get?_set_of_ne {key other : String} (hne : other ≠ key) (value : String)
    (items : Items) : get? other (set key value items) = get? other items := by
  have hkey : ¬ key = other := Ne.symm hne
  induction items with
  | nil => rw [set, get?_cons, if_neg hkey]
  | cons item items ih =>
    rw [set]
    split
    · rw [get?_cons, if_neg hkey]
    · split
      · rename_i hsame
        rw [get?_cons, get?_cons, if_neg hkey, ← hsame, if_neg hkey]
      · rw [get?_cons, get?_cons, ih]

theorem get?_remove_self (key : String) (items : Items) : get? key (remove key items) = none := by
  simp [get?, remove]

theorem get?_remove_of_ne {key other : String} (hne : other ≠ key) (items : Items) :
    get? other (remove key items) = get? other items := by
  unfold get? remove
  rw [List.find?_filter]
  congr 2
  funext item
  by_cases h : item.1 = other
  · simp [h, hne]
  · simp [h]

/-! ## The order of the keys -/

/-- The keys ascend, so no two items have the same one. -/
def Ascending (items : Items) : Prop :=
  items.Pairwise (·.1 < ·.1)

theorem mem_of_mem_set {key value : String} {items : Items} {item : String × String}
    (h : item ∈ set key value items) : item.1 = key ∨ item ∈ items := by
  induction items with
  | nil =>
    cases List.mem_singleton.mp h
    exact .inl rfl
  | cons first items ih =>
    rw [set] at h
    split at h
    · rcases List.mem_cons.mp h with rfl | hmem
      · exact .inl rfl
      · exact .inr hmem
    · split at h
      · rcases List.mem_cons.mp h with rfl | hmem
        · exact .inl rfl
        · exact .inr (List.mem_cons_of_mem _ hmem)
      · rcases List.mem_cons.mp h with rfl | hmem
        · exact .inr List.mem_cons_self
        · exact (ih hmem).imp_right (List.mem_cons_of_mem _)

theorem ascending_set {items : Items} (h : Ascending items) (key value : String) :
    Ascending (set key value items) := by
  induction items with
  | nil => exact List.pairwise_singleton _ _
  | cons first items ih =>
    obtain ⟨hfirst, hrest⟩ := List.pairwise_cons.mp h
    rw [set]
    split
    · rename_i hlt
      refine List.pairwise_cons.mpr ⟨fun item hmem => ?_, h⟩
      rcases List.mem_cons.mp hmem with rfl | hmem
      · exact hlt
      · exact String.lt_trans hlt (hfirst item hmem)
    · rename_i hnot
      split
      · rename_i hsame
        exact List.pairwise_cons.mpr ⟨fun item hmem => hsame ▸ hfirst item hmem, hrest⟩
      · rename_i hne
        have hlt : first.1 < key := Decidable.byContradiction fun hge =>
          hne (String.le_antisymm (String.not_lt.mp hge) (String.not_lt.mp hnot))
        refine List.pairwise_cons.mpr ⟨fun item hmem => ?_, ih hrest⟩
        rcases mem_of_mem_set hmem with heq | hmem
        · exact heq ▸ hlt
        · exact hfirst item hmem

theorem ascending_remove {items : Items} (h : Ascending items) (key : String) :
    Ascending (remove key items) :=
  List.Pairwise.filter _ h

theorem get?_eq_none_of_lt {key : String} {items : Items}
    (h : ∀ item ∈ items, key < item.1) : get? key items = none := by
  unfold get?
  rw [Option.map_eq_none_iff, List.find?_eq_none]
  intro item hmem
  have hlt := h item hmem
  simpa using fun heq : item.1 = key => String.lt_irrefl key (heq ▸ hlt)

/-- To put what is there already changes nothing. -/
theorem set_of_get? {items : Items} (h : Ascending items) {key value : String}
    (hget : get? key items = some value) : set key value items = items := by
  induction items with
  | nil => cases hget
  | cons first items ih =>
    obtain ⟨hfirst, hrest⟩ := List.pairwise_cons.mp h
    rw [get?_cons] at hget
    rw [set]
    split at hget
    · rename_i hsame
      cases hget
      rw [if_neg (hsame ▸ String.lt_irrefl _), if_pos hsame.symm, ← hsame]
    · rename_i hne
      have hnot : ¬ key < first.1 := by
        intro hlt
        -- An item further on would have a greater key than this one.
        have hnone := get?_eq_none_of_lt fun item hmem =>
          String.lt_trans hlt (hfirst item hmem)
        rw [hnone] at hget
        cases hget
      rw [if_neg hnot, if_neg (Ne.symm hne), ih hrest hget]

/-- To remove what is not there changes nothing. -/
theorem remove_of_get? {items : Items} {key : String} (hget : get? key items = none) :
    remove key items = items := by
  unfold get? at hget
  rw [Option.map_eq_none_iff, List.find?_eq_none] at hget
  exact List.filter_eq_self.mpr fun item hmem => by simpa using hget item hmem

theorem set_of_greatest {items : Items} {key : String} (h : ∀ item ∈ items, item.1 < key)
    (value : String) : set key value items = items ++ [(key, value)] := by
  induction items with
  | nil => rfl
  | cons first items ih =>
    have hlt : first.1 < key := h first List.mem_cons_self
    have hne : key ≠ first.1 := fun heq => String.lt_irrefl key (heq ▸ hlt)
    rw [set, if_neg (String.lt_asymm hlt), if_neg hne,
      ih fun item hmem => h item (List.mem_cons_of_mem _ hmem)]
    rfl

/-- Items in order that are put one after another. -/
theorem foldl_set {front items : Items} (h : Ascending (front ++ items)) :
    items.foldl (fun acc item => set item.1 item.2 acc) front = front ++ items := by
  induction items generalizing front with
  | nil => exact (List.append_nil front).symm
  | cons item items ih =>
    have hlast : ∀ other ∈ front, other.1 < item.1 := fun other hmem =>
      (List.pairwise_append.mp h).2.2 other hmem item List.mem_cons_self
    rw [List.foldl_cons, set_of_greatest hlast]
    have happend : front ++ item :: items = front ++ [item] ++ items := by
      rw [List.append_assoc]
      rfl
    rw [happend] at h ⊢
    exact ih h

end CatalogDesk.Items
