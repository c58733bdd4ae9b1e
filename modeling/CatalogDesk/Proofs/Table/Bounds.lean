import CatalogDesk.Proofs.Table.Arrangement

/-! # Where a table stands

    Page, selection and view of a table are moved by different operations: a search starts
    at the top, other records push page and selection back to what is left of them, a sort
    leaves both where they are, and turning the page moves the selection only if it is
    another page.  `Placed` is the invariant that all of them keep: the page is one that
    exists, or the first, and the selection is on one of its rows, or at the top of none.

    A page starts at a product of two numbers.  `offset_spec` bounds it by the number of
    rows, so that positions fit a machine word even for the greatest page size.

    Main result: `table_sound` says that `Sound` holds after any operations. -/

namespace CatalogDesk

variable {α : Type}

namespace Table

/-! ## What holds of a table -/

/-- A machine word holds the size of a page, and a list takes up at most half of the memory
    that words address. -/
structure HeldBy (word : Nat) (t : Table α) : Prop where
  counts : 2 < word
  pageSize : t.pageSize < word
  records : 2 * t.records.length < word

/-- The numbers that are formed to find the page, to turn it and to move on it are machine
    words too. -/
structure ComputedIn (word : Nat) (t : Table α) : Prop where
  pages : t.totalPages < word
  start : (t.page - 1) * t.pageSize < word
  stop : (t.page - 1) * t.pageSize + t.pageSize < word
  nextPage : t.page + 1 < word
  nextRow : t.selected + 1 < word

/-- What holds of a table, whatever was done to it before. -/
structure Sound (t : Table α) : Prop where
  fromOne : 1 ≤ t.page
  toLast : t.page ≤ max 1 t.totalPages
  selection : t.selected < t.pageRows.length ∨ t.selected = 0 ∧ t.pageRows.length = 0
  /-- The view has positions of records, each once. -/
  valid : ∀ i ∈ t.view, i < t.records.length
  distinct : t.view.Nodup
  offsets : ∀ word, t.HeldBy word → t.ComputedIn word
  /-- Actions apply to the row of the page that is selected. -/
  selected : t.loading = false → t.selected? = t.pageRows[t.selected]?
  /-- There is none exactly on an empty page and while records are loaded. -/
  unselected : t.selected? = none ↔ t.loading = true ∨ t.pageRows = []

/-! ## Pages and rows -/

variable {t : Table α}

theorem lt_totalPages_iff (hsize : 1 ≤ t.pageSize) (n : Nat) :
    n < t.totalPages ↔ n * t.pageSize < t.view.length := by
  have hdiv : n < t.totalPages ↔ (n + 1) * t.pageSize ≤ t.view.length + t.pageSize - 1 := by
    unfold totalPages
    rw [← Nat.succ_le_iff, Nat.le_div_iff_mul_le hsize]
  have hmul : (n + 1) * t.pageSize = n * t.pageSize + t.pageSize := Nat.succ_mul n t.pageSize
  rw [hdiv, hmul]
  omega

theorem length_pageIndices (t : Table α) :
    t.pageIndices.length = min t.pageSize (t.view.length - (t.page - 1) * t.pageSize) := by
  unfold pageIndices
  rw [List.length_take, List.length_drop]

theorem totalPages_le_length (t : Table α) (hsize : 1 ≤ t.pageSize) :
    t.totalPages ≤ t.view.length := by
  by_contra hmore
  have hlast : t.view.length < t.totalPages := by omega
  have hless := (lt_totalPages_iff hsize t.view.length).mp hlast
  have hgrows : t.view.length * 1 ≤ t.view.length * t.pageSize := Nat.mul_le_mul_left _ hsize
  omega

theorem clampPage_le (t : Table α) (page : Nat) : t.clampPage page ≤ max 1 t.totalPages := by
  unfold clampPage
  omega

/-! ## Page and selection -/

/-- The page exists or is the first, and the selection is on a row or at the top of none. -/
structure Placed (t : Table α) : Prop where
  page : t.page ≤ max 1 t.totalPages
  selected : t.selected < t.pageIndices.length ∨ t.selected = 0 ∧ t.pageIndices.length = 0

/-- At the top of a page the selection is always in place. -/
theorem placed_top (hpage : t.page ≤ max 1 t.totalPages) (hselected : t.selected = 0) :
    Placed t := by
  refine ⟨hpage, ?_⟩
  rcases Nat.eq_zero_or_pos t.pageIndices.length with hnone | hsome
  · exact .inr ⟨hselected, hnone⟩
  · exact .inl (by omega)

theorem placed_setPage (h : Placed t) (page : Nat) : Placed (t.setPage page) := by
  unfold setPage
  dsimp only
  split
  · exact h
  · exact placed_top (t.clampPage_le page) rfl

theorem placed_clampSelection (hpage : t.page ≤ max 1 t.totalPages) :
    Placed t.clampSelection := by
  refine ⟨hpage, ?_⟩
  have hrows : t.clampSelection.pageIndices.length = t.pageIndices.length := rfl
  have hselected : t.clampSelection.selected = min t.selected (t.pageIndices.length - 1) := rfl
  rw [hrows, hselected]
  omega

theorem placed_selectNext (h : Placed t) : Placed t.selectNext := by
  unfold selectNext
  dsimp only
  split
  · rename_i hsome
    have hbelow : min (t.selected + 1) (t.pageIndices.length - 1) < t.pageIndices.length := by
      omega
    exact ⟨h.page, .inl hbelow⟩
  · exact h

theorem placed_selectPrev (h : Placed t) : Placed t.selectPrev := by
  refine ⟨h.page, ?_⟩
  have hrows : t.selectPrev.pageIndices.length = t.pageIndices.length := rfl
  have hselected : t.selectPrev.selected = t.selected - 1 := rfl
  have hbefore := h.selected
  rw [hrows, hselected]
  omega

/-- A sort moves rows about, and there are as many as before. -/
theorem placed_of_length_view {other : Table α} (h : Placed t) (hpage : other.page = t.page)
    (hselected : other.selected = t.selected) (hsize : other.pageSize = t.pageSize)
    (hlength : other.view.length = t.view.length) : Placed other := by
  have hpages : other.totalPages = t.totalPages := by
    unfold totalPages
    rw [hlength, hsize]
  have hrows : other.pageIndices.length = t.pageIndices.length := by
    rw [length_pageIndices, length_pageIndices, hlength, hpage, hsize]
  constructor
  · rw [hpage, hpages]
    exact h.page
  · rw [hselected, hrows]
    exact h.selected

theorem pageSize_step (t : Table α) (input : TableInput α) :
    (t.step input).pageSize = t.pageSize := by
  have hsetPage : ∀ page, (t.setPage page).pageSize = t.pageSize := by
    intro page
    unfold setPage
    dsimp only
    split <;> rfl
  cases input with
  | setRecords records => rfl
  | setLoading loading => rfl
  | setSearch term => rfl
  | toggleSort column =>
    simp only [step, toggleSort]
    split <;> rfl
  | setPage page => exact hsetPage page
  | firstPage => exact hsetPage _
  | prevPage => exact hsetPage _
  | nextPage => exact hsetPage _
  | lastPage => exact hsetPage _
  | selectNext =>
    simp only [step, selectNext]
    split <;> rfl
  | selectPrev => rfl

theorem pageSize_after (t : Table α) (inputs : List (TableInput α)) :
    (t.after inputs).pageSize = t.pageSize := by
  induction inputs generalizing t with
  | nil => rfl
  | cons input rest ih => exact (ih (t.step input)).trans (t.pageSize_step input)

theorem one_le_pageSize_after (columns : List (Column α)) (encode : α → Json) (pageSize : Nat)
    (inputs : List (TableInput α)) :
    1 ≤ ((Table.new columns encode pageSize).after inputs).pageSize := by
  rw [pageSize_after]
  exact Nat.le_max_right pageSize 1

end Table

/-! ## Runs of a table -/

namespace TableRequest

open Table

variable {t : Table α} {q : TableRequest α}

theorem Follows.one_le_page (h : Follows t q) : 1 ≤ t.page := by
  rw [h.page]
  exact h.fromOne

/-- Which records are shown does not depend on how they are sorted. -/
theorem Follows.length_view_toggleSort (h : Follows t q) (column : Nat) :
    (t.toggleSort column).view.length = t.view.length := by
  have hafter : Follows (t.toggleSort column) (q.step (.toggleSort column)) :=
    h.step (.toggleSort column)
  rw [hafter.length_view, h.length_view]
  simp only [TableRequest.step]
  split <;> rfl

/-- **Step lemma.** -/
theorem Follows.placed_step (h : Follows t q) (hplaced : Placed t) (input : TableInput α) :
    Placed (t.step input) := by
  cases input with
  | setRecords records =>
    refine placed_clampSelection ?_
    exact clampPage_le { t with records, loading := false }.refresh t.page
  | setLoading loading => exact ⟨hplaced.page, hplaced.selected⟩
  | setSearch term => exact placed_top (Nat.le_max_left 1 _) rfl
  | toggleSort column =>
    have hlength := h.length_view_toggleSort column
    revert hlength
    simp only [Table.step, Table.toggleSort]
    split
    · intro hlength
      exact placed_of_length_view hplaced rfl rfl rfl hlength
    · intro _
      exact hplaced
  | setPage page => exact placed_setPage hplaced page
  | firstPage => exact placed_setPage hplaced 1
  | prevPage => exact placed_setPage hplaced (t.page - 1)
  | nextPage => exact placed_setPage hplaced (t.page + 1)
  | lastPage => exact placed_setPage hplaced t.totalPages
  | selectNext => exact placed_selectNext hplaced
  | selectPrev => exact placed_selectPrev hplaced

/-- **Run lemma.** -/
theorem Follows.placed_after (h : Follows t q) (hplaced : Placed t)
    (inputs : List (TableInput α)) : Placed (t.after inputs) := by
  induction inputs generalizing t q with
  | nil => exact hplaced
  | cons input rest ih => exact ih (h.step input) (h.placed_step hplaced input)

theorem placed_new (columns : List (Column α)) (encode : α → Json) (pageSize : Nat) :
    Placed (Table.new columns encode pageSize) :=
  placed_top (Nat.le_max_left 1 _) rfl

/-! ## The view -/

theorem Follows.getElem?_of_mem_view (h : Follows t q) {i : Nat} (hmem : i ∈ t.view) :
    ∃ r, t.records[i]? = some r := by
  rw [h.view] at hmem
  obtain ⟨p, hp, rfl⟩ := List.mem_map.mp hmem
  have hkept : p ∈ q.kept := List.mem_mergeSort.mp hp
  exact ⟨p.2, by rw [h.records]; exact (mem_kept.mp hkept).1⟩

theorem Follows.nodup_view (h : Follows t q) : t.view.Nodup := by
  have hpositions : (q.kept.map (·.1)).Nodup := by
    refine List.pairwise_map.mpr (q.pairwise_kept.imp ?_)
    intro a b hlt
    exact Nat.ne_of_lt hlt
  have hperm : t.view.Perm (q.kept.map (·.1)) := by
    rw [h.view]
    exact (List.mergeSort_perm _ _).map _
  exact hperm.nodup_iff.mpr hpositions

theorem Follows.length_view_le (h : Follows t q) : t.view.length ≤ t.records.length := by
  rw [h.length_view, h.records]
  have hfilter : q.kept.length ≤ (q.records.zipIdx.map fun p => (p.2, p.1)).length :=
    List.length_filter_le _ _
  rwa [List.length_map, List.length_zipIdx] at hfilter

/-- A row of the page is the record at its position. -/
theorem Follows.getElem?_pageRows (h : Follows t q) (row : Nat) :
    t.pageRows[row]? = (t.pageIndices[row]?).bind fun i => t.records[i]? := by
  have hrecords : ∀ i ∈ t.pageIndices, ∃ r, t.records[i]? = some r := by
    intro i hi
    exact h.getElem?_of_mem_view (List.mem_of_mem_drop (List.mem_of_mem_take hi))
  unfold Table.pageRows
  generalize t.pageIndices = indices at hrecords
  induction indices generalizing row with
  | nil => rfl
  | cons i rest ih =>
    obtain ⟨r, hr⟩ := hrecords i List.mem_cons_self
    rw [List.filterMap_cons_some hr]
    cases row with
    | zero => exact hr.symm
    | succ row => exact ih row fun j hj => hrecords j (List.mem_cons_of_mem i hj)

theorem Follows.length_pageRows (h : Follows t q) :
    t.pageRows.length = t.pageIndices.length := by
  rw [h.pageRows, h.pageIndices, List.length_map, List.length_map]

/-! ## Offsets -/

/-- The page starts within the view; a page that is not the first is no longer than what
    comes before it. -/
theorem offset_spec (hsize : 1 ≤ t.pageSize) (hone : 1 ≤ t.page) (h : Placed t) :
    (t.page - 1) * t.pageSize ≤ t.view.length ∧
      (t.page = 1 ∨ (t.page - 1) * t.pageSize + t.pageSize ≤ 2 * t.view.length) := by
  by_cases hfirst : t.page = 1
  · rw [hfirst]
    exact ⟨by omega, .inl rfl⟩
  · -- a later page has rows, and those of one page at least stand before it
    have hpage := h.page
    have hbelow : t.page - 1 < t.totalPages := by omega
    have hstart := (lt_totalPages_iff hsize (t.page - 1)).mp hbelow
    have hbefore : 1 * t.pageSize ≤ (t.page - 1) * t.pageSize :=
      Nat.mul_le_mul_right _ (by omega)
    exact ⟨by omega, .inr (by omega)⟩

theorem Follows.computedIn (h : Follows t q) (hsize : 1 ≤ t.pageSize) (hplaced : Placed t)
    {word : Nat} (hheld : t.HeldBy word) : t.ComputedIn word := by
  have hone := h.one_le_page
  obtain ⟨hstart, hstop⟩ := offset_spec hsize hone hplaced
  have hview := h.length_view_le
  have hpages := t.totalPages_le_length hsize
  have hcounts := hheld.counts
  have hword := hheld.pageSize
  have hrecords := hheld.records
  have hpage := hplaced.page
  have hselected := hplaced.selected
  have hrows := t.length_pageIndices
  refine ⟨by omega, by omega, ?_, by omega, by omega⟩
  rcases hstop with hfirst | hlater
  · rw [hfirst]
    omega
  · omega

/-! ## What holds after a run -/

theorem Follows.sound (h : Follows t q) (hsize : 1 ≤ t.pageSize) (hplaced : Placed t) :
    t.Sound where
  fromOne := h.one_le_page
  toLast := hplaced.page
  selection := by
    rw [h.length_pageRows]
    exact hplaced.selected
  valid := by
    intro i hmem
    obtain ⟨r, hr⟩ := h.getElem?_of_mem_view hmem
    exact (List.getElem?_eq_some_iff.mp hr).1
  distinct := h.nodup_view
  offsets _ hheld := h.computedIn hsize hplaced hheld
  selected := by
    intro hloading
    rw [h.getElem?_pageRows]
    simp [selected?, hloading]
  unselected := by
    have hrows := h.length_pageRows
    have hselected := hplaced.selected
    cases hloading : t.loading with
    | true => simp [selected?, hloading]
    | false =>
      have hrow : t.selected? = t.pageRows[t.selected]? := by
        rw [h.getElem?_pageRows]
        simp [selected?, hloading]
      rw [hrow, List.getElem?_eq_none_iff, ← List.length_eq_zero_iff]
      simp only [Bool.false_eq_true, false_or]
      omega

/-- Whatever is done to a table of any page size, and in whatever order: its page is one
    that exists or the first, its selection is on a row of the page or at the top of an empty
    one, its view has positions of records, each once, what is computed of them fits a machine
    word, and actions apply to the selected row of the page unless records are loaded. -/
theorem table_sound (columns : List (Column α)) (encode : α → Json) (pageSize : Nat)
    (inputs : List (TableInput α)) : ((Table.new columns encode pageSize).after inputs).Sound := by
  have hfollows := (follows_new columns encode pageSize).after inputs
  have hplaced := (follows_new columns encode pageSize).placed_after
    (placed_new columns encode pageSize) inputs
  have hsize := one_le_pageSize_after columns encode pageSize inputs
  exact hfollows.sound hsize hplaced

/-- The last of three pages, and then there are only two records. -/
example :
    let t := (Table.new [] Json.text 2).after
      [.setRecords ["a", "b", "c", "d", "e"], .lastPage, .selectNext, .setRecords ["a", "b"]]
    t.page = 1 ∧ t.selected = 0 ∧ t.selected? = some "a" := by
  cbv

end TableRequest

end CatalogDesk
