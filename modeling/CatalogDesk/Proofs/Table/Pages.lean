import CatalogDesk.Proofs.Table.Bounds
import Mathlib.Data.Rat.Floor

/-! # Reading a table page by page

    Somebody who looks for a record turns the pages of a table: either goes to each page by
    its number (`visit`), or starts at the first page and turns the page as long as that is
    possible (`leaf`).  Both ways show the rows of the view from its start to its end, since
    a page begins where the one before it ends (`flatMap_pages`).

    Main result: `pages_show_all` says that `Paged` holds after any operations: each record
    that matches is shown once on some page, in the order of the rows, there are as many
    pages as that takes, and only the last one may be shorter than the others. -/

namespace CatalogDesk

variable {α : Type}

namespace Table

/-! ## Turning pages -/

/-- Is the page another one, its rows are shown from the top. -/
def turned (t : Table α) (page : Nat) : Table α :=
  { t with page, selected := 0 }

theorem clampPage_of_le {t : Table α} {page : Nat} (hone : 1 ≤ page)
    (hlast : page ≤ max 1 t.totalPages) : t.clampPage page = page := by
  unfold clampPage
  omega

theorem nextPage_of_canGoForward {t : Table α} (h : t.canGoForward = true) :
    t.nextPage = t.turned (t.page + 1) := by
  have hforward : t.page < t.totalPages := of_decide_eq_true h
  have hclamp : t.clampPage (t.page + 1) = t.page + 1 :=
    clampPage_of_le (by omega) (by omega)
  unfold nextPage setPage
  rw [hclamp]
  exact if_neg (by omega)

/-- The table as it is shown on each page of a list, gone to one after the other. -/
def visit (t : Table α) : List Nat → List (Table α)
  | [] => []
  | page :: rest => t.setPage page :: (t.setPage page).visit rest

/-- The table as it is shown until the page cannot be turned any more. -/
def leaf (t : Table α) : List (Table α) :=
  if h : t.canGoForward = true then
    have : t.nextPage.totalPages - t.nextPage.page < t.totalPages - t.page := by
      have hforward : t.page < t.totalPages := of_decide_eq_true h
      have hpages : (t.turned (t.page + 1)).totalPages = t.totalPages := rfl
      have hpage : (t.turned (t.page + 1)).page = t.page + 1 := rfl
      rw [nextPage_of_canGoForward h, hpages, hpage]
      omega
    t :: t.nextPage.leaf
  else [t]
termination_by t.totalPages - t.page

/-! ## The rows of a page -/

/-- The rows of a page, wherever the table stands. -/
def rowsOf (t : Table α) (page : Nat) : List α :=
  ((t.view.drop ((page - 1) * t.pageSize)).take t.pageSize).filterMap fun i => t.records[i]?

/-- The rows of the view. -/
def rows (t : Table α) : List α :=
  t.view.filterMap fun i => t.records[i]?

/-- What stands on a page hangs on the page alone. -/
theorem pageRows_eq_rowsOf (t : Table α) : t.pageRows = t.rowsOf t.page := rfl

theorem rowsOf_setPage (t : Table α) (page : Nat) : (t.setPage page).rowsOf = t.rowsOf := by
  unfold setPage
  dsimp only
  split <;> rfl

theorem page_setPage (t : Table α) (page : Nat) : (t.setPage page).page = t.clampPage page := by
  unfold setPage
  dsimp only
  split
  · rename_i hsame
    exact hsame.symm
  · rfl

theorem totalPages_setPage (t : Table α) (page : Nat) :
    (t.setPage page).totalPages = t.totalPages := by
  unfold setPage
  dsimp only
  split <;> rfl

theorem pageRows_setPage {t : Table α} {page : Nat} (hone : 1 ≤ page)
    (hlast : page ≤ max 1 t.totalPages) : (t.setPage page).pageRows = t.rowsOf page := by
  rw [pageRows_eq_rowsOf, rowsOf_setPage, page_setPage, clampPage_of_le hone hlast]

/-- Pieces of one length, put together, are the list up to where the last one ends. -/
theorem flatMap_pieces {β : Type} (xs : List β) (size count : Nat) :
    (List.range' 1 count).flatMap (fun page => (xs.drop ((page - 1) * size)).take size) =
      xs.take (count * size) := by
  induction count with
  | zero => simp
  | succ count ih =>
    have hpiece : 1 + count - 1 = count := by omega
    rw [List.range'_1_concat, List.flatMap_append, ih, Nat.succ_mul, List.take_add,
      List.flatMap_singleton, hpiece]

theorem length_view_le_totalPages_mul {t : Table α} (hsize : 1 ≤ t.pageSize) :
    t.view.length ≤ t.totalPages * t.pageSize := by
  have hlast : ¬ t.totalPages < t.totalPages := Nat.lt_irrefl _
  rw [lt_totalPages_iff hsize] at hlast
  omega

/-- The pages, one after the other, are the rows of the view. -/
theorem flatMap_pages {t : Table α} (hsize : 1 ≤ t.pageSize) :
    (List.range' 1 t.totalPages).flatMap t.rowsOf = t.rows := by
  have hall : t.view.take (t.totalPages * t.pageSize) = t.view :=
    List.take_of_length_le (length_view_le_totalPages_mul hsize)
  have hpieces := flatMap_pieces t.view t.pageSize t.totalPages
  rw [hall] at hpieces
  unfold rows
  rw [← hpieces, List.filterMap_flatMap]
  rfl

/-! ## Going through the pages -/

theorem flatMap_visit (t : Table α) {pages : List Nat}
    (hpages : ∀ page ∈ pages, 1 ≤ page ∧ page ≤ max 1 t.totalPages) :
    (t.visit pages).map (·.page) = pages ∧
      (t.visit pages).flatMap pageRows = pages.flatMap t.rowsOf := by
  induction pages generalizing t with
  | nil => exact ⟨rfl, rfl⟩
  | cons page rest ih =>
    obtain ⟨hone, hlast⟩ := hpages page List.mem_cons_self
    have hpage : (t.setPage page).page = page := by
      rw [page_setPage, clampPage_of_le hone hlast]
    have hrest : ∀ other ∈ rest, 1 ≤ other ∧ other ≤ max 1 (t.setPage page).totalPages := by
      intro other hmem
      rw [totalPages_setPage]
      exact hpages other (List.mem_cons_of_mem page hmem)
    obtain ⟨hshown, hrows⟩ := ih (t.setPage page) hrest
    constructor
    · rw [visit, List.map_cons, hpage, hshown]
    · rw [visit, List.flatMap_cons, hrows, rowsOf_setPage, pageRows_setPage hone hlast,
        List.flatMap_cons]

/-- From a page on, turning the page comes by every page up to the last one. -/
theorem leaf_spec (t : Table α) (hone : 1 ≤ t.page) (hlast : t.page ≤ max 1 t.totalPages) :
    t.leaf.map (·.page) = List.range' t.page (max 1 t.totalPages + 1 - t.page) ∧
      t.leaf.flatMap pageRows = (t.leaf.map (·.page)).flatMap t.rowsOf := by
  fun_induction leaf t with
  | case1 t h _ ih =>
    have hforward : t.page < t.totalPages := of_decide_eq_true h
    rw [nextPage_of_canGoForward h] at ih ⊢
    have hpages : (t.turned (t.page + 1)).totalPages = t.totalPages := rfl
    have hnext : (t.turned (t.page + 1)).page = t.page + 1 := rfl
    rw [hpages, hnext] at ih
    obtain ⟨hshown, hrows⟩ := ih (by omega) (by omega)
    have hcount : max 1 t.totalPages + 1 - t.page = max 1 t.totalPages + 1 - (t.page + 1) + 1 := by
      omega
    constructor
    · rw [List.map_cons, hshown, hcount, List.range'_succ]
    · rw [List.flatMap_cons, List.map_cons, List.flatMap_cons, hrows]
      rfl
  | case2 t h =>
    have hend : ¬ t.page < t.totalPages := fun hlt => h (decide_eq_true hlt)
    have hcount : max 1 t.totalPages + 1 - t.page = 1 := by omega
    constructor
    · rw [hcount]
      rfl
    · rfl

/-! ## How many pages there are -/

theorem totalPages_eq_ceil {t : Table α} (hsize : 1 ≤ t.pageSize) :
    t.totalPages = ⌈(t.view.length / t.pageSize : ℚ)⌉₊ := by
  have hpositive : (0 : ℚ) < t.pageSize := by exact_mod_cast hsize
  refine eq_of_forall_lt_iff fun n => ?_
  rw [lt_totalPages_iff hsize, Nat.lt_ceil, lt_div_iff₀ hpositive]
  exact_mod_cast Iff.rfl

theorem rows_of_lt {t : Table α} (hsize : 1 ≤ t.pageSize) {page : Nat} (hone : 1 ≤ page)
    (hnext : page < t.totalPages) :
    t.pageSize ≤ t.view.length - (page - 1) * t.pageSize := by
  have hbelow := (lt_totalPages_iff hsize page).mp hnext
  have hmul : page * t.pageSize = (page - 1) * t.pageSize + t.pageSize := by
    rw [← Nat.succ_mul]
    congr 1
    omega
  omega

end Table

/-! ## What holds after a run -/

namespace TableRequest

open Table

variable {t : Table α} {q : TableRequest α}

/-- The pages of a table show what it was asked for. -/
structure Paged (q : TableRequest α) (t : Table α) : Prop where
  /-- The order of the rows is determined, and both ways to go through the pages show them
      in that order. -/
  rows : ∃ rows, q.Arranged rows ∧ (∀ others, q.Arranged others → others = rows) ∧
    (t.visit (List.range' 1 t.totalPages)).flatMap Table.pageRows = rows.map (·.2) ∧
    t.firstPage.leaf.flatMap Table.pageRows = rows.map (·.2)
  /-- Each page is shown when it is gone to. -/
  visited : (t.visit (List.range' 1 t.totalPages)).map (·.page) = List.range' 1 t.totalPages
  /-- The first page is shown even if it is empty. -/
  leafed : t.firstPage.leaf.map (·.page) = List.range' 1 (max 1 t.totalPages)
  count : t.totalPages = ⌈(q.kept.length / q.pageSize : ℚ)⌉₊
  full : ∀ page, 1 ≤ page → page < t.totalPages →
    (t.setPage page).pageRows.length = q.pageSize
  last : 1 ≤ t.totalPages → 1 ≤ (t.setPage t.totalPages).pageRows.length ∧
    (t.setPage t.totalPages).pageRows.length ≤ q.pageSize
  atEnd : t.canGoForward = false → t.nextPage = t
  atStart : t.canGoBack = false → t.prevPage = t

/-- The rows of the view are the records to be shown. -/
theorem Follows.rows (h : Follows t q) : t.rows = q.sortedRows.map (·.2) := by
  unfold Table.rows
  rw [h.view, List.filterMap_map, List.filterMap_eq_map_iff_forall_eq_some]
  intro p hp
  have hkept : p ∈ q.kept := List.mem_mergeSort.mp hp
  rw [h.records]
  exact (mem_kept.mp hkept).1

theorem Follows.length_pageRows_setPage (h : Follows t q) {page : Nat} (hone : 1 ≤ page)
    (hlast : page ≤ max 1 t.totalPages) :
    (t.setPage page).pageRows.length =
      min t.pageSize (t.view.length - (page - 1) * t.pageSize) := by
  have hafter : Follows (t.setPage page) (q.turnTo page) := h.setPage rfl
  have hpage : (t.setPage page).page = page := by
    rw [page_setPage, clampPage_of_le hone hlast]
  have hsize : (t.setPage page).pageSize = t.pageSize := t.pageSize_step (.setPage page)
  have hlength : (t.setPage page).view.length = t.view.length := by
    rw [hafter.length_view, h.length_view]
    rfl
  rw [hafter.length_pageRows, length_pageIndices, hpage, hsize, hlength]

/-- Going to every page by its number. -/
theorem Follows.visit_spec (h : Follows t q) (hsize : 1 ≤ t.pageSize) :
    (t.visit (List.range' 1 t.totalPages)).map (·.page) = List.range' 1 t.totalPages ∧
      (t.visit (List.range' 1 t.totalPages)).flatMap Table.pageRows =
        q.sortedRows.map (·.2) := by
  have hexist : ∀ page ∈ List.range' 1 t.totalPages, 1 ≤ page ∧ page ≤ max 1 t.totalPages := by
    intro page hmem
    rw [List.mem_range'_1] at hmem
    omega
  obtain ⟨hshown, hrows⟩ := t.flatMap_visit hexist
  refine ⟨hshown, ?_⟩
  rw [hrows, flatMap_pages hsize, h.rows]

/-- Turning the page from the first one on. -/
theorem Follows.leaf_firstPage_spec (h : Follows t q) (hsize : 1 ≤ t.pageSize) :
    t.firstPage.leaf.map (·.page) = List.range' 1 (max 1 t.totalPages) ∧
      t.firstPage.leaf.flatMap Table.pageRows = q.sortedRows.map (·.2) := by
  have hfirst : t.firstPage.page = 1 := by
    unfold firstPage
    rw [page_setPage, clampPage_of_le (Nat.le_refl 1) (Nat.le_max_left 1 _)]
  have hpages : t.firstPage.totalPages = t.totalPages := t.totalPages_setPage 1
  have hrowsOf : t.firstPage.rowsOf = t.rowsOf := t.rowsOf_setPage 1
  obtain ⟨hshown, hrows⟩ := t.firstPage.leaf_spec (by omega) (by omega)
  rw [hfirst, hpages, Nat.add_sub_cancel] at hshown
  refine ⟨hshown, ?_⟩
  rw [hrows, hshown, hrowsOf, ← h.rows, ← flatMap_pages hsize]
  rcases Nat.eq_zero_or_pos t.totalPages with hnone | hsome
  · -- the one page of an empty view has no rows
    have hview : t.view.length ≤ t.totalPages * t.pageSize := length_view_le_totalPages_mul hsize
    rw [hnone, Nat.zero_mul, Nat.le_zero, List.length_eq_zero_iff] at hview
    rw [hnone]
    simp [rowsOf, hview]
  · rw [Nat.max_eq_right hsome]

theorem Follows.nextPage_of_end (h : Follows t q) (hplaced : Placed t)
    (hend : t.canGoForward = false) : t.nextPage = t := by
  have hlast : ¬ t.page < t.totalPages := of_decide_eq_false hend
  have hone := h.one_le_page
  have hplace := hplaced.page
  have hclamp : t.clampPage (t.page + 1) = t.page := by
    unfold Table.clampPage
    omega
  unfold Table.nextPage Table.setPage
  rw [hclamp]
  exact if_pos rfl

theorem Follows.prevPage_of_start (h : Follows t q) (hstart : t.canGoBack = false) :
    t.prevPage = t := by
  have hfirst : ¬ 1 < t.page := of_decide_eq_false hstart
  have hone := h.one_le_page
  have hclamp : t.clampPage (t.page - 1) = t.page := by
    unfold Table.clampPage
    omega
  unfold Table.prevPage Table.setPage
  rw [hclamp]
  exact if_pos rfl

theorem Follows.paged (h : Follows t q) (hsize : 1 ≤ t.pageSize) (hplaced : Placed t)
    (hdata : q.HoldsData) : q.Paged t := by
  have harranged := arranged_sortedRows hdata
  obtain ⟨hvisited, hvisit⟩ := h.visit_spec hsize
  obtain ⟨hleafed, hleaf⟩ := h.leaf_firstPage_spec hsize
  constructor
  · exact ⟨q.sortedRows, harranged, fun others => arranged_unique hdata harranged, hvisit, hleaf⟩
  · exact hvisited
  · exact hleafed
  · rw [totalPages_eq_ceil hsize, h.length_view, h.pageSize]
  · intro page hone hnext
    have hrows := rows_of_lt hsize hone hnext
    rw [h.length_pageRows_setPage hone (by omega), ← h.pageSize]
    omega
  · intro hone
    have hbelow : t.totalPages - 1 < t.totalPages := by omega
    rw [lt_totalPages_iff hsize] at hbelow
    rw [h.length_pageRows_setPage hone (by omega), ← h.pageSize]
    omega
  · exact h.nextPage_of_end hplaced
  · exact h.prevPage_of_start

/-- Whatever is done to a table of any page size, and in whatever order: its pages, gone to by
    their numbers or by turning the page from the first one on, show each record that matches
    once, in the order of the rows. -/
theorem pages_show_all (columns : List (Column α)) (encode : α → Json) (pageSize : Nat)
    (inputs : List (TableInput α))
    (hdata : ((new columns encode pageSize).after inputs).HoldsData) :
    ((new columns encode pageSize).after inputs).Paged
      ((Table.new columns encode pageSize).after inputs) := by
  have hfollows := (follows_new columns encode pageSize).after inputs
  have hplaced := (follows_new columns encode pageSize).placed_after
    (placed_new columns encode pageSize) inputs
  have hsize := one_le_pageSize_after columns encode pageSize inputs
  exact hfollows.paged hsize hplaced hdata

/-- Five prices, of which three match, sorted upwards on pages of two. -/
theorem pages_show_all_prices :
    let columns := [{ label := "Price", accessor := .field "price", sortable := true }]
    let record (price : Int) (unit : String) : Json :=
      .object [("price", .number (.integer price)), ("unit", .text unit)]
    let inputs := [.setRecords [record 7 "EUR", record 12 "USD", record 9 "eur", record 3 "TRY",
      record 7 "Eur"], .setSearch "eur", .toggleSort 0, .lastPage]
    let q := (new columns id 2).after inputs
    q.HoldsData ∧ q.Paged ((Table.new columns id 2).after inputs) := by
  intro columns record inputs q
  have hdata : q.HoldsData := by decide
  exact ⟨hdata, pages_show_all columns id 2 inputs hdata⟩

example :
    let t := (Table.new [] Json.text 2).after [.setRecords ["a", "b", "c", "d", "e"], .lastPage]
    (t.visit [1, 2, 3]).map pageRows = [["a", "b"], ["c", "d"], ["e"]] := by
  cbv

end TableRequest

end CatalogDesk
