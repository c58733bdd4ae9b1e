import CatalogDesk.Proofs.Table.Order
import Mathlib.Data.List.Basic

/-! # What a table shows

    A table keeps the positions of the rows it shows, and every operation has to form them
    anew when it changes what they depend on.  `TableRequest` keeps nothing of the kind: it
    is what the table was asked for, that is records, term, sort and page, and says from
    these alone which rows are to be shown and in which order.

    The order is that of a stable sort: rows with smaller values come first, and rows whose
    values tie stand as in the records.  There is only one such list (`arranged_unique`).

    Main result: `shows_request` says that a table shows the page of that list, after any
    operations. -/

namespace CatalogDesk

/-! ## Operating a table -/

/-- What is done to a table. -/
inductive TableInput (α : Type) where
  | setRecords (records : List α)
  | setLoading (loading : Bool)
  | setSearch (term : String)
  | toggleSort (column : Nat)
  | setPage (page : Nat)
  | firstPage
  | prevPage
  | nextPage
  | lastPage
  | selectNext
  | selectPrev

variable {α : Type}

namespace Table

def step (t : Table α) : TableInput α → Table α
  | .setRecords records => t.setRecords records
  | .setLoading loading => t.setLoading loading
  | .setSearch term => t.setSearch term
  | .toggleSort column => t.toggleSort column
  | .setPage page => t.setPage page
  | .firstPage => t.firstPage
  | .prevPage => t.prevPage
  | .nextPage => t.nextPage
  | .lastPage => t.lastPage
  | .selectNext => t.selectNext
  | .selectPrev => t.selectPrev

def after (t : Table α) (inputs : List (TableInput α)) : Table α :=
  inputs.foldl step t

end Table

/-! ## What it is asked for -/

/-- The values whose texts are searched. -/
def Json.searched : Json → List Json
  | .object members => members.map (·.2)
  | v => [v]

/-- Is the term found in the value, whatever the case of the letters? -/
def Json.Mentions (v : Json) (term : String) : Prop :=
  ∃ part ∈ v.searched,
    (Text.toLower term).toList <:+: (Text.toLower (Table.cellText part)).toList

/-- What a table was asked for. -/
structure TableRequest (α : Type) where
  columns : List (Column α)
  encode : α → Json
  /-- Rows of a page, at least one. -/
  pageSize : Nat
  records : List α := []
  term : String := ""
  sort : Option (Nat × SortDirection) := none
  page : Nat := 1

namespace Table

theorem containsChars_iff (needle cs : List Char) :
    containsChars needle cs = true ↔ needle <:+: cs := by
  induction cs with
  | nil => simp [containsChars]
  | cons c cs ih =>
    rw [containsChars, Bool.or_eq_true, ih, List.isPrefixOf_iff_prefix, List.infix_cons_iff]

theorem textMatches_iff (needle text : String) :
    textMatches needle text = true ↔ needle.toList <:+: (Text.toLower text).toList :=
  containsChars_iff _ _

theorem valueMatches_iff (term : String) (v : Json) :
    valueMatches (Text.toLower term) v = true ↔ v.Mentions term := by
  cases v with
  | object members =>
    simp only [valueMatches, Json.Mentions, Json.searched, List.any_eq_true, textMatches_iff]
    constructor
    · rintro ⟨m, hm, hinfix⟩
      exact ⟨m.2, List.mem_map_of_mem hm, hinfix⟩
    · rintro ⟨part, hpart, hinfix⟩
      obtain ⟨m, hm, rfl⟩ := List.mem_map.mp hpart
      exact ⟨m, hm, hinfix⟩
  | _ => simp [valueMatches, Json.Mentions, Json.searched, textMatches_iff]

end Table

namespace TableRequest

def new (columns : List (Column α)) (encode : α → Json) (pageSize : Nat) : TableRequest α :=
  { columns, encode, pageSize := max pageSize 1 }

def Keeps (q : TableRequest α) (r : α) : Prop :=
  q.term = "" ∨ (q.encode r).Mentions q.term

instance (q : TableRequest α) (r : α) : Decidable (q.Keeps r) :=
  have : Decidable ((q.encode r).Mentions q.term) :=
    decidable_of_iff _ (Table.valueMatches_iff q.term (q.encode r))
  inferInstanceAs (Decidable (_ ∨ _))

/-- The records to be shown with their positions, in the order of the records. -/
def kept (q : TableRequest α) : List (Nat × α) :=
  (q.records.zipIdx.map fun p => (p.2, p.1)).filter fun p => q.Keeps p.2

/-- The column that is sorted by, and how. -/
def active? (q : TableRequest α) : Option (Column α × SortDirection) :=
  q.sort.bind fun (column, direction) => q.columns[column]?.map (·, direction)

def value (q : TableRequest α) (c : Column α) (r : α) : Json :=
  match c.accessor with
  | .field key => ((q.encode r).get? key).getD .null
  | .computed text => .text (text r)

/-- Rows compare by their values in the active column; without one they all tie. -/
def compareRows (q : TableRequest α) (a b : α) : Ordering :=
  match q.active? with
  | none => .eq
  | some (c, direction) => direction.orient (Table.compareValues (q.value c a) (q.value c b))

/-- Which row comes first?  Those that tie come in the order of the records. -/
def Precedes (q : TableRequest α) (a b : Nat × α) : Prop :=
  q.compareRows a.2 b.2 = .lt ∨ q.compareRows a.2 b.2 = .eq ∧ a.1 < b.1

/-- The rows to be shown on all pages. -/
structure Arranged (q : TableRequest α) (rows : List (Nat × α)) : Prop where
  perm : rows.Perm q.kept
  sorted : rows.Pairwise q.Precedes

/-- The rows of the current page. -/
def onPage (q : TableRequest α) (rows : List (Nat × α)) : List (Nat × α) :=
  (rows.take (q.page * q.pageSize)).drop ((q.page - 1) * q.pageSize)

/-! ### Requests made one after the other -/

/-- How many pages there are; none when there are no rows. -/
def pages (q : TableRequest α) : Nat :=
  (q.kept.length + q.pageSize - 1) / q.pageSize

/-- The nearest page that exists, or the first. -/
def turnTo (q : TableRequest α) (page : Nat) : TableRequest α :=
  { q with page := min (max page 1) (max q.pages 1) }

def step (q : TableRequest α) : TableInput α → TableRequest α
  | .setRecords records => { q with records }.turnTo q.page
  | .setSearch term => { q with term, page := 1 }
  | .toggleSort column =>
    if (q.columns[column]?).any (·.sortable) then
      { q with sort := Table.nextSort q.sort column }
    else q
  | .setPage page => q.turnTo page
  | .firstPage => q.turnTo 1
  | .prevPage => q.turnTo (q.page - 1)
  | .nextPage => q.turnTo (q.page + 1)
  | .lastPage => q.turnTo q.pages
  | .setLoading _ => q
  | .selectNext => q
  | .selectPrev => q

def after (q : TableRequest α) (inputs : List (TableInput α)) : TableRequest α :=
  inputs.foldl step q

/-- The table shows what was asked for. -/
structure Shown (q : TableRequest α) (t : Table α) : Prop where
  records : t.records = q.records
  term : t.search = q.term
  sort : t.sort = q.sort
  page : t.page = q.page
  /-- The order of the rows is determined, and they are those of the table. -/
  rows : ∃ rows, q.Arranged rows ∧ (∀ others, q.Arranged others → others = rows) ∧
    t.view = rows.map (·.1) ∧
    t.pageRows = (q.onPage rows).map (·.2) ∧
    t.summary = "Showing " ++ toString (q.onPage rows).length ++ " of " ++
      toString q.kept.length ++ " entries"

/-! ## There is one arrangement -/

theorem mem_kept {q : TableRequest α} {p : Nat × α} :
    p ∈ q.kept ↔ q.records[p.1]? = some p.2 ∧ q.Keeps p.2 := by
  obtain ⟨i, r⟩ := p
  have hplace : (i, r) ∈ q.records.zipIdx.map (fun p => (p.2, p.1)) ↔ q.records[i]? = some r := by
    rw [← List.mk_mem_zipIdx_iff_getElem?]
    constructor
    · intro hmem
      obtain ⟨p, hp, heq⟩ := List.mem_map.mp hmem
      cases heq
      exact hp
    · intro hmem
      exact List.mem_map.mpr ⟨(r, i), hmem, rfl⟩
  rw [kept, List.mem_filter, hplace, decide_eq_true_eq]

theorem pairwise_kept (q : TableRequest α) : q.kept.Pairwise fun a b => a.1 < b.1 := by
  have hpositions : (q.records.zipIdx.map fun p => (p.2, p.1)).Pairwise fun a b => a.1 < b.1 := by
    have hrange := List.pairwise_lt_range' (s := 0) (n := q.records.length) 1
    rw [← List.zipIdx_map_snd, List.pairwise_map] at hrange
    exact List.pairwise_map.mpr hrange
  exact hpositions.filter _

variable {q : TableRequest α}

theorem isData_value (c : Column α) {r : α} (hr : (q.encode r).isData = true) :
    (q.value c r).isData = true := by
  unfold value
  cases c.accessor with
  | computed text => rfl
  | field key => exact Json.isData_getD hr key

/-- The comparison of rows, told by what their values weigh. -/
def weighRows (q : TableRequest α) (a b : α) : Ordering :=
  match q.active? with
  | none => .eq
  | some (c, direction) => direction.orient (Table.weigh (q.value c a) (q.value c b))

theorem compareRows_eq_weighRows {a b : α} (ha : (q.encode a).isData = true)
    (hb : (q.encode b).isData = true) : q.compareRows a b = q.weighRows a b := by
  unfold compareRows weighRows
  cases q.active? with
  | none => rfl
  | some active =>
    obtain ⟨c, direction⟩ := active
    exact congrArg direction.orient
      (Table.compareValues_eq_weigh (isData_value c ha) (isData_value c hb))

instance transCmp_weighRows (q : TableRequest α) :
    Std.TransCmp fun a b : Nat × α => q.weighRows a.2 b.2 := by
  unfold weighRows
  cases q.active? with
  | none => exact { eq_swap := rfl, isLE_trans := fun _ _ => rfl }
  | some active =>
    obtain ⟨c, direction⟩ := active
    exact Table.transCmp_on (fun v w => direction.orient (Table.weigh v w))
      (fun a : Nat × α => q.value c a.2)

/-- Have the records to be shown no NaN? -/
def HoldsData (q : TableRequest α) : Prop :=
  ∀ r ∈ q.records, (q.encode r).isData = true

instance (q : TableRequest α) : Decidable q.HoldsData :=
  inferInstanceAs (Decidable (∀ r ∈ q.records, (q.encode r).isData = true))

theorem HoldsData.of_mem_kept (h : q.HoldsData) {p : Nat × α} (hp : p ∈ q.kept) :
    (q.encode p.2).isData = true :=
  h p.2 (List.mem_of_getElem? (mem_kept.mp hp).1)

theorem not_precedes_of_precedes {a b : Nat × α} (ha : (q.encode a.2).isData = true)
    (hb : (q.encode b.2).isData = true) (hab : q.Precedes a b) : ¬ q.Precedes b a := by
  unfold Precedes at *
  rw [compareRows_eq_weighRows ha hb] at hab
  have hswap : q.weighRows b.2 a.2 = (q.weighRows a.2 b.2).swap := q.transCmp_weighRows.eq_swap
  rw [compareRows_eq_weighRows hb ha, hswap]
  rcases hab with hlt | ⟨heq, hpos⟩
  · simp [hlt]
  · simp [heq]
    omega

theorem arranged_unique (h : q.HoldsData) {rows others : List (Nat × α)}
    (hrows : q.Arranged rows) (hothers : q.Arranged others) : others = rows := by
  refine List.Perm.eq_of_pairwise ?_ hothers.sorted hrows.sorted
    (hothers.perm.trans hrows.perm.symm)
  intro a b ha hb hab hba
  have hdata := h.of_mem_kept (hothers.perm.mem_iff.mp ha)
  have hdata' := h.of_mem_kept (hrows.perm.mem_iff.mp hb)
  exact absurd hba (not_precedes_of_precedes hdata hdata' hab)

/-! ## The table forms it -/

/-- The rows in the order in which a table sorts them. -/
def sortedRows (q : TableRequest α) : List (Nat × α) :=
  q.kept.mergeSort fun a b => (q.compareRows a.2 b.2).isLE

/-- On records without NaN the comparison is the one that is known to be an order. -/
theorem sortedRows_eq_mergeSort (h : q.HoldsData) :
    q.sortedRows = q.kept.mergeSort fun a b => (q.weighRows a.2 b.2).isLE := by
  have hmap := List.map_mergeSort (l := q.kept) (f := id)
    (r := fun a b => (q.compareRows a.2 b.2).isLE)
    (s := fun a b => (q.weighRows a.2 b.2).isLE)
    (fun a ha b hb => by
      rw [compareRows_eq_weighRows (h.of_mem_kept ha) (h.of_mem_kept hb)]
      rfl)
  rwa [List.map_id, List.map_id] at hmap

theorem arranged_sortedRows (h : q.HoldsData) : q.Arranged q.sortedRows where
  perm := List.mergeSort_perm _ _
  sorted := by
    have hties := Table.pairwise_mergeSort_ties (fun a b => q.weighRows a.2 b.2) q.pairwise_kept
    rw [← sortedRows_eq_mergeSort h] at hties
    refine hties.imp_of_mem fun {a b} ha hb hab => ?_
    have hdata := h.of_mem_kept (List.mem_mergeSort.mp ha)
    have hdata' := h.of_mem_kept (List.mem_mergeSort.mp hb)
    rw [Precedes, compareRows_eq_weighRows hdata hdata']
    exact hab

end TableRequest

namespace Text

theorem lowerChar_ne_nil (c : Char) : lowerChar c ≠ [] := by
  have hsequences : ∀ p ∈ lowerSequences, p.2 ≠ [] := by decide
  unfold lowerChar mapCase
  split
  · simp
  · split
    · rename_i hfind
      simpa using hsequences _ (List.mem_of_find?_eq_some hfind)
    · split <;> simp

/-- No text loses all its letters. -/
theorem toLower_eq_empty_iff (s : String) : toLower s = "" ↔ s = "" := by
  have hlower : lowerFrom [] s.toList = [] ↔ s.toList = [] := by
    cases s.toList with
    | nil => simp [lowerFrom]
    | cons c rest =>
      simp only [lowerFrom, reduceCtorEq, iff_false, List.append_eq_nil_iff, not_and]
      split
      · split <;> simp
      · simp [lowerChar_ne_nil]
  simpa [toLower] using hlower

end Text

namespace TableRequest

/-- The table has been asked for the same rows. -/
structure Asks (t : Table α) (q : TableRequest α) : Prop where
  columns : t.columns = q.columns
  encode : t.encode = q.encode
  records : t.records = q.records
  term : t.search = q.term
  sort : t.sort = q.sort

variable {t : Table α} {q : TableRequest α}

theorem Asks.matching (h : Asks t q) : t.matching = q.kept := by
  unfold Table.matching kept
  rw [h.records, h.encode, h.term]
  refine List.filter_congr fun p _ => ?_
  rw [Bool.eq_iff_iff, Bool.or_eq_true, Table.valueMatches_iff, decide_eq_true_eq,
    decide_eq_true_eq, Text.toLower_eq_empty_iff]
  rfl

theorem sortedRows_of_inactive (hactive : q.active? = none) : q.sortedRows = q.kept := by
  refine List.mergeSort_of_pairwise (List.pairwise_iff_forall_sublist.mpr fun _ => ?_)
  simp [compareRows, hactive]

theorem Asks.sortKey (h : Asks t q) (c : Column α) : t.sortKey c = q.value c := by
  funext r
  unfold Table.sortKey value
  cases c.accessor <;> simp only [h.encode]

theorem Asks.freshView (h : Asks t q) : t.freshView = q.sortedRows.map (·.1) := by
  unfold Table.freshView
  rw [h.matching, h.sort, h.columns]
  split
  · rename_i hsort
    rw [sortedRows_of_inactive (by simp [active?, hsort])]
  · rename_i column direction hsort
    split
    · rename_i hcolumn
      rw [sortedRows_of_inactive (by simp [active?, hsort, hcolumn])]
    · rename_i c hcolumn
      have hactive : q.active? = some (c, direction) := by simp [active?, hsort, hcolumn]
      rw [Table.sortByKey, h.sortKey, ← List.map_mergeSort (r := fun a b =>
        (q.compareRows a.2 b.2).isLE), List.map_map]
      · rfl
      · intro a _ b _
        rw [Table.inOrder_eq, compareRows, hactive]

/-- The table has been asked for the same page of the same rows, and its view is that of
    these rows. -/
structure Follows (t : Table α) (q : TableRequest α) : Prop extends Asks t q where
  pageSize : t.pageSize = q.pageSize
  page : t.page = q.page
  fromOne : 1 ≤ q.page
  view : t.view = q.sortedRows.map (·.1)

theorem Follows.length_view (h : Follows t q) : t.view.length = q.kept.length := by
  rw [h.view, List.length_map, sortedRows, List.length_mergeSort]

theorem Follows.totalPages (h : Follows t q) : t.totalPages = q.pages := by
  rw [Table.totalPages, h.length_view, h.pageSize, pages]

theorem Follows.clampPage (h : Follows t q) {m n : Nat} (hmn : m = n) :
    t.clampPage m = (q.turnTo n).page := by
  rw [Table.clampPage, h.totalPages, hmn, turnTo]

theorem fromOne_turnTo (q : TableRequest α) (page : Nat) : 1 ≤ (q.turnTo page).page := by
  simp only [turnTo]
  omega

theorem Follows.setPage (h : Follows t q) {m n : Nat} (hmn : m = n) :
    Follows (t.setPage m) (q.turnTo n) := by
  have hpage := h.clampPage hmn
  have hone := fromOne_turnTo q n
  unfold Table.setPage
  simp only
  split
  · rename_i hsame
    exact { h with page := hsame.symm.trans hpage, fromOne := hone, view := h.view }
  · exact { h with page := hpage, fromOne := hone, view := h.view }

/-- Asking for other rows is followed by a refresh. -/
theorem Asks.follows_refresh (h : Asks t q) (hpageSize : t.pageSize = q.pageSize)
    (hpage : t.page = q.page) (hone : 1 ≤ q.page) : Follows t.refresh q :=
  { h with pageSize := hpageSize, page := hpage, fromOne := hone, view := h.freshView }

theorem follows_new (columns : List (Column α)) (encode : α → Json) (pageSize : Nat) :
    Follows (Table.new columns encode pageSize) (new columns encode pageSize) where
  columns := rfl
  encode := rfl
  records := rfl
  term := rfl
  sort := rfl
  pageSize := rfl
  page := rfl
  fromOne := Nat.le_refl 1
  view := by simp [Table.new, sortedRows, kept, new]

theorem Follows.step (h : Follows t q) (input : TableInput α) :
    Follows (t.step input) (q.step input) := by
  cases input with
  | setRecords records =>
    have hasks : Asks { t with records, loading := false } { q with records } :=
      { h with records := rfl }
    have hfresh := hasks.follows_refresh h.pageSize h.page h.fromOne
    -- the page is moved only when the view is that of the new records
    exact { hfresh with page := hfresh.clampPage h.page, fromOne := fromOne_turnTo _ _ }
  | setLoading loading => exact { h with }
  | setSearch term =>
    have hasks : Asks { t with search := term, page := 1, selected := 0 }
        { q with term, page := 1 } := { h with term := rfl }
    exact hasks.follows_refresh h.pageSize rfl (Nat.le_refl 1)
  | toggleSort column =>
    have hsortable : t.isSortable column = (q.columns[column]?).any (·.sortable) := by
      rw [Table.isSortable, h.columns]
    simp only [Table.step, Table.toggleSort, TableRequest.step, hsortable, h.sort]
    split
    · have hasks : Asks { t with sort := Table.nextSort q.sort column }
          { q with sort := Table.nextSort q.sort column } := { h with sort := rfl }
      exact hasks.follows_refresh h.pageSize h.page h.fromOne
    · exact h
  | setPage page => exact h.setPage rfl
  | firstPage => exact h.setPage rfl
  | prevPage => exact h.setPage (congrArg (· - 1) h.page)
  | nextPage => exact h.setPage (congrArg (· + 1) h.page)
  | lastPage => exact h.setPage h.totalPages
  | selectNext =>
    simp only [Table.step, Table.selectNext]
    split
    · exact { h with }
    · exact h
  | selectPrev => exact { h with }

theorem Follows.after (h : Follows t q) (inputs : List (TableInput α)) :
    Follows (t.after inputs) (q.after inputs) := by
  induction inputs generalizing t q with
  | nil => exact h
  | cons input rest ih => exact ih (h.step input)

/-! ## What is shown -/

theorem onPage_eq (hone : 1 ≤ q.page) (rows : List (Nat × α)) :
    q.onPage rows = (rows.drop ((q.page - 1) * q.pageSize)).take q.pageSize := by
  have hend : q.page * q.pageSize = (q.page - 1) * q.pageSize + q.pageSize := by
    rw [← Nat.succ_mul]
    congr 1
    omega
  rw [onPage, List.drop_take, hend, Nat.add_sub_cancel_left]

theorem Follows.pageIndices (h : Follows t q) :
    t.pageIndices = (q.onPage q.sortedRows).map (·.1) := by
  rw [onPage_eq h.fromOne, Table.pageIndices, h.view, h.page, h.pageSize, List.map_take,
    List.map_drop]

theorem Follows.pageRows (h : Follows t q) :
    t.pageRows = (q.onPage q.sortedRows).map (·.2) := by
  have hplaces : ∀ p ∈ q.onPage q.sortedRows, t.records[p.1]? = some p.2 := by
    intro p hp
    have hsorted : p ∈ q.sortedRows := List.mem_of_mem_take (List.mem_of_mem_drop hp)
    have hkept : p ∈ q.kept := List.mem_mergeSort.mp hsorted
    rw [h.records]
    exact (mem_kept.mp hkept).1
  rw [Table.pageRows, h.pageIndices, List.filterMap_map,
    List.filterMap_eq_map_iff_forall_eq_some]
  exact hplaces

theorem Follows.shown (h : Follows t q) (hdata : q.HoldsData) : q.Shown t where
  records := h.records
  term := h.term
  sort := h.sort
  page := h.page
  rows := by
    have harranged := arranged_sortedRows hdata
    refine ⟨q.sortedRows, harranged, fun others => arranged_unique hdata harranged, h.view,
      h.pageRows, ?_⟩
    rw [Table.summary, h.pageIndices, List.length_map, h.length_view]

/-- A table shows what it was last asked for, if its records have no NaN. -/
theorem shows_request (columns : List (Column α)) (encode : α → Json) (pageSize : Nat)
    (inputs : List (TableInput α))
    (hdata : ((new columns encode pageSize).after inputs).HoldsData) :
    ((new columns encode pageSize).after inputs).Shown
      ((Table.new columns encode pageSize).after inputs) :=
  ((follows_new columns encode pageSize).after inputs).shown hdata

/-- Prices searched, sorted downwards and turned over. -/
theorem shows_request_prices :
    let columns := [{ label := "Price", accessor := .field "price", sortable := true }]
    let record (price : Int) (unit : String) : Json :=
      .object [("price", .number (.integer price)), ("unit", .text unit)]
    let inputs := [.setRecords [record 7 "EUR", record 12 "eur", record 9 "USD", record 12 "EUR"],
      .setSearch "Eur", .toggleSort 0, .toggleSort 0, .nextPage]
    ((new columns id 2).after inputs).Shown ((Table.new columns id 2).after inputs) :=
  shows_request _ _ _ _ (by decide)

example :
    let record (name unit : String) : Json := .object [("name", .text name), ("unit", .text unit)]
    let t := (Table.new [{ label := "Unit", accessor := .field "unit", sortable := true }] id
      2).after [.setRecords [record "c" "m", record "b" "M", record "x" "s", record "a" "M"],
        .setSearch "m", .toggleSort 0, .nextPage]
    t.view = [1, 3, 0] ∧ t.pageCells = [["m"]] ∧ t.summary = "Showing 1 of 3 entries" := by
  cbv

end TableRequest

end CatalogDesk
