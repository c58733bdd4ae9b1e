import CatalogDesk.Table.Order
import CatalogDesk.Text.Case

/-! # Tables

    A table shows records that are all in memory: it searches them, sorts them by one
    column and cuts them into pages.  What is shown is kept as a list of positions in
    the records, the view, which every change of records, term or sort forms anew.

    Main definitions: `Table.refresh` forms the view, `Table.pageRows` is what the
    current page shows, `Table.selected?` is the record that actions apply to. -/

namespace CatalogDesk

/-- What a column shows of a record. -/
inductive Accessor (α : Type) where
  /-- A field of the record as data. -/
  | field (key : String)
  /-- A text computed from the record. -/
  | computed (text : α → String)

/-- A column of a table. -/
structure Column (α : Type) where
  label : String
  accessor : Accessor α
  sortable : Bool := false
  /-- Width in cells; columns without one share what is left. -/
  width : Option Nat := none

/-- The direction of a sort. -/
inductive SortDirection where
  | ascending | descending
  deriving DecidableEq, Inhabited, Repr

/-- A place in the row of page numbers. -/
inductive PageButton where
  | page (n : Nat)
  | ellipsis
  deriving DecidableEq, Inhabited, Repr

/-- A table of records of one type. -/
structure Table (α : Type) where
  columns : List (Column α)
  /-- The record as data: what is searched, and what columns read. -/
  encode : α → Json
  /-- Rows of a page, at least one. -/
  pageSize : Nat
  emptyMessage : String := "No data available"
  records : List α := []
  /-- Positions of the records that are shown, in the order in which they are shown. -/
  view : List Nat := []
  search : String := ""
  sort : Option (Nat × SortDirection) := none
  /-- The current page, counted from one. -/
  page : Nat := 1
  loading : Bool := false
  /-- The selected row of the current page. -/
  selected : Nat := 0

namespace Table

variable {α : Type}

def new (columns : List (Column α)) (encode : α → Json) (pageSize : Nat) : Table α :=
  { columns, encode, pageSize := max pageSize 1 }

/-! ## Forming the view -/

/-- Does one of the characters' tails start with the needle? -/
def containsChars (needle : List Char) : List Char → Bool
  | [] => needle.isEmpty
  | c :: cs => needle.isPrefixOf (c :: cs) || containsChars needle cs

/-- Does the text contain the needle when both are in lower case? -/
def textMatches (needle : String) (text : String) : Bool :=
  containsChars needle.toList (Text.toLower text).toList

/-- Does one field of the record, or the record as a whole if it has none, contain the
    needle? -/
def valueMatches (needle : String) : Json → Bool
  | .object members => members.any fun m => textMatches needle (cellText m.2)
  | v => textMatches needle (cellText v)

/-- What a column shows of a record, as the value to sort by. -/
def sortKey (t : Table α) (c : Column α) (r : α) : Json :=
  match c.accessor with
  | .field key => ((t.encode r).get? key).getD .null
  | .computed text => .text (text r)

/-- The comparison of a sort; descending order reverses it. -/
def inOrder (direction : SortDirection) (a b : Json) : Bool :=
  match direction with
  | .ascending => compareValues a b != .gt
  | .descending => (compareValues a b).swap != .gt

/-- Positions sorted by the keys that belong to them; ties keep their order. -/
def sortByKey (direction : SortDirection) (keyed : List (Nat × Json)) : List Nat :=
  (keyed.mergeSort fun a b => inOrder direction a.2 b.2).map (·.1)

/-- The positions of the records that contain the term. -/
def matching (t : Table α) : List (Nat × α) :=
  let needle := Text.toLower t.search
  (t.records.zipIdx.map fun p => (p.2, p.1)).filter fun p =>
    needle = "" || valueMatches needle (t.encode p.2)

/-- The view that belongs to records, term and sort. -/
def freshView (t : Table α) : List Nat :=
  match t.sort with
  | none => t.matching.map (·.1)
  | some (column, direction) =>
    match t.columns[column]? with
    | none => t.matching.map (·.1)
    | some c => sortByKey direction (t.matching.map fun p => (p.1, t.sortKey c p.2))

/-- Forms the view anew. -/
def refresh (t : Table α) : Table α :=
  { t with view := t.freshView }

/-! ## Pages -/

/-- How many pages the view fills; none when it is empty. -/
def totalPages (t : Table α) : Nat :=
  (t.view.length + t.pageSize - 1) / t.pageSize

/-- The page number moved into the pages that exist. -/
def clampPage (t : Table α) (page : Nat) : Nat :=
  min (max page 1) (max t.totalPages 1)

/-- The positions on the current page. -/
def pageIndices (t : Table α) : List Nat :=
  (t.view.drop ((t.page - 1) * t.pageSize)).take t.pageSize

/-- The records on the current page. -/
def pageRows (t : Table α) : List α :=
  t.pageIndices.filterMap fun i => t.records[i]?

def canGoBack (t : Table α) : Bool :=
  1 < t.page

def canGoForward (t : Table α) : Bool :=
  t.page < t.totalPages

/-- Goes to a page; the selection starts at its top if it is another page. -/
def setPage (t : Table α) (page : Nat) : Table α :=
  let page := t.clampPage page
  if page = t.page then t else { t with page, selected := 0 }

def firstPage (t : Table α) : Table α := t.setPage 1

def prevPage (t : Table α) : Table α := t.setPage (t.page - 1)

def nextPage (t : Table α) : Table α := t.setPage (t.page + 1)

def lastPage (t : Table α) : Table α := t.setPage t.totalPages

/-! ## Changes -/

/-- The selection moved onto the rows that exist. -/
def clampSelection (t : Table α) : Table α :=
  { t with selected := min t.selected (t.pageIndices.length - 1) }

/-- Replaces the records and ends loading; page and selection stay where they can. -/
def setRecords (t : Table α) (records : List α) : Table α :=
  let t := { t with records, loading := false }.refresh
  { t with page := t.clampPage t.page }.clampSelection

def setLoading (t : Table α) (loading : Bool) : Table α :=
  { t with loading }

/-- Searches for a term and goes to the first page. -/
def setSearch (t : Table α) (term : String) : Table α :=
  { t with search := term, page := 1, selected := 0 }.refresh

/-- The sort after a column was chosen: ascending, descending, unsorted, in turn. -/
def nextSort (sort : Option (Nat × SortDirection)) (column : Nat) :
    Option (Nat × SortDirection) :=
  match sort with
  | some (active, .ascending) =>
    if active = column then some (column, .descending) else some (column, .ascending)
  | some (active, .descending) =>
    if active = column then none else some (column, .ascending)
  | none => some (column, .ascending)

/-- Is the column one that can be sorted by? -/
def isSortable (t : Table α) (column : Nat) : Bool :=
  (t.columns[column]?).any (·.sortable)

/-- Chooses a column to sort by. -/
def toggleSort (t : Table α) (column : Nat) : Table α :=
  if t.isSortable column then { t with sort := nextSort t.sort column }.refresh else t

def selectNext (t : Table α) : Table α :=
  let rows := t.pageIndices.length
  if 0 < rows then { t with selected := min (t.selected + 1) (rows - 1) } else t

def selectPrev (t : Table α) : Table α :=
  { t with selected := t.selected - 1 }

/-! ## What is shown -/

/-- The direction of a column's sort, if it is the active one. -/
def sortDirection? (t : Table α) (column : Nat) : Option SortDirection :=
  match t.sort with
  | some (active, direction) => if active = column then some direction else none
  | none => none

/-- The text of a cell. -/
def cell (t : Table α) (c : Column α) (r : α) : String :=
  match c.accessor with
  | .field key => (((t.encode r).get? key).map cellText).getD ""
  | .computed text => text r

/-- The cells of the current page. -/
def pageCells (t : Table α) : List (List String) :=
  t.pageRows.map fun r => t.columns.map fun c => t.cell c r

/-- Rows to draw in place of data while records are loaded. -/
def placeholderRows (t : Table α) : Nat :=
  if t.loading then t.pageSize else 0

def showsEmptyState (t : Table α) : Bool :=
  !t.loading && t.view.isEmpty

/-- How many rows the page has, of how many that match. -/
def summary (t : Table α) : String :=
  "Showing " ++ toString t.pageIndices.length ++ " of " ++ toString t.view.length ++ " entries"

/-- The page numbers to offer: the first, the last, the current and its neighbours,
    with an ellipsis two pages away from the current one. -/
def pageButtons (t : Table α) : List PageButton :=
  let total := t.totalPages
  (List.range' 1 total).filterMap fun page =>
    let distance := (page - t.page) + (t.page - page)
    if page = 1 || page = total || distance ≤ 1 then some (.page page)
    else if distance = 2 then some .ellipsis
    else none

/-- The record that actions apply to; none while records are loaded. -/
def selected? (t : Table α) : Option α :=
  if t.loading then none else (t.pageIndices[t.selected]?).bind fun i => t.records[i]?

end Table

end CatalogDesk
