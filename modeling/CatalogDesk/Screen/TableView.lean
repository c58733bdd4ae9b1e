import CatalogDesk.Draw.Grid
import CatalogDesk.Draw.Prose
import CatalogDesk.Screen.Palette
import CatalogDesk.Table.Basic

/-! # Drawing a table

    The current page of a table in a frame, with the sort next to the labels, the
    summary below and, when there is more than one page, a row of page numbers. -/

namespace CatalogDesk

open Draw

/-- A table as it is drawn. -/
structure TableView (α : Type) where
  table : Table α
  title : String
  focused : Bool

namespace TableView

variable {α : Type}

/-- What stands in a cell while records are loaded. -/
def skeleton : String := "░░░░░░░░"

/-- The label of a column with the direction in which it is sorted. -/
def heading (t : Table α) (i : Nat) (c : Column α) : String :=
  c.label ++ match t.sortDirection? i with
    | some .ascending => " ▲"
    | some .descending => " ▼"
    | none => if c.sortable then " ↕" else ""

/-- The row of labels. -/
def header (t : Table α) : GridRow where
  cells := ((List.range t.columns.length).zip t.columns).map fun (i, c) => heading t i c
  style := (Style.colored Palette.accent).bold

/-- The widths that the columns ask for. -/
def shares (t : Table α) : List Share :=
  t.columns.map fun c => match c.width with
    | some n => .exactly n
    | none => .growing 1

/-- The page numbers between arrows. -/
def pagination (t : Table α) : Line :=
  let enabled := Style.colored Palette.text
  let arrow (on : Bool) := if on then enabled else Palette.mutedStyle
  let button : PageButton → Span
    | .page n =>
      if n == t.page then ⟨"[" ++ toString n ++ "]", Palette.selectedStyle⟩
      else ⟨" " ++ toString n ++ " ", enabled⟩
    | .ellipsis => ⟨" … ", Palette.mutedStyle⟩
  { spans := ⟨"« ‹ ", arrow t.canGoBack⟩ :: t.pageButtons.map button ++
      [⟨" › »", arrow t.canGoForward⟩] }

/-- The rows to draw, as far as there is room for them: the selected one is highlighted
    if the table has the focus. -/
def rows (v : TableView α) (room : Nat) : List GridRow :=
  let t := v.table
  if t.loading then
    List.replicate (min t.placeholderRows room)
      ⟨t.columns.map fun _ => skeleton, Palette.mutedStyle⟩
  else
    ((List.range t.pageCells.length).zip t.pageCells).map fun (i, cells) =>
      ⟨cells, if v.focused && i == t.selected then Palette.selectedStyle else {}⟩

/-- The frame with title and summary. -/
def frame (v : TableView α) : Frame where
  title := Line.ofText (" " ++ v.title ++ " ")
  footRight := some (Line.ofText (" " ++ v.table.summary ++ " "))
  border := Palette.borderStyle v.focused

/-- Draws the table. -/
def draw (v : TableView α) : Drawing := fun a s =>
  let part := a.within.downward [.growing 1, .exactly 1]
  let s := v.frame.draw a s
  if v.table.showsEmptyState then
    let middle := (part 0).downward [.growing 1, .exactly 1, .growing 1] 1
    Prose.draw
      { Prose.ofText v.table.emptyMessage Palette.mutedStyle with placement := .center } middle s
  else
    let grid : Grid :=
      { header := header v.table, rows := v.rows a.height, columns := shares v.table }
    let s := grid.draw (part 0) s
    if 1 < v.table.totalPages then
      Prose.draw { lines := [pagination v.table], placement := .center } (part 1) s
    else s

end TableView

end CatalogDesk
