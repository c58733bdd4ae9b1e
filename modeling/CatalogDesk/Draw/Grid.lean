import CatalogDesk.Draw.Line
import CatalogDesk.Draw.Area

/-! # Grids

    Rows of cells under a row of headings, in columns two cells apart.  Each cell shows
    its first line. -/

namespace CatalogDesk.Draw

/-- A row of texts in one style. -/
structure GridRow where
  cells : List String
  style : Style := {}

/-- Rows under a row of headings. -/
structure Grid where
  header : GridRow
  rows : List GridRow
  columns : List Share

namespace Grid

/-- Draws a text as a cell: its first line. -/
def drawCell (text : String) (a : Area) (s : Surface) : Surface :=
  match Line.ofTextLines text with
  | [] => s
  | l :: _ => l.draw a s

/-- Draws one row of cells at the top of an area. -/
def drawRow (row : GridRow) (columns : List (Nat × Nat)) (a : Area) (s : Surface) : Surface :=
  let a := a.row 0
  let s := s.wash a row.style
  (row.cells.zip columns).foldl (fun s (text, x, width) =>
    drawCell text { a with x := a.x + x, width } s) s

/-- Draws the headings and as many rows as there is room for. -/
def draw (g : Grid) (a : Area) (s : Surface) : Surface :=
  if a.isEmpty then s
  else
    let columns := Share.divide a.width 2 g.columns
    let s := drawRow g.header columns a s
    let shown := g.rows.take (a.height - 1)
    (shown.zip (List.range shown.length)).foldl (fun s (row, i) =>
      drawRow row columns (a.row (i + 1)) s) s

end Grid

end CatalogDesk.Draw
