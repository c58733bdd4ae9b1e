import CatalogDesk.Draw.Line

/-! # Choices

    A list of lines of which one is chosen.  The chosen line has a pointer in front of
    it and is always in sight; the others are moved over by as much. -/

namespace CatalogDesk.Draw

/-- A list of lines, one of them chosen. -/
structure Choices where
  items : List Line
  chosen : Nat
  highlight : Style := {}

namespace Choices

/-- What stands in front of the chosen line. -/
def pointer : String := "▶ "

/-- The number of the first item in sight. -/
def firstShown (c : Choices) (height : Nat) : Nat :=
  min c.chosen (c.items.length - 1) + 1 - height

/-- Draws the items that fit. -/
def draw (c : Choices) (a : Area) (s : Surface) : Surface :=
  if a.isEmpty then s
  else
    let first := c.firstShown a.height
    let chosen := min c.chosen (c.items.length - 1)
    let shown := (c.items.drop first).take a.height
    (shown.zip (List.range shown.length)).foldl (fun s (item, i) =>
      let row := a.row i
      let s := item.draw (row.indent 2) s
      let s := if first + i == chosen then s.wash row c.highlight else s
      let sign := if first + i == chosen then pointer else "  "
      (Line.ofText sign).draw { row with width := 2 } s) s

end Choices

/-! ## Tabs

    Titles in a row, a bar between them and a space on either side of each.  The chosen
    one is highlighted. -/

/-- A row of titles. -/
structure Tabs where
  titles : List String
  chosen : Nat
  style : Style := {}
  highlight : Style := {}

/-- Draws a text up to the end of an area and gives back what is left of the area. -/
def drawPiece (text : String) (style : Style) (a : Area) (s : Surface) : Area × Surface :=
  let gs := (Text.glyphs text).filter fun g => 0 < g.2
  let fitting := fitPrefix a.width gs
  let used := fitting.foldr (fun g columns => g.2 + columns) 0
  (a.indent used, drawGlyphs a.x a.right a.y style a.x true fitting s)
where
  /-- The glyphs in front that fit into the columns. -/
  fitPrefix (room : Nat) : List (String × Nat) → List (String × Nat)
    | [] => []
    | g :: rest => if room < g.2 then [] else g :: fitPrefix (room - g.2) rest

namespace Tabs

/-- Draws the titles from number `i` on. -/
def drawFrom (t : Tabs) (i : Nat) (a : Area) : List String → Surface → Surface
  | [], s => s
  | title :: rest, s =>
    if a.width == 0 then s
    else
      let (b, s) := drawPiece " " {} a s
      if b.width == 0 then s
      else
        let (c, s) := drawPiece title {} b s
        let s := if i == t.chosen then s.wash { b with width := c.x - b.x } t.highlight else s
        if c.width == 0 then s
        else
          let (d, s) := drawPiece " " {} c s
          if d.width == 0 || rest.isEmpty then s
          else
            let (e, s) := drawPiece "│" {} d s
            drawFrom t (i + 1) e rest s

/-- Draws the titles in the first row of an area. -/
def draw (t : Tabs) (a : Area) (s : Surface) : Surface :=
  let a := a.inter s.area
  let s := s.wash a t.style
  if a.isEmpty then s else t.drawFrom 0 (a.row 0) t.titles s

end Tabs

end CatalogDesk.Draw
