import CatalogDesk.Draw.Surface
import CatalogDesk.Text.Width

/-! # Lines

    A line is a row of spans, each a text in one style.  It is drawn at the left, in
    the middle or at the right of its area; what does not fit is cut off, at the right
    if the line starts at the left, at the left if it ends at the right, and on both
    sides in the middle. -/

namespace CatalogDesk.Draw

/-- A text in one style. -/
structure Span where
  text : String
  style : Style := {}
  deriving DecidableEq, Repr, Inhabited

/-- Where a line stands in its area. -/
inductive Placement
  | left
  | center
  | right
  deriving DecidableEq, Repr

/-- A row of spans.  Its style lies under theirs, across the whole area. -/
structure Line where
  spans : List Span := []
  style : Style := {}
  placement : Option Placement := none
  deriving DecidableEq, Repr, Inhabited

namespace Line

/-- A text as a line; its own lines follow one another without a break. -/
def ofText (text : String) (style : Style := {}) : Line :=
  { spans := (Text.lines text).map fun t => { text := t }, style }

/-- The lines of a text.  An empty text is one empty line. -/
def ofTextLines (text : String) : List Line :=
  if text.isEmpty then [{}] else (Text.lines text).map (ofText ·)

/-- The columns that the line takes. -/
def width (l : Line) : Nat :=
  l.spans.foldr (fun s columns => Text.width s.text + columns) 0

end Line

/-- The end of a row of glyphs that fits into the columns, and its columns. -/
def keepEnd (columns : Nat) (glyphs : List (String × Nat)) : List (String × Nat) :=
  (glyphs.reverse.foldl (fun (kept : List (String × Nat) × Nat × Bool) g =>
    if !kept.2.2 && kept.2.1 + g.2 ≤ columns then (g :: kept.1, kept.2.1 + g.2, false)
    else (kept.1, kept.2.1, true)) ([], 0, false)).1

/-- Draws glyphs from column `x` on, up to column `stop`.  A glyph without columns joins
    the cell before it; cells that a wide glyph hides are emptied. -/
def drawGlyphs (left stop y : Nat) (style : Style) (x : Nat) (first : Bool) :
    List (String × Nat) → Surface → Surface
  | [], s => s
  | (g, w) :: rest, s =>
    if stop < x + w then s
    else
      let s :=
        if first then s.set x y g style
        else if x == left then s.append x y g style
        else if w == 0 then s.append (x - 1) y g style
        else s.set x y g style
      drawGlyphs left stop y style (x + w) false rest (s.clearRun (x + 1) y (w - 1))

/-- Draws a span at the left of the first row of an area. -/
def Span.draw (span : Span) (a : Area) (s : Surface) : Surface :=
  let a := a.inter s.area
  if a.isEmpty then s else drawGlyphs a.x a.right a.y span.style a.x true (Text.glyphs span.text) s

/-- Draws spans one after the other. -/
def drawSpans (a : Area) : List Span → Surface → Surface
  | [], s => s
  | span :: rest, s =>
    if a.isEmpty then s else drawSpans (a.indent (Text.width span.text)) rest (span.draw a s)

/-- Draws spans without their first columns.  A wide glyph across the cut leaves its
    place empty. -/
def drawSpansFrom (skip : Nat) (a : Area) : List Span → Surface → Surface
  | [], s => s
  | span :: rest, s =>
    let w := Text.width span.text
    if skip == 0 then drawSpans a (span :: rest) s
    else if w ≤ skip then drawSpansFrom (skip - w) a rest s
    else
      let kept := keepEnd (w - skip) (Text.glyphs span.text)
      let keptWidth := kept.foldr (fun g columns => g.2 + columns) 0
      let text := String.join (kept.map (·.1))
      drawSpans (a.indent (w - skip - keptWidth)) ({ span with text } :: rest) s

/-- Draws a line in the first row of an area; the placement counts where the line has
    none of its own. -/
def Line.drawPlaced (l : Line) (fallback : Placement) (a : Area) (s : Surface) : Surface :=
  let a := (a.inter s.area).row 0
  if a.isEmpty || l.width == 0 then s
  else
    let s := s.wash a l.style
    let free := a.width - l.width
    let excess := l.width - a.width
    match l.placement.getD fallback with
    | .left => drawSpansFrom 0 a l.spans s
    | .center => drawSpansFrom (excess / 2) (a.indent (free / 2)) l.spans s
    | .right => drawSpansFrom excess (a.indent free) l.spans s

/-- Draws a line in the first row of an area. -/
def Line.draw (l : Line) (a : Area) (s : Surface) : Surface := l.drawPlaced .left a s

end CatalogDesk.Draw
