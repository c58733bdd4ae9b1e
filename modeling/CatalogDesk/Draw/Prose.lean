import CatalogDesk.Draw.Frame

/-! # Prose

    Lines of text in an area.  A line that is too long is either cut off at the right
    or wrapped at its spaces; a word longer than the area is broken where the area
    ends.  Trimmed wrapping leaves out the spaces around a break. -/

namespace CatalogDesk.Draw

/-- One glyph with its columns and its style. -/
structure Glyph where
  sign : String
  width : Nat
  style : Style
  deriving Repr

/-- Is the glyph a place where a line may be broken?  A space that forbids a break is
    not. -/
def Glyph.isSpace (g : Glyph) : Bool :=
  g.sign == "\u200B" || (g.sign != "\u00A0" && g.sign.toList.all Text.isBlank)

/-- The glyphs of a line, the styles of the text and of the line under their own. -/
def Line.glyphs (l : Line) (under : Style) : List Glyph :=
  l.spans.flatMap fun span =>
    (Text.glyphs span.text).map fun (sign, width) =>
      ⟨sign, width, (under.overlay l.style).overlay span.style⟩

/-- The columns of a row of glyphs. -/
def columnsOf (gs : List Glyph) : Nat :=
  gs.foldr (fun g columns => g.width + columns) 0

/-- The glyphs that fit, those wider than the whole area left out. -/
def cutOff (limit : Nat) (used : Nat) : List Glyph → List Glyph
  | [] => []
  | g :: rest =>
    if limit < g.width then cutOff limit used rest
    else if limit < used + g.width then []
    else g :: cutOff limit (used + g.width) rest

/-- A line in the course of being wrapped. -/
structure Wrapping where
  /-- The lines that are complete. -/
  done : List (List Glyph) := []
  /-- The line being filled. -/
  line : List Glyph := []
  /-- The spaces after it. -/
  spaces : List Glyph := []
  /-- The word after those. -/
  word : List Glyph := []
  /-- The glyph before was part of a word. -/
  inWord : Bool := false

/-- Moves spaces and word to the line.  Trimmed, a line does not begin with spaces. -/
def Wrapping.commit (w : Wrapping) (trim : Bool) : Wrapping :=
  { w with
    line := (if w.line.isEmpty && trim then [] else w.line ++ w.spaces) ++ w.word
    spaces := []
    word := [] }

/-- Leaves out the spaces that still fit into the line they follow. -/
def dropFitting (room : Nat) : List Glyph → List Glyph
  | [] => []
  | g :: rest => if room < g.width then g :: rest else dropFitting (room - g.width) rest

/-- Reads one glyph. -/
def Wrapping.step (limit : Nat) (trim : Bool) (w : Wrapping) (g : Glyph) : Wrapping :=
  if limit < g.width then w
  else
    let word := columnsOf w.word
    let spaces := columnsOf w.spaces
    let atStart := w.line.isEmpty
    let full :=
      if trim then limit < word + g.width || limit < spaces + g.width
      else limit < word + spaces + g.width
    let w := if (w.inWord && g.isSpace) || (atStart && full) then w.commit trim else w
    let used := columnsOf w.line
    let overflows := 0 < g.width && limit ≤ used + columnsOf w.spaces + columnsOf w.word
    let broken := limit ≤ used || overflows
    let w :=
      if broken then
        { w with
          done := w.done ++ [w.line]
          line := []
          spaces := dropFitting (limit - used) w.spaces }
      else w
    if broken && g.isSpace && w.spaces.isEmpty then w
    else if g.isSpace then { w with spaces := w.spaces ++ [g], inWord := false }
    else { w with word := w.word ++ [g], inWord := true }

/-- The lines that one line is wrapped into. -/
def wrapLine (limit : Nat) (trim : Bool) (gs : List Glyph) : List (List Glyph) :=
  let w := gs.foldl (Wrapping.step limit trim) {}
  let onlySpaces := w.line.isEmpty && w.word.isEmpty && !w.spaces.isEmpty
  let done := if onlySpaces then w.done ++ [[]] else w.done
  let last := (w.commit trim).line
  let all := if last.isEmpty then done else done ++ [last]
  if all.isEmpty then [[]] else all

/-- How lines that are too long are treated. -/
inductive Overflow
  | cut
  | wrap (trim : Bool)
  deriving DecidableEq, Repr

/-- Lines of text in an area. -/
structure Prose where
  lines : List Line
  /-- Laid over the whole area, and under the text. -/
  style : Style := {}
  placement : Placement := .left
  overflow : Overflow := .cut
  frame : Option Frame := none

namespace Prose

/-- A text in one style. -/
def ofText (text : String) (style : Style) : Prose := { lines := Line.ofTextLines text, style }

/-- One line with the styles of its spans. -/
def ofLine (l : Line) : Prose := { lines := [l] }

/-- The rows of glyphs that fit into the columns, each with its place. -/
def rows (p : Prose) (columns : Nat) : List (List Glyph × Placement) :=
  p.lines.flatMap fun l =>
    let place := l.placement.getD p.placement
    let gs := l.glyphs {}
    match p.overflow with
    | .cut => [(cutOff columns 0 gs, place)]
    | .wrap trim => (wrapLine columns trim gs).map (·, place)

/-- Draws the glyphs of a row from a column on.  Glyphs without columns are left out. -/
def drawRow (x y : Nat) : List Glyph → Surface → Surface
  | [], s => s
  | g :: rest, s =>
    if g.width == 0 then drawRow x y rest s
    else drawRow (x + g.width) y rest (s.set x y g.sign g.style)

/-- The column at which a row begins. -/
def offset (columns rowColumns : Nat) : Placement → Nat
  | .left => 0
  | .center => columns / 2 - rowColumns / 2
  | .right => columns - rowColumns

/-- Draws the text into an area, inside its frame if it has one. -/
def draw (p : Prose) (a : Area) (s : Surface) : Surface :=
  let a := a.inter s.area
  let s := s.wash a p.style
  let s := match p.frame with
    | some f => f.draw a s
    | none => s
  let a := if p.frame.isSome then a.within else a
  if a.isEmpty then s
  else
    let s := s.wash a p.style
    let rows := (p.rows a.width).take a.height
    (rows.zip (List.range rows.length)).foldl (fun s ((gs, place), dy) =>
      drawRow (a.x + offset a.width (columnsOf gs) place) (a.y + dy) gs s) s

end Prose

end CatalogDesk.Draw
