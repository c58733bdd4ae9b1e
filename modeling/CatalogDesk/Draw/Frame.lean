import CatalogDesk.Draw.Line

/-! # Frames

    A frame is a border of one cell with titles set into it: above, and below at either
    end.  Where two titles meet, the right one is on top. -/

namespace CatalogDesk.Draw

/-- A border with its titles. -/
structure Frame where
  title : Line := {}
  /-- Set into the lower border, at its left end. -/
  footLeft : Option Line := none
  /-- Set into the lower border, at its right end. -/
  footRight : Option Line := none
  border : Style := {}
  /-- Laid over the whole area first. -/
  style : Style := {}
  deriving Repr

namespace Frame

/-- Draws the four sides and then the corners. -/
def drawBorder (f : Frame) (a : Area) (s : Surface) : Surface :=
  let right := a.right - 1
  let bottom := a.bottom - 1
  let s := (List.range a.height).foldl (fun s dy =>
    (s.set a.x (a.y + dy) "│" f.border).set right (a.y + dy) "│" f.border) s
  let s := (List.range a.width).foldl (fun s dx =>
    (s.set (a.x + dx) a.y "─" f.border).set (a.x + dx) bottom "─" f.border) s
  let s := s.set right bottom "┘" f.border
  let s := s.set right a.y "┐" f.border
  let s := s.set a.x bottom "└" f.border
  s.set a.x a.y "┌" f.border

/-- The part of a border row that titles are set into. -/
def titleArea (a : Area) (y : Nat) : Area := ⟨a.x + 1, y, a.width - 2, 1⟩

/-- Sets a title into the left end of a border row. -/
def drawLeft (l : Line) (a : Area) (s : Surface) : Surface :=
  if a.isEmpty then s else l.draw { a with width := min l.width a.width } s

/-- Sets a title into the right end of a border row. -/
def drawRight (l : Line) (a : Area) (s : Surface) : Surface :=
  if a.isEmpty then s
  else
    let width := min l.width a.width
    { l with placement := some .right }.draw { a with x := a.right - width, width } s

/-- Draws the frame at the edge of an area. -/
def draw (f : Frame) (a : Area) (s : Surface) : Surface :=
  let a := a.inter s.area
  if a.isEmpty then s
  else
    let s := f.drawBorder a (s.wash a f.style)
    let s := drawLeft f.title (titleArea a a.y) s
    let foot := titleArea a (a.bottom - 1)
    let s := match f.footLeft with
      | some l => drawLeft l foot s
      | none => s
    match f.footRight with
    | some l => drawRight l foot s
    | none => s

end Frame

end CatalogDesk.Draw
