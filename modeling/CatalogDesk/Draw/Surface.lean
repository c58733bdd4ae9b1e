import CatalogDesk.Draw.Style
import CatalogDesk.Draw.Area

/-! # Surfaces

    A surface is the grid of cells that a screen is drawn on.  Styles are laid over
    what a cell has already; a sign replaces the one before it.

    Drawing keeps to the surface.  A part that insists on a cell beyond it, as a cursor
    does, spoils the drawing: `spoilt` remembers that. -/

namespace CatalogDesk.Draw

/-- One place of the grid: a sign, its colors and its marks. -/
structure Cell where
  sign : String := " "
  fore : Color := .plain
  back : Color := .plain
  marks : Marks := {}
  deriving DecidableEq, Repr, Inhabited

/-- The cell with a style laid over it. -/
def Cell.styled (c : Cell) (s : Style) : Cell :=
  { c with
    fore := s.fore.getD c.fore
    back := s.back.getD c.back
    marks := c.marks.union s.marks }

/-- Does the cell look as an empty one, its sign aside? -/
def Cell.isPlain (c : Cell) : Bool :=
  c.fore == .plain && c.back == .plain && c.marks == {}

/-- Laying two styles over a cell is laying their overlay over it. -/
theorem Cell.styled_styled (c : Cell) (s t : Style) :
    (c.styled s).styled t = c.styled (s.overlay t) := by
  cases c; cases s with | mk f b m => cases t with | mk f' b' m' =>
    cases f <;> cases b <;> cases f' <;> cases b' <;>
      simp [Cell.styled, Style.overlay, Marks.union, Bool.or_assoc]

/-- A grid of cells, row by row. -/
structure Surface where
  width : Nat
  height : Nat
  cells : Array Cell
  spoilt : Bool := false
  deriving Repr

namespace Surface

/-- An empty surface. -/
def blank (width height : Nat) : Surface :=
  { width, height, cells := Array.replicate (width * height) {} }

/-- All of the surface. -/
def area (s : Surface) : Area := ⟨0, 0, s.width, s.height⟩

/-- Is the place on the surface? -/
def covers (s : Surface) (x y : Nat) : Bool := x < s.width && y < s.height

/-- Changes one cell, if it is on the surface. -/
def change (s : Surface) (x y : Nat) (f : Cell → Cell) : Surface :=
  if s.covers x y then { s with cells := s.cells.modify (y * s.width + x) f } else s

/-- Changes one cell that has to be on the surface. -/
def insist (s : Surface) (x y : Nat) (f : Cell → Cell) : Surface :=
  if s.covers x y then s.change x y f else { s with spoilt := true }

/-- Sets a sign and lays a style over the cell. -/
def set (s : Surface) (x y : Nat) (sign : String) (style : Style) : Surface :=
  s.change x y fun c => { c with sign }.styled style

/-- Adds to the sign of a cell and lays a style over it. -/
def append (s : Surface) (x y : Nat) (sign : String) (style : Style) : Surface :=
  s.change x y fun c => { c with sign := c.sign ++ sign }.styled style

/-- Empties a number of cells in one row. -/
def clearRun (s : Surface) (x y : Nat) : Nat → Surface
  | 0 => s
  | n + 1 => (s.change x y fun _ => {}).clearRun (x + 1) y n

/-- Changes every cell of the area that is on the surface. -/
def changeAll (s : Surface) (a : Area) (f : Cell → Cell) : Surface :=
  let a := a.inter s.area
  (List.range a.height).foldl (fun s dy =>
    (List.range a.width).foldl (fun s dx => s.change (a.x + dx) (a.y + dy) f) s) s

/-- Lays a style over an area. -/
def wash (s : Surface) (a : Area) (style : Style) : Surface :=
  if style == {} then s else s.changeAll a (·.styled style)

/-- Empties an area. -/
def clear (s : Surface) (a : Area) : Surface := s.changeAll a fun _ => {}

/-- The cells of one row. -/
def rowCells (s : Surface) (y : Nat) : List Cell :=
  (s.cells.extract (y * s.width) ((y + 1) * s.width)).toList

/-- The signs of each row, one after the other. -/
def rows (s : Surface) : List String :=
  (List.range s.height).map fun y => String.join ((s.rowCells y).map (·.sign))

end Surface

/-- A part of a screen: what it does to the surface, given its area. -/
abbrev Drawing := Area → Surface → Surface

/-- A stretch of cells of one row that look alike: from `first` up to, but without,
    `last`. -/
structure Stretch where
  row : Nat
  first : Nat
  last : Nat
  look : Cell
  deriving Repr

/-- Joins the cells of a row, from a column on, into stretches; plain cells are left
    out. -/
def stretchesFrom (row : Nat) (column : Nat) (current : Option Stretch) :
    List Cell → List Stretch
  | [] => current.toList
  | c :: rest =>
    let look := { c with sign := " " }
    match current with
    | some t =>
      if t.look == look then
        stretchesFrom row (column + 1) (some { t with last := column + 1 }) rest
      else t :: stretchesFrom row (column + 1)
        (if c.isPlain then none else some ⟨row, column, column + 1, look⟩) rest
    | none =>
      stretchesFrom row (column + 1)
        (if c.isPlain then none else some ⟨row, column, column + 1, look⟩) rest

/-- The stretches of a surface, row by row. -/
def Surface.stretches (s : Surface) : List Stretch :=
  (List.range s.height).flatMap fun y => stretchesFrom y 0 none (s.rowCells y)

end CatalogDesk.Draw
