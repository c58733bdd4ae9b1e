/-! # Areas

    A rectangle of cells, by its upper left corner and its extent. -/

namespace CatalogDesk.Draw

/-- A rectangle of cells. -/
structure Area where
  x : Nat
  y : Nat
  width : Nat
  height : Nat
  deriving DecidableEq, Repr, Inhabited

namespace Area

/-- The first column to the right of the area. -/
def right (a : Area) : Nat := a.x + a.width

/-- The first row below the area. -/
def bottom (a : Area) : Nat := a.y + a.height

/-- Has the area no cell? -/
def isEmpty (a : Area) : Bool := a.width == 0 || a.height == 0

/-- What both areas cover. -/
def inter (a b : Area) : Area :=
  let x := max a.x b.x
  let y := max a.y b.y
  ⟨x, y, min a.right b.right - x, min a.bottom b.bottom - y⟩

/-- The area without its first columns. -/
def indent (a : Area) (n : Nat) : Area := { a with x := a.x + n, width := a.width - n }

/-- One row of the area, counted from its top. -/
def row (a : Area) (n : Nat) : Area := { a with y := a.y + n, height := min 1 (a.height - n) }

/-- What a border of one cell leaves of the area. -/
def within (a : Area) : Area where
  x := min (a.x + 1) a.right
  y := min (a.y + 1) a.bottom
  width := a.width - 2
  height := a.height - 2

end Area

/-! ## Dividing an area

    An area is divided into rows or columns by what each part asks for.  Floors are
    granted first, then exact lengths, then percentages, each kind in order for as long
    as there is room; what is left goes to the growing parts in proportion to their
    weights.  Parts may end between two cells; each boundary is rounded to the nearest
    cell, so no cell is lost or taken twice. -/

/-- What a part asks for. -/
inductive Share
  /-- A number of cells. -/
  | exactly (cells : Nat)
  /-- A part of the whole. -/
  | percent (p : Nat)
  /-- A part of what is left over. -/
  | growing (weight : Nat)
  /-- A part of what is left over, with weight one, but no fewer cells than these. -/
  | atLeast (cells : Nat)
  deriving DecidableEq, Repr

namespace Share

/-- The weight with which the part grows. -/
def weight : Share → Nat
  | .growing w => w
  | .atLeast _ => 1
  | _ => 0

/-- What the part asks for exactly. -/
def exact : Share → Nat
  | .exactly n => n
  | _ => 0

/-- The sum of the weights. -/
def totalWeight (shares : List Share) : Nat :=
  shares.foldr (fun s sum => s.weight + sum) 0

/-- Grants what is asked for, in order, as long as the room lasts. -/
def grant (room : Nat) : List Nat → List Nat
  | [] => []
  | n :: rest => min n room :: grant (room - min n room) rest

/-- The parts with every floor that its fair part of the room would not reach made an
    exact length. -/
def settleFloors (room : Nat) (shares : List Share) : List Share :=
  let fixed := shares.foldr (fun s sum => s.exact + sum) 0
  shares.map fun
    | .atLeast n =>
      if (room - fixed) < n * totalWeight shares then .exactly n else .growing 1
    | s => s

/-- The size of each part, in hundredths of a cell times the total weight (one, if no
    part grows), so that all are whole numbers. -/
def sizes (length : Nat) (shares : List Share) : List Nat :=
  let weights := max 1 (totalWeight shares)
  let granted := grant length (shares.map exact)
  let room := (length - granted.foldr (· + ·) 0) * 100
  let percents := grant room (shares.map fun | .percent p => length * p | _ => 0)
  let left := room - percents.foldr (· + ·) 0
  (shares.zip (granted.zip percents)).map fun (s, g, p) =>
    (g * 100 + p) * weights + left * s.weight

/-- The cell nearest to a position in hundredths of a cell times `unit`: rounded to
    hundredths first, then to cells, halves up. -/
def nearest (unit position : Nat) : Nat :=
  ((2 * position + unit) / (2 * unit) + 50) / 100

/-- Start and size of each part, when parts are set apart by gaps. -/
def place (unit : Nat) (position : Nat) : List Nat → List Nat → List (Nat × Nat)
  | [], _ => []
  | size :: rest, gaps =>
    let start := nearest unit position
    let stop := nearest unit (position + size)
    (start, stop - start) :: place unit (position + size + gaps.headD 0) rest gaps.tail

/-- Start and size of each part of a length.  Gaps come before all parts. -/
def divide (length gap : Nat) (shares : List Share) : List (Nat × Nat) :=
  let gaps := grant length (List.replicate (shares.length - 1) gap)
  let room := length - gaps.foldr (· + ·) 0
  let shares := settleFloors room shares
  let unit := max 1 (totalWeight shares)
  place unit 0 (sizes room shares) (gaps.map (· * (100 * unit)))

end Share

/-- The parts of an area from top to bottom; part number `n` is empty if there is
    none. -/
def Area.downward (a : Area) (shares : List Share) (n : Nat) : Area :=
  let (start, size) := (Share.divide a.height 0 shares).getD n (a.height, 0)
  { a with y := a.y + start, height := size }

/-- The parts of an area from left to right, with gaps between them. -/
def Area.across (a : Area) (shares : List Share) (n : Nat) (gap : Nat := 0) : Area :=
  let (start, size) := (Share.divide a.width gap shares).getD n (a.width, 0)
  { a with x := a.x + start, width := size }

end CatalogDesk.Draw
