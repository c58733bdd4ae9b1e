/-! # Styles

    A style says what it changes about a cell: the color of its sign, the color behind
    it, and marks to add.  Applying two styles one after the other is the same as
    applying their overlay. -/

namespace CatalogDesk.Draw

/-- The colors in use.  `plain` is what the terminal shows by itself. -/
inductive Color
  | plain
  | black
  | red
  | green
  | yellow
  | cyan
  | gray
  | darkGray
  | white
  | rgb (red green blue : Nat)
  deriving DecidableEq, Repr, Inhabited

/-- Ways in which a sign stands out. -/
structure Marks where
  bold : Bool := false
  italic : Bool := false
  underlined : Bool := false
  reversed : Bool := false
  deriving DecidableEq, Repr, Inhabited

/-- The marks of either. -/
def Marks.union (a b : Marks) : Marks where
  bold := a.bold || b.bold
  italic := a.italic || b.italic
  underlined := a.underlined || b.underlined
  reversed := a.reversed || b.reversed

/-- What changes about a cell; `none` leaves a color as it is. -/
structure Style where
  fore : Option Color := none
  back : Option Color := none
  marks : Marks := {}
  deriving DecidableEq, Repr, Inhabited

/-- A style that colors the sign. -/
def Style.colored (c : Color) : Style := { fore := some c }

/-- The style with bold signs. -/
def Style.bold (s : Style) : Style := { s with marks := { s.marks with bold := true } }

/-- The style with slanted signs. -/
def Style.italic (s : Style) : Style := { s with marks := { s.marks with italic := true } }

/-- The style with underlined signs. -/
def Style.underlined (s : Style) : Style :=
  { s with marks := { s.marks with underlined := true } }

/-- The style with the two colors exchanged. -/
def Style.reversed (s : Style) : Style :=
  { s with marks := { s.marks with reversed := true } }

/-- The style with another color behind the sign. -/
def Style.on (s : Style) (c : Color) : Style := { s with back := some c }

/-- First `below`, then `above`. -/
def Style.overlay (below above : Style) : Style where
  fore := above.fore.or below.fore
  back := above.back.or below.back
  marks := below.marks.union above.marks

end CatalogDesk.Draw
