import CatalogDesk.Draw.Prose
import CatalogDesk.Screen.Palette

/-! # Popups

    The notice on display stands in a box at the upper right.  The box is as wide as the
    text, up to sixty columns, and as high as the wrapped text, up to ten rows; all its
    sizes are counted in sixteen bits. -/

namespace CatalogDesk

open Draw

namespace Popup

/-- The numbers that a size can be. -/
def sizes : Nat := 65536

/-- A number of columns as a size, or another size if it is too large for one. -/
def sizeOr (fallback columns : Nat) : Nat := if columns < sizes then columns else fallback

/-- The width of the box for a message and a title of so many columns. -/
def boxWidth (message title areaWidth : Nat) : Nat :=
  min (min (max (sizeOr (sizes - 1) message) (sizeOr 0 title) + 4) (sizes - 1))
    (min 60 (areaWidth - 2))

/-- The rows that a message of so many columns is given. -/
def textRows (message innerWidth : Nat) : Nat :=
  (sizeOr 0 message + innerWidth - 1) % sizes / innerWidth

/-- The height of the box. -/
def boxHeight (message innerWidth : Nat) : Nat :=
  max (min (textRows message innerWidth + 3) 10) 3

/-- The box of a notice in an area. -/
def box (n : Notice) (a : Area) : Area :=
  let message := Text.width n.message
  let width := boxWidth message (Text.width (" " ++ n.title ++ " ")) a.width
  ⟨a.width - width - 2, a.y + 2, width, boxHeight message (max (width - 2) 1)⟩

/-- Draws the notice over whatever there is. -/
def draw (n : Notice) : Drawing := fun a s =>
  let shown := a.inter (box n a)
  if shown.isEmpty then s
  else
    let frame : Frame :=
      { title := Line.ofText (" " ++ n.title ++ " "), style := .colored (Palette.ofLevel n.level) }
    let text : Prose :=
      { lines := Line.ofTextLines n.message, style := Style.bold {}, overflow := .wrap true,
        frame := some frame }
    text.draw shown (s.clear shown)

end Popup

end CatalogDesk
