import CatalogDesk.Text.Blank
import CatalogDesk.Text.Cluster
import CatalogDesk.Text.WidthTable

/-! # Columns

    How many columns of a terminal a text takes: one for most characters, two for the
    wide ones of East Asia and for pictures, none for marks set on others.  A picture
    made of several characters is as wide as one picture. -/

namespace CatalogDesk.Text

/-- Does the character take two columns? -/
def isWide (c : Char) : Bool :=
  0x1100 ≤ c.toNat && Ranges.contains c.toNat wideRanges

/-- The columns that one character takes. -/
def charWidth (c : Char) : Nat :=
  if c.toNat < 0x300 then (if c.toNat == 0xAD then 0 else 1)
  else if c.toNat == 0x17D8 then 3
  else if c.toNat == 0x115F || c.toNat == 0x17A4 then 2
  else if c.toNat == 0x2D7F then 1
  else if isCombining c || Ranges.contains c.toNat weightlessRanges then 0
  else if isWide c then 2
  else 1

/-- The character that asks for the picture form of the one before it. -/
def pictureForm : Char := '\uFE0F'

/-- The character that asks for the letter form of the one before it. -/
def letterForm : Char := '\uFE0E'

/-- Is the character usually drawn as a picture two columns wide? -/
def isWidePicture (c : Char) : Bool :=
  isWide c && Ranges.contains c.toNat emojiRanges && !(0x3000 ≤ c.toNat && c.toNat ≤ 0x33FF)

/-- Do the characters after the first one, the head, make a picture with it? -/
def isComposedPicture (head : Char) : List Char → Bool
  | [] => false
  | c :: rest =>
    (c == pictureForm && Ranges.contains head.toNat emojiRanges) ||
      (isSkinTone c && Ranges.contains head.toNat modifiableRanges) ||
      (isPicture head && c == joiner && rest.any isPicture) ||
      isComposedPicture head rest

/-- The columns that one cluster takes. -/
def clusterWidth : List Char → Nat
  | [] => 0
  | [c] => charWidth c
  | head :: rest =>
    if head == '\r' then 1
    else if isComposedPicture head rest then 2
    else if rest.head? == some letterForm && isWidePicture head &&
        !(0x1F200 ≤ head.toNat && head.toNat ≤ 0x1F2FF) then
      1 + rest.foldr (fun c columns => charWidth c + columns) 0
    else (head :: rest).foldr (fun c columns => charWidth c + columns) 0

/-- The columns that a text takes. -/
def width (s : String) : Nat :=
  (clusters s.toList).foldr (fun cs columns => clusterWidth cs + columns) 0

/-- A text cut into what is drawn together, each part with its columns.  Controls are
    not drawn. -/
def glyphs (s : String) : List (String × Nat) :=
  ((clusters s.toList).filter fun cs => !cs.any isControl).map fun cs =>
    (String.ofList cs, clusterWidth cs)

/-- The lines of a text.  A line ends before a line feed, or before a carriage return
    and a line feed; nothing follows the last one. -/
def lines (s : String) : List String :=
  let parts := splitLines s.toList []
  (if parts.getLast? == some [] then parts.dropLast else parts).map String.ofList
where
  splitLines : List Char → List Char → List (List Char)
    | [], made => [made.reverse]
    | '\n' :: rest, '\r' :: made => made.reverse :: splitLines rest []
    | '\n' :: rest, made => made.reverse :: splitLines rest []
    | c :: rest, made => splitLines rest (c :: made)

end CatalogDesk.Text
