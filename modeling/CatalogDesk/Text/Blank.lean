/-! # White space

    The characters that count as blank are those with the Unicode property
    `White_Space`.  Fields typed by a person, tokens and locations are all
    trimmed by this one notion, so it is fixed here once. -/

namespace CatalogDesk.Text

/-- Does the character have the Unicode property `White_Space`? -/
def isBlank (c : Char) : Bool :=
  let n := c.toNat
  (9 ≤ n && n ≤ 13) || n == 0x20 || n == 0x85 || n == 0xA0 || n == 0x1680 ||
    (0x2000 ≤ n && n ≤ 0x200A) || n == 0x2028 || n == 0x2029 || n == 0x202F ||
    n == 0x205F || n == 0x3000

/-- The characters without the blank ones in front. -/
def dropBlank (cs : List Char) : List Char :=
  cs.dropWhile isBlank

/-- The characters without the blank ones at the end. -/
def dropBlankEnd (cs : List Char) : List Char :=
  (cs.reverse.dropWhile isBlank).reverse

/-- The characters without the blank ones on either side. -/
def trimChars (cs : List Char) : List Char :=
  dropBlankEnd (dropBlank cs)

/-- The text without blank characters on either side. -/
def trim (s : String) : String :=
  String.ofList (trimChars s.toList)

/-- The text without blank characters at its end. -/
def trimEnd (s : String) : String :=
  String.ofList (dropBlankEnd s.toList)

/-- Is there nothing to see in the text? -/
def isBlankText (s : String) : Bool :=
  s.toList.all isBlank

/-- Is the character a control character (Unicode category `Cc`)? -/
def isControl (c : Char) : Bool :=
  c.toNat < 0x20 || (0x7F ≤ c.toNat && c.toNat < 0xA0)

end CatalogDesk.Text
