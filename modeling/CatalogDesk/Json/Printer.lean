import CatalogDesk.Json.Basic

/-! # Data values as text

    The compact form: no blanks, members in key order, texts quoted.  A number that
    is not finite has no written form and is written `null`. -/

namespace CatalogDesk.Json

/-- The hexadecimal digit of a number below sixteen. -/
def hexDigit (n : Nat) : Char :=
  if n < 10 then Char.ofNat (48 + n) else Char.ofNat (87 + n)

/-- A character inside quotes: the quote, the backslash and the control characters
    below the blank are escaped. -/
def escapeChar (c : Char) : List Char :=
  match c with
  | '"' => ['\\', '"']
  | '\\' => ['\\', '\\']
  | '\n' => ['\\', 'n']
  | '\r' => ['\\', 'r']
  | '\t' => ['\\', 't']
  | c =>
    if c.toNat = 8 then ['\\', 'b']
    else if c.toNat = 12 then ['\\', 'f']
    else if c.toNat < 32 then
      ['\\', 'u', '0', '0', hexDigit (c.toNat / 16), hexDigit (c.toNat % 16)]
    else [c]

/-- A text in quotes. -/
def quote (s : String) : String :=
  "\"" ++ String.ofList (s.toList.flatMap escapeChar) ++ "\""

def Number.compact : Number → String
  | .integer i => toString i
  | .real x => if x.isFinite then x.dataText else "null"

mutual

/-- The compact text of a value. -/
def compact : Json → String
  | .null => "null"
  | .bool b => if b then "true" else "false"
  | .number n => n.compact
  | .text s => quote s
  | .list items => "[" ++ compactItems true items ++ "]"
  | .object members => "\x7b" ++ compactMembers true members ++ "\x7d"

/-- Items with commas between them; `first` tells whether one stands in front. -/
def compactItems (first : Bool) : List Json → String
  | [] => ""
  | item :: rest =>
    (if first then "" else ",") ++ compact item ++ compactItems false rest

/-- Members with commas between them. -/
def compactMembers (first : Bool) : List (String × Json) → String
  | [] => ""
  | (key, value) :: rest =>
    (if first then "" else ",") ++ quote key ++ ":" ++ compact value ++
      compactMembers false rest

end

end CatalogDesk.Json
