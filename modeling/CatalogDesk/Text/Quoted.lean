import CatalogDesk.Text.Printable
import CatalogDesk.Text.Combining

/-! # Quoted texts

    A text that a message quotes is shown such that every character can be seen: what
    has no shape of its own, or would attach to the character before it, is written as
    its code point. -/

namespace CatalogDesk.Text

/-- The hexadecimal digits of a number. -/
def hex (n : Nat) : List Char :=
  Nat.toDigits 16 n

/-- A character inside quotes. -/
def quoteChar (c : Char) : List Char :=
  match c with
  | '"' => ['\\', '"']
  | '\\' => ['\\', '\\']
  | '\n' => ['\\', 'n']
  | '\r' => ['\\', 'r']
  | '\t' => ['\\', 't']
  | c =>
    if c.toNat = 0 then ['\\', '0']
    else if isCombining c || !isPrintable c then
      ['\\', 'u', '\x7b'] ++ hex c.toNat ++ ['\x7d']
    else [c]

/-- The text in quotes. -/
def quoted (s : String) : String :=
  "\"" ++ String.ofList (s.toList.flatMap quoteChar) ++ "\""

end CatalogDesk.Text
