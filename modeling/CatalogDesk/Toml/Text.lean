import CatalogDesk.Json.Printer

/-! # Writing settings documents

    A text is written in the form that needs the fewest escapes: in double quotes, else
    in single quotes, else in three double or three single quotes; if none of these can
    hold it as it is, it is escaped.  A text of several lines starts on a line of its
    own. -/

namespace CatalogDesk.Toml

/-- A form of quotes. -/
inductive QuoteStyle where
  | basic | literal | longBasic | longLiteral
  deriving DecidableEq, Inhabited, Repr

namespace QuoteStyle

def mark : QuoteStyle → String
  | .basic => "\""
  | .literal => "'"
  | .longBasic => "\"\"\""
  | .longLiteral => "'''"

def isLong : QuoteStyle → Bool
  | .longBasic => true
  | .longLiteral => true
  | _ => false

/-- Does the form know escapes? -/
def escapes : QuoteStyle → Bool
  | .basic => true
  | .longBasic => true
  | _ => false

end QuoteStyle

/-- The longest row of a character. -/
def longestRun (c : Char) (cs : List Char) : Nat :=
  (cs.foldl (fun (p : Nat × Nat) d =>
    if d = c then (p.1 + 1, max p.2 (p.1 + 1)) else (0, p.2)) (0, 0)).2

/-- Characters that can only be written by an escape. -/
def needsEscape (c : Char) : Bool :=
  c ≠ '\t' && c ≠ '\n' && (c.toNat < 0x20 || c.toNat = 0x7F)

/-- The form in which a text is written. -/
def styleOf (cs : List Char) : QuoteStyle :=
  let codes := cs.any needsEscape
  let backslash := cs.contains '\\'
  let newline := cs.contains '\n'
  let double := longestRun '"' cs
  let single := longestRun '\'' cs
  if !codes && !backslash && double = 0 && !newline then .basic
  else if !codes && single = 0 && !newline then .literal
  else if !codes && !backslash && double ≤ 2 then .longBasic
  else if !codes && single ≤ 2 then .longLiteral
  else if newline then .longBasic
  else .basic

def upperHex (n : Nat) : Char := (Json.hexDigit n).toUpper

/-- A character inside quotes.  `quotes` counts the double quotes right before it. -/
def escapeChar (isLong : Bool) (quotes : Nat) (c : Char) : List Char :=
  match c with
  | '"' => if quotes < (if isLong then 2 else 0) then ['"'] else ['\\', '"']
  | '\\' => ['\\', '\\']
  | '\t' => ['\\', 't']
  | '\n' => if isLong then ['\n'] else ['\\', 'n']
  | '\r' => ['\\', 'r']
  | c =>
    if c.toNat = 8 then ['\\', 'b']
    else if c.toNat = 12 then ['\\', 'f']
    else if c.toNat < 0x20 || c.toNat = 0x7F then
      ['\\', 'u', '0', '0', upperHex (c.toNat / 16), upperHex (c.toNat % 16)]
    else [c]

/-- The characters inside quotes; an escaped double quote ends a row of them. -/
def escapeChars (isLong : Bool) (quotes : Nat) : List Char → List Char
  | [] => []
  | c :: cs =>
    let written := escapeChar isLong quotes c
    written ++ escapeChars isLong (if written = ['"'] then quotes + 1 else 0) cs

/-- A text in quotes. -/
def quote (s : String) : String :=
  let cs := s.toList
  let style := styleOf cs
  let start := if style.isLong && cs.contains '\n' then "\n" else ""
  let body := if style.escapes then escapeChars style.isLong 0 cs else cs
  style.mark ++ start ++ String.ofList body ++ style.mark

/-- A line with a name and a value. -/
def line (key value : String) : String := key ++ " = " ++ value ++ "\n"

/-- A line with a text. -/
def textLine (key value : String) : String := line key (quote value)

/-- A line with a count. -/
def countLine (key : String) (n : Nat) : String := line key (toString n)

/-- A line with a text, if there is one. -/
def optionalLine (key : String) : Option String → String
  | some value => textLine key value
  | none => ""

/-- A table under its header, after an empty line. -/
def tableText (name body : String) : String := "\n[" ++ name ++ "]\n" ++ body

end CatalogDesk.Toml
