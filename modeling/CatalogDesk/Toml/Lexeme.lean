import CatalogDesk.Toml.Basic

/-! # Words of a settings document

    Texts, numbers, dates and names as they are written.  Every reader takes a list of
    characters and gives back what follows the word. -/

namespace CatalogDesk.Toml

/-- What a reader gives: a value and the characters after it. -/
abbrev Read (α : Type) := Option (α × List Char)

/-! ## Blanks -/

def isBlankChar (c : Char) : Bool := c = ' ' || c = '\t'

def skipBlanks (cs : List Char) : List Char := cs.dropWhile isBlankChar

/-- Characters that may stand in comments and unescaped in texts. -/
def isPlain (c : Char) : Bool :=
  c = '\t' || (0x20 ≤ c.toNat && c.toNat ≤ 0x7E) || 0x80 ≤ c.toNat

/-- What follows the end of a line. -/
def lineEnd? : List Char → Option (List Char)
  | '\n' :: cs => some cs
  | '\r' :: '\n' :: cs => some cs
  | _ => none

/-- What follows a comment, if one stands here. -/
def skipComment : List Char → List Char
  | '#' :: cs => cs.dropWhile isPlain
  | cs => cs

/-- Skips blanks, comments and ends of lines. -/
def skipLines (cs : List Char) : Nat → List Char
  | 0 => cs
  | fuel + 1 =>
    let cs := skipComment (skipBlanks cs)
    match lineEnd? cs with
    | some rest => skipLines rest fuel
    | none => cs

/-- Skips all blanks, comments and ends of lines. -/
def skipAll (cs : List Char) : List Char := skipLines cs (cs.length + 1)

/-! ## Texts -/

def hexDigit? (c : Char) : Option Nat :=
  if c.isDigit then some (c.toNat - 48)
  else if 'a' ≤ c && c ≤ 'f' then some (c.toNat - 87)
  else if 'A' ≤ c && c ≤ 'F' then some (c.toNat - 55)
  else none

/-- The number that hexadecimal digits write. -/
def hexNumber? (ds : List Char) : Option Nat :=
  ds.foldlM (fun n c => (hexDigit? c).map (n * 16 + ·)) 0

/-- The character with a number of so many hexadecimal digits. -/
def escapedChar? (size : Nat) (cs : List Char) : Read Char :=
  if (cs.take size).length < size then none
  else
    (hexNumber? (cs.take size)).bind fun n =>
      if n.isValidChar then some (Char.ofNat n, cs.drop size) else none

/-- The character after a backslash. -/
def escape? : List Char → Read Char
  | 'b' :: cs => some (Char.ofNat 8, cs)
  | 't' :: cs => some ('\t', cs)
  | 'n' :: cs => some ('\n', cs)
  | 'f' :: cs => some (Char.ofNat 12, cs)
  | 'r' :: cs => some ('\r', cs)
  | 'e' :: cs => some (Char.ofNat 27, cs)
  | '"' :: cs => some ('"', cs)
  | '\\' :: cs => some ('\\', cs)
  | 'x' :: cs => escapedChar? 2 cs
  | 'u' :: cs => escapedChar? 4 cs
  | 'U' :: cs => escapedChar? 8 cs
  | _ => none

/-- The rest of a text in double quotes. -/
def basicText? (acc : List Char) (cs : List Char) : Nat → Read String
  | 0 => none
  | fuel + 1 =>
    match cs with
    | [] => none
    | '"' :: rest => some (String.ofList acc.reverse, rest)
    | '\\' :: rest =>
      match escape? rest with
      | some (c, rest) => basicText? (c :: acc) rest fuel
      | none => none
    | c :: rest => if isPlain c then basicText? (c :: acc) rest fuel else none

/-- The rest of a text in single quotes. -/
def literalText? (cs : List Char) : Read String :=
  let body := cs.takeWhile fun c => c ≠ '\''
  match cs.dropWhile fun c => c ≠ '\'' with
  | [] => none
  | _ :: rest => if body.all isPlain then some (String.ofList body, rest) else none

/-- Does a backslash here continue on the next line? -/
def continuesLine (cs : List Char) : Bool := (lineEnd? (skipBlanks cs)).isSome

def isBlankOrEnd (c : Char) : Bool := c = ' ' || c = '\t' || c = '\n' || c = '\r'

/-- The end of a text in three quotes, of which it may have two more inside: the quotes
    that belong to the text, and what follows. -/
def closing? (quote : Char) (cs : List Char) : Option (List Char × List Char) :=
  let run := (cs.takeWhile (· = quote)).length
  if run < 3 then none
  else
    let inside := min (run - 3) 2
    some (List.replicate inside quote, cs.drop (3 + inside))

/-- The rest of a text in three double quotes. -/
def longText? (acc : List Char) (cs : List Char) : Nat → Read String
  | 0 => none
  | fuel + 1 =>
    match closing? '"' cs with
    | some (quotes, rest) => some (String.ofList (acc.reverse ++ quotes), rest)
    | none =>
      match cs with
      | [] => none
      | '\\' :: rest =>
        if continuesLine rest then longText? acc (rest.dropWhile isBlankOrEnd) fuel
        else
          match escape? rest with
          | some (c, rest) => longText? (c :: acc) rest fuel
          | none => none
      | '\r' :: '\n' :: rest => longText? ('\n' :: '\r' :: acc) rest fuel
      | c :: rest => if c = '\n' || isPlain c then longText? (c :: acc) rest fuel else none

/-- The rest of a text in three single quotes. -/
def longLiteral? (acc : List Char) (cs : List Char) : Nat → Read String
  | 0 => none
  | fuel + 1 =>
    match closing? '\'' cs with
    | some (quotes, rest) => some (String.ofList (acc.reverse ++ quotes), rest)
    | none =>
      match cs with
      | [] => none
      | '\r' :: '\n' :: rest => longLiteral? ('\n' :: '\r' :: acc) rest fuel
      | c :: rest => if c = '\n' || isPlain c then longLiteral? (c :: acc) rest fuel else none

/-- An end of a line right after three quotes does not belong to the text. -/
def afterOpening (cs : List Char) : List Char := (lineEnd? cs).getD cs

/-- A text on one line, from its opening quote. -/
def shortText? : List Char → Read String
  | '"' :: cs => basicText? [] cs (cs.length + 1)
  | '\'' :: cs => literalText? cs
  | _ => none

/-- A text, from its opening quote. -/
def text? : List Char → Read String
  | '"' :: '"' :: '"' :: cs => longText? [] (afterOpening cs) (cs.length + 1)
  | '\'' :: '\'' :: '\'' :: cs => longLiteral? [] (afterOpening cs) (cs.length + 1)
  | cs => shortText? cs

/-! ## Numbers -/

/-- The digits of a number whose digits may be separated by single underscores. -/
def digitsOf (isDigit : Char → Bool) : List Char → Option (List Char)
  | [] => none
  | [c] => if isDigit c then some [c] else none
  | c :: '_' :: rest => if isDigit c then (digitsOf isDigit rest).map (c :: ·) else none
  | c :: rest => if isDigit c then (digitsOf isDigit rest).map (c :: ·) else none

/-- The number that digits write in a base. -/
def numberOf (base : Nat) (ds : List Char) : Nat :=
  ds.foldl (fun n c => n * base + (hexDigit? c).getD 0) 0

def isOctal (c : Char) : Bool := '0' ≤ c && c ≤ '7'

def isBinary (c : Char) : Bool := c = '0' || c = '1'

/-- The sign of a number and what follows. -/
def splitSign : List Char → Bool × List Char
  | '-' :: cs => (true, cs)
  | '+' :: cs => (false, cs)
  | cs => (false, cs)

/-- Decimal digits without a superfluous zero in front. -/
def wholeDigits? (cs : List Char) : Option (List Char) :=
  (digitsOf Char.isDigit cs).bind fun ds =>
    match ds with
    | '0' :: _ :: _ => none
    | _ => some ds

/-- The integers that a document can hold. -/
def fits (i : Int) : Bool := -(Nat.pow 2 127 : Int) ≤ i && i < (Nat.pow 2 128 : Int)

def boundedInteger (i : Int) : Option Value := if fits i then some (.integer i) else none

def integer? (cs : List Char) : Option Value :=
  match cs with
  | '0' :: 'x' :: ds =>
    (digitsOf (fun c => (hexDigit? c).isSome) ds).bind fun ds => boundedInteger (numberOf 16 ds)
  | '0' :: 'o' :: ds => (digitsOf isOctal ds).bind fun ds => boundedInteger (numberOf 8 ds)
  | '0' :: 'b' :: ds => (digitsOf isBinary ds).bind fun ds => boundedInteger (numberOf 2 ds)
  | _ =>
    let (negative, ds) := splitSign cs
    (wholeDigits? ds).bind fun ds =>
      boundedInteger (if negative then -(numberOf 10 ds : Int) else numberOf 10 ds)

/-- The digits after the point, or none without a point. -/
def fractionDigits? : List Char → Option (List Char)
  | [] => some []
  | '.' :: ds => digitsOf Char.isDigit ds
  | _ => none

/-- The exponent with its sign. -/
def exponent? (cs : List Char) : Option Int :=
  let (negative, ds) := splitSign cs
  (digitsOf Char.isDigit ds).map fun ds =>
    if negative then -(numberOf 10 ds : Int) else numberOf 10 ds

/-- A number with a point or an exponent that is not too large. -/
def float? (cs : List Char) : Option Value :=
  let (negative, body) := splitSign cs
  if body = ['i', 'n', 'f'] then some (.float (Binary64.infinity negative))
  else if body = ['n', 'a', 'n'] then some (.float Binary64.nan)
  else
    let isExponent (c : Char) : Bool := c = 'e' || c = 'E'
    let mantissa := body.takeWhile fun c => !isExponent c
    let tail := (body.dropWhile fun c => !isExponent c).drop 1
    let hasExponent := body.any isExponent
    let whole := mantissa.takeWhile (· ≠ '.')
    let fraction := mantissa.dropWhile (· ≠ '.')
    if !hasExponent && fraction.isEmpty then none
    else do
      let ws ← wholeDigits? whole
      let fs ← fractionDigits? fraction
      let e ← if hasExponent then exponent? tail else some 0
      let x := Binary64.ofDecimal negative (numberOf 10 (ws ++ fs)) (e - fs.length)
      if x.isInfinite then none else some (.float x)

/-! ## Dates and times -/

/-- A number of exactly so many digits, and what follows. -/
def fixedNumber? (size : Nat) (cs : List Char) : Read Nat :=
  let ds := cs.take size
  if ds.length = size && ds.all Char.isDigit then some (numberOf 10 ds, cs.drop size) else none

/-- What follows one of some characters. -/
def after? (marks : List Char) : List Char → Option (List Char)
  | c :: cs => if marks.contains c then some cs else none
  | [] => none

def daysIn (year month : Nat) : Nat :=
  if month = 2 then
    if year % 4 = 0 && (year % 100 ≠ 0 || year % 400 = 0) then 29 else 28
  else if month = 4 || month = 6 || month = 9 || month = 11 then 30
  else 31

/-- What follows a date. -/
def date? (cs : List Char) : Option (List Char) := do
  let (year, cs) ← fixedNumber? 4 cs
  let (month, cs) ← fixedNumber? 2 (← after? ['-'] cs)
  let (day, cs) ← fixedNumber? 2 (← after? ['-'] cs)
  if 1 ≤ month && month ≤ 12 && 1 ≤ day && day ≤ daysIn year month then some cs else none

/-- What follows the seconds of a time and their fraction, if they are there. -/
def seconds? (cs : List Char) : Option (List Char) :=
  match cs with
  | ':' :: cs => do
    let (second, cs) ← fixedNumber? 2 cs
    if 60 < second then none
    else
      match cs with
      | '.' :: cs => if (cs.takeWhile Char.isDigit).isEmpty then none else cs.dropWhile Char.isDigit
      | cs => some cs
  | cs => some cs

/-- What follows a time. -/
def time? (cs : List Char) : Option (List Char) := do
  let (hour, cs) ← fixedNumber? 2 cs
  let (minute, cs) ← fixedNumber? 2 (← after? [':'] cs)
  if hour ≤ 23 && minute ≤ 59 then seconds? cs else none

/-- What follows the offset of a time, if it is there. -/
def offset? : List Char → Option (List Char)
  | [] => some []
  | 'Z' :: cs => some cs
  | 'z' :: cs => some cs
  | cs => do
    let (hour, cs) ← fixedNumber? 2 (← after? ['+', '-'] cs)
    let (minute, cs) ← fixedNumber? 2 (← after? [':'] cs)
    if hour ≤ 23 && minute ≤ 59 then some cs else none

/-- Is the word a date, a time, or both? -/
def isMoment (cs : List Char) : Bool :=
  match date? cs with
  | some [] => true
  | some rest =>
    (after? ['T', 't', ' '] rest).bind time? |>.bind offset? |>.any List.isEmpty
  | none => (time? cs).any List.isEmpty

/-! ## Words without quotes -/

/-- Characters of a word without quotes. -/
def isWordChar (c : Char) : Bool :=
  c.isAlphanum || c = '_' || c = '+' || c = '-' || c = '.' || c = ':'

/-- The value that a word stands for. -/
def wordValue? (w : List Char) : Option Value :=
  if w = ['t', 'r', 'u', 'e'] then some (.bool true)
  else if w = ['f', 'a', 'l', 's', 'e'] then some (.bool false)
  else if isMoment w then some (.moment (String.ofList w))
  else (integer? w).or (float? w)

/-- A word; a date takes in the time after a blank. -/
def splitWord (cs : List Char) : List Char × List Char :=
  let word := cs.takeWhile isWordChar
  let rest := cs.dropWhile isWordChar
  match rest with
  | ' ' :: more =>
    if date? word = some [] && (more.head?).any Char.isDigit then
      (word ++ ' ' :: more.takeWhile isWordChar, more.dropWhile isWordChar)
    else (word, rest)
  | _ => (word, rest)

/-! ## Names -/

def isNameChar (c : Char) : Bool :=
  c.isAlphanum || c = '_' || c = '-'

/-- One part of a name. -/
def namePart? (cs : List Char) : Read String :=
  match cs with
  | '"' :: _ => shortText? cs
  | '\'' :: _ => shortText? cs
  | _ =>
    let part := cs.takeWhile isNameChar
    if part.isEmpty then none else some (String.ofList part, cs.dropWhile isNameChar)

/-- A dotted name: its parts, with blanks around the dots. -/
def nameParts? (cs : List Char) : Nat → Read (List String)
  | 0 => none
  | fuel + 1 =>
    match namePart? (skipBlanks cs) with
    | none => none
    | some (part, rest) =>
      match skipBlanks rest with
      | '.' :: rest => (nameParts? rest fuel).map fun p => (part :: p.1, p.2)
      | rest => some ([part], rest)

/-- A dotted name as the path in front of its last part, and that part. -/
def name? (cs : List Char) : Read (List String × String) :=
  (nameParts? cs (cs.length + 1)).bind fun (parts, rest) =>
    (parts.getLast?).map fun key => ((parts.dropLast, key), rest)

end CatalogDesk.Toml
