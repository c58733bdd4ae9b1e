import CatalogDesk.Json.Basic
import CatalogDesk.Number.Reader

/-! # Reading data values

    A value may hold lists and objects up to `maxDepth` levels deep, so reading
    recurses on the levels that are left; the items of one list are read by a loop
    that every round takes at least one character from what remains.

    Integers that fit 64 bits stay integers.  All other numbers are formed from at
    most nineteen or twenty leading digits, multiplied or divided by a power of ten
    in floating-point arithmetic; a number beyond the largest finite one is no
    value. -/

namespace CatalogDesk.Json

/-- Lists and objects may be nested this deep. -/
def maxDepth : Nat := 127

/-- The blanks between tokens. -/
def isSpace (c : Char) : Bool :=
  c = ' ' || c = '\t' || c = '\n' || c = '\r'

def skipSpace (cs : List Char) : List Char :=
  cs.dropWhile isSpace

/-! ## Numbers -/

/-- The largest significand that is kept exactly. -/
def maxSignificand : Nat := Nat.pow 2 64 - 1

/-- Leading digits as far as they fit the significand; with them, the digits that
    are left out. -/
def takeSignificand (n : Nat) : List Char → Nat × List Char
  | [] => (n, [])
  | c :: cs =>
    let next := n * 10 + Binary64.digitValue c
    if next ≤ maxSignificand then takeSignificand next cs else (n, c :: cs)

/-- The power of ten as a floating-point number, for exponents up to 308. -/
def powerOfTen (k : Nat) : Binary64 :=
  Binary64.ofDecimal false 1 k

/-- The significand times a power of ten, in floating-point arithmetic.  Exponents
    below -308 are applied in several divisions. -/
def applyExponent (f : Binary64) (exponent : Int) : Nat → Option Binary64
  | 0 => some f
  | fuel + 1 =>
    if exponent.natAbs ≤ 308 then
      if 0 ≤ exponent then
        let g := f.mul (powerOfTen exponent.natAbs)
        if g.isInfinite then none else some g
      else some (f.div (powerOfTen exponent.natAbs))
    else if f.magnitude = 0 then some f
    else if 0 ≤ exponent then none
    else applyExponent (f.div (powerOfTen 308)) (exponent + 308) fuel

/-- The floating-point number of a significand and an exponent.  After four divisions
    by `10 ^ 308` nothing is left of any significand. -/
def realOf (negative : Bool) (significand : Nat) (exponent : Int) : Option Number :=
  (applyExponent (Binary64.ofNat significand) exponent 5).map fun f =>
    .real (if negative then f.neg else f)

/-- The exponents that are told apart; larger ones behave as this one. -/
def maxExponent : Nat := Nat.pow 2 31 - 1

/-- The exponent after the letter: its sign, its digits and the rest. -/
def splitExponent (cs : List Char) : Option (Bool × List Char × List Char) :=
  let (negative, cs) := match cs with
    | '+' :: r => (false, r)
    | '-' :: r => (true, r)
    | r => (false, r)
  let ds := cs.takeWhile Char.isDigit
  if ds = [] then none else some (negative, ds, cs.dropWhile Char.isDigit)

/-- The number from its significand and the exponent so far; `cs` starts where the
    letter of an exponent may stand. -/
def finishReal (negative : Bool) (significand : Nat) (exponent : Int) (cs : List Char) :
    Option (Number × List Char) :=
  match cs with
  | [] => (realOf negative significand exponent).map (·, [])
  | c :: r =>
    if c = 'e' || c = 'E' then
      match splitExponent r with
      | none => none
      | some (minus, ds, rest) =>
        let e := Binary64.appendDigits 0 ds
        if maxExponent < e then
          if significand ≠ 0 && !minus then none
          else some (.real (Binary64.ofMagnitude negative 0), rest)
        else
          let total := exponent + (if minus then -(e : Int) else e)
          (realOf negative significand total).map (·, rest)
    else (realOf negative significand exponent).map (·, c :: r)

/-- The digits after the point, at least one. -/
def readFraction (negative : Bool) (significand : Nat) (exponent : Int) (cs : List Char) :
    Option (Number × List Char) :=
  let ds := cs.takeWhile Char.isDigit
  if ds = [] then none
  else
    let (n, left) := takeSignificand significand ds
    let taken := ds.length - left.length
    finishReal negative n (exponent - taken) (cs.dropWhile Char.isDigit)

/-- A number without sign. -/
def readMagnitude (negative : Bool) (cs : List Char) : Option (Number × List Char) :=
  let ds := cs.takeWhile Char.isDigit
  let rest := cs.dropWhile Char.isDigit
  match ds with
  | [] => none
  | '0' :: _ :: _ => none
  | ds =>
    let (n, left) := takeSignificand 0 ds
    let real (more : Nat) : Option (Number × List Char) :=
      match rest with
      | '.' :: r => readFraction negative n more r
      | r => finishReal negative n more r
    match left, rest with
    | _ :: _, _ => real left.length
    | [], '.' :: _ => real 0
    | [], 'e' :: _ => real 0
    | [], 'E' :: _ => real 0
    | [], r =>
      if !negative then some (.integer n, r)
      else if n = 0 || Nat.pow 2 63 < n then some (.real (Binary64.ofNat n).neg, r)
      else some (.integer (-(n : Int)), r)

def readNumber (cs : List Char) : Option (Number × List Char) :=
  match cs with
  | '-' :: r => readMagnitude true r
  | r => readMagnitude false r

/-! ## Texts -/

def hexValue? (c : Char) : Option Nat :=
  if c.isDigit then some (c.toNat - 48)
  else if 'a' ≤ c && c ≤ 'f' then some (c.toNat - 87)
  else if 'A' ≤ c && c ≤ 'F' then some (c.toNat - 55)
  else none

/-- Four hexadecimal digits. -/
def hex4? (a b c d : Char) : Option Nat := do
  let a ← hexValue? a
  let b ← hexValue? b
  let c ← hexValue? c
  let d ← hexValue? d
  return ((a * 16 + b) * 16 + c) * 16 + d

/-- The character of an escape with one letter. -/
def simpleEscape? (c : Char) : Option Char :=
  match c with
  | '"' => some '"'
  | '\\' => some '\\'
  | '/' => some '/'
  | 'b' => some (Char.ofNat 8)
  | 'f' => some (Char.ofNat 12)
  | 'n' => some '\n'
  | 'r' => some '\r'
  | 't' => some '\t'
  | _ => none

/-- The rest of a quoted text; `acc` holds the characters so far in reverse.  A
    character outside the first plane is escaped as two halves; one half alone is no
    character. -/
def readText (acc : List Char) : List Char → Option (String × List Char)
  | [] => none
  | '"' :: cs => some (String.ofList acc.reverse, cs)
  | '\\' :: 'u' :: a :: b :: c :: d :: cs =>
    match hex4? a b c d with
    | none => none
    | some n =>
      if 0xDC00 ≤ n && n ≤ 0xDFFF then none
      else if 0xD800 ≤ n && n ≤ 0xDBFF then
        match cs with
        | '\\' :: 'u' :: e :: f :: g :: h :: rest =>
          match hex4? e f g h with
          | none => none
          | some m =>
            if 0xDC00 ≤ m && m ≤ 0xDFFF then
              readText (Char.ofNat (0x10000 + (n - 0xD800) * 0x400 + (m - 0xDC00)) :: acc) rest
            else none
        | _ => none
      else readText (Char.ofNat n :: acc) cs
  | '\\' :: c :: cs =>
    match simpleEscape? c with
    | none => none
    | some e => readText (e :: acc) cs
  | c :: cs => if c.toNat < 0x20 then none else readText (c :: acc) cs

/-! ## Values -/

/-- The rest of the characters after a given word. -/
def dropWord (word cs : List Char) : Option (List Char) :=
  match word, cs with
  | [], cs => some cs
  | _ :: _, [] => none
  | w :: ws, c :: cs => if w = c then dropWord ws cs else none

/-- Items up to the closing bracket, each read by `value`; `cs` starts at an item. -/
def readItems (value : List Char → Option (Json × List Char)) (acc : List Json) :
    Nat → List Char → Option (List Json × List Char)
  | 0, _ => none
  | fuel + 1, cs =>
    match value (skipSpace cs) with
    | none => none
    | some (item, rest) =>
      match skipSpace rest with
      | ']' :: rest => some ((item :: acc).reverse, rest)
      | ',' :: rest => readItems value (item :: acc) fuel rest
      | _ => none

/-- Members up to the closing brace; `cs` starts at a key. -/
def readMembers (value : List Char → Option (Json × List Char)) (acc : Members) :
    Nat → List Char → Option (Members × List Char)
  | 0, _ => none
  | fuel + 1, cs =>
    match skipSpace cs with
    | '"' :: rest =>
      match readText [] rest with
      | none => none
      | some (key, rest) =>
        match skipSpace rest with
        | ':' :: rest =>
          match value (skipSpace rest) with
          | none => none
          | some (item, rest) =>
            match skipSpace rest with
            | '\x7d' :: rest => some (acc.insert key item, rest)
            | ',' :: rest => readMembers value (acc.insert key item) fuel rest
            | _ => none
        | _ => none
    | _ => none

/-- A value that holds at most `depth` levels of lists and objects; `cs` starts at
    its first character. -/
def readValue : (depth : Nat) → (cs : List Char) → Option (Json × List Char)
  | depth, cs =>
    match cs with
    | [] => none
    | 'n' :: _ => (dropWord ['n', 'u', 'l', 'l'] cs).map (.null, ·)
    | 't' :: _ => (dropWord ['t', 'r', 'u', 'e'] cs).map (.bool true, ·)
    | 'f' :: _ => (dropWord ['f', 'a', 'l', 's', 'e'] cs).map (.bool false, ·)
    | '"' :: rest => (readText [] rest).map fun (s, rest) => (.text s, rest)
    | '[' :: rest =>
      match depth with
      | 0 => none
      | depth + 1 =>
        match skipSpace rest with
        | ']' :: rest => some (.list [], rest)
        | _ =>
          (readItems (readValue depth) [] rest.length rest).map fun (xs, rest) =>
            (.list xs, rest)
    | '\x7b' :: rest =>
      match depth with
      | 0 => none
      | depth + 1 =>
        match skipSpace rest with
        | '\x7d' :: rest => some (.object [], rest)
        | _ =>
          (readMembers (readValue depth) [] rest.length rest).map fun (ms, rest) =>
            (.object ms, rest)
    | _ => (readNumber cs).map fun (n, rest) => (.number n, rest)
termination_by structural depth => depth

/-- The value that a text stands for, blanks around it aside. -/
def parse? (s : String) : Option Json :=
  match readValue maxDepth (skipSpace s.toList) with
  | some (v, rest) => if skipSpace rest = [] then some v else none
  | none => none

end CatalogDesk.Json
