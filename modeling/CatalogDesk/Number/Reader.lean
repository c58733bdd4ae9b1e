import CatalogDesk.Number.Binary64

/-! # Reading numbers

    A decimal number typed by a person or sent as text: an optional sign, then
    digits with at most one point and at least one digit, then an optional exponent;
    or one of the words for infinity and NaN.  The result is the nearest number. -/

namespace CatalogDesk

/-- Why a text is not a number. -/
inductive NumberError where
  | empty
  | invalid
  deriving DecidableEq, Repr

def NumberError.message : NumberError → String
  | .empty => "cannot parse float from empty string"
  | .invalid => "invalid float literal"

namespace Binary64

/-- The value of a digit character. -/
def digitValue (c : Char) : Nat :=
  c.toNat - '0'.toNat

/-- The number that a row of digits continues. -/
def appendDigits (n : Nat) (ds : List Char) : Nat :=
  ds.foldl (fun n c => n * 10 + digitValue c) n

/-- The number nearest to `digits * 10 ^ exponent`.  Outside the exponents at which a
    finite number other than zero can result nothing is multiplied out. -/
def ofDecimal (negative : Bool) (digits : Nat) (exponent : Int) : Binary64 :=
  if digits = 0 then ofMagnitude negative 0
  else if 400 < exponent then infinity negative
  else if exponent + (digits.log2 / 3 + 1 : Nat) < -400 then ofMagnitude negative 0
  else if exponent < 0 then ofRatio negative digits (Nat.pow 10 (-exponent).toNat)
  else ofRatio negative (digits * Nat.pow 10 exponent.toNat) 1

/-- The exponent after the letter: an optional sign and at least one digit. -/
def readExponent : List Char → Option Int
  | '+' :: ds => if ds ≠ [] && ds.all Char.isDigit then some (appendDigits 0 ds : Nat) else none
  | '-' :: ds => if ds ≠ [] && ds.all Char.isDigit then some (-(appendDigits 0 ds : Nat)) else none
  | ds => if ds ≠ [] && ds.all Char.isDigit then some (appendDigits 0 ds : Nat) else none

/-- A number without sign. -/
def readUnsigned (negative : Bool) (cs : List Char) : Option Binary64 :=
  let word := String.ofList (cs.map Char.toLower)
  if word = "inf" || word = "infinity" then some (infinity negative)
  else if word = "nan" then some (if negative then nan.neg else nan)
  else
    let whole := cs.takeWhile Char.isDigit
    let rest := cs.dropWhile Char.isDigit
    let afterPoint := match rest with
      | '.' :: r => r
      | _ => []
    let fraction := afterPoint.takeWhile Char.isDigit
    let tail := match rest with
      | '.' :: r => r.dropWhile Char.isDigit
      | r => r
    if whole ++ fraction = [] then none
    else
      let digits := appendDigits 0 (whole ++ fraction)
      match tail with
      | [] => some (ofDecimal negative digits (-(fraction.length : Int)))
      | c :: r =>
        if c = 'e' || c = 'E' then
          (readExponent r).map fun e => ofDecimal negative digits (e - fraction.length)
        else none

/-- The number that a text stands for. -/
def ofText (s : String) : Except NumberError Binary64 :=
  let read (negative : Bool) (cs : List Char) : Except NumberError Binary64 :=
    match readUnsigned negative cs with
    | some x => .ok x
    | none => .error .invalid
  match s.toList with
  | [] => .error .empty
  | '-' :: cs => read true cs
  | '+' :: cs => read false cs
  | cs => read false cs

end Binary64

end CatalogDesk
