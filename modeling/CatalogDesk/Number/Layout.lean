import CatalogDesk.Number.Shortest

/-! # Texts of numbers

    Three texts are in use.  `Binary64.text` is what a person reads and types in a
    form: digits and a point, never an exponent.  `Binary64.dataText` stands in
    data: a whole number keeps `.0`, and very large or small numbers have an
    exponent.  `Binary64.amountText` rounds to two places. -/

namespace CatalogDesk.Binary64

/-- The decisions that tell one text of a number from another. -/
structure Layout where
  /-- The scientific exponents that are written without an exponent; `none` for all. -/
  positional : Option (Int × Int)
  /-- What is written after a whole number. -/
  whole : String
  deriving DecidableEq, Repr

namespace Layout

/-- Data shows whole numbers with `.0` and exponents below `-5` and from `16` on. -/
def data : Layout := ⟨some (-5, 15), ".0"⟩

/-- A person sees digits alone. -/
def plain : Layout := ⟨none, ""⟩

/-- Is a number `d.ddd * 10 ^ e` written without exponent? -/
def isPositional (l : Layout) (e : Int) : Bool :=
  match l.positional with
  | none => true
  | some (low, high) => low ≤ e && e ≤ high

end Layout

/-- A row of zeros. -/
def zeros (n : Nat) : String :=
  String.ofList (List.replicate n '0')

/-- The digits with the point placed: `digits * 10 ^ exponent`. -/
def positionalText (l : Layout) (d : Decimal) : String :=
  let ds := toString d.digits
  if 0 ≤ d.exponent then ds ++ zeros d.exponent.toNat ++ l.whole
  else
    let places := (-d.exponent).toNat
    if places < ds.length then
      String.ofList (ds.toList.take (ds.length - places)) ++ "." ++
        String.ofList (ds.toList.drop (ds.length - places))
    else "0." ++ zeros (places - ds.length) ++ ds

/-- One digit, a point and the others, then the exponent with its sign and at least
    two digits. -/
def scientificText (d : Decimal) : String :=
  let ds := (toString d.digits).toList
  let e := d.exponent + (ds.length : Int) - 1
  let fraction := if ds.length ≤ 1 then [] else '.' :: ds.drop 1
  let size := toString e.natAbs
  let padded := if size.length < 2 then "0" ++ size else size
  String.ofList (ds.take 1 ++ fraction) ++ (if e < 0 then "e-" else "e+") ++ padded

/-- The text of a finite number without its sign. -/
def unsignedText (l : Layout) (x : Binary64) : String :=
  if x.magnitude = 0 then "0" ++ l.whole
  else
    let d := x.digits
    let e := d.exponent + ((toString d.digits).length : Int) - 1
    if l.isPositional e then positionalText l d else scientificText d

/-- The sign as written. -/
def signText (x : Binary64) : String :=
  if x.isNegative then "-" else ""

/-- Text of a number that is not finite, or the given one with its sign. -/
def withSign (x : Binary64) (finite : String) : String :=
  if x.isNaN then "NaN"
  else x.signText ++ (if x.isInfinite then "inf" else finite)

/-- The number as a person reads it: the fewest digits, never an exponent. -/
def text (x : Binary64) : String :=
  x.withSign (unsignedText .plain x)

/-- The number as it stands in data. -/
def dataText (x : Binary64) : String :=
  x.withSign (unsignedText .data x)

/-- The number rounded to two places, a half to the even neighbour. -/
def amountText (x : Binary64) : String :=
  let cents := roundDiv (x.ratio.1 * 100) x.ratio.2
  let rest := toString (cents % 100)
  x.withSign (toString (cents / 100) ++ "." ++ (if rest.length < 2 then "0" ++ rest else rest))

end CatalogDesk.Binary64
