/-! # Binary floating-point numbers of 64 bits

    Amounts of money arrive, are compared and leave as numbers of the IEEE 754
    format binary64.  A number is kept as its 64 bits, and every operation is
    defined by exact arithmetic on natural numbers: `mantissa` and `exponent`
    give the exact value, `ofRatio` rounds an exact quotient to the nearest
    number (ties to the even one), and `rank` orders the numbers as integers. -/

namespace CatalogDesk

/-- A number of the format binary64. -/
structure Binary64 where
  /-- Sign bit, eleven exponent bits, fifty-two fraction bits. -/
  bits : UInt64
  deriving DecidableEq, Inhabited, Repr

namespace Binary64

/-! ## Fields -/

/-- Is the sign bit set? -/
def isNegative (x : Binary64) : Bool :=
  Nat.pow 2 63 ≤ x.bits.toNat

/-- All bits but the sign, as a number. -/
def magnitude (x : Binary64) : Nat :=
  x.bits.toNat % Nat.pow 2 63

/-- The bits of positive infinity; larger magnitudes are not numbers. -/
def infinityBits : Nat := 0x7FF0000000000000

def isNaN (x : Binary64) : Bool :=
  infinityBits < x.magnitude

def isInfinite (x : Binary64) : Bool :=
  x.magnitude = infinityBits

def isFinite (x : Binary64) : Bool :=
  x.magnitude < infinityBits

/-- The exponent field. -/
def exponentField (x : Binary64) : Nat :=
  x.magnitude / Nat.pow 2 52

/-- The fraction field. -/
def fractionField (x : Binary64) : Nat :=
  x.magnitude % Nat.pow 2 52

/-- For a finite number, `|x| = mantissa * 2 ^ exponent`. -/
def mantissa (x : Binary64) : Nat :=
  if x.exponentField = 0 then x.fractionField else x.fractionField + Nat.pow 2 52

/-- For a finite number, `|x| = mantissa * 2 ^ exponent`. -/
def exponent (x : Binary64) : Int :=
  (max x.exponentField 1 : Nat) - 1075

/-- The number with the given sign and other bits. -/
def ofMagnitude (negative : Bool) (magnitude : Nat) : Binary64 :=
  ⟨UInt64.ofNat (magnitude + if negative then Nat.pow 2 63 else 0)⟩

def zero : Binary64 := ⟨0⟩

def infinity (negative : Bool) : Binary64 :=
  ofMagnitude negative infinityBits

def nan : Binary64 := ⟨0x7FF8000000000000⟩

/-! ## Rounding -/

/-- The quotient rounded to the nearest natural number, a half to the even one. -/
def roundDiv (num den : Nat) : Nat :=
  let q := num / den
  let r := num % den
  if den < 2 * r || (2 * r = den && q % 2 = 1) then q + 1 else q

/-- The number nearest to `num / den` with the given sign, for `den > 0`.

    The unit in the last place is `2 ^ e`, where `e` is chosen such that the
    quotient has 53 binary digits, or is the least exponent.  A mantissa that is
    rounded up to `2 ^ 53` carries into the exponent field by itself, since the
    two fields are adjacent. -/
def ofRatio (negative : Bool) (num den : Nat) : Binary64 :=
  if num = 0 then ofMagnitude negative 0
  else
    let guess : Int := (num.log2 : Int) - den.log2 - 52
    -- the quotient has 52 or 53 digits over `2 ^ guess`
    let scaled (e : Int) : Nat × Nat :=
      if e < 0 then (num * Nat.pow 2 (-e).toNat, den) else (num, den * Nat.pow 2 e.toNat)
    let fits := Nat.pow 2 52 ≤ (scaled guess).1 / (scaled guess).2
    let e : Int := max (if fits then guess else guess - 1) (-1074)
    let q := roundDiv (scaled e).1 (scaled e).2
    let m := (e + 1074).toNat * Nat.pow 2 52 + q
    if infinityBits ≤ m then infinity negative else ofMagnitude negative m

/-- The number nearest to a natural number. -/
def ofNat (n : Nat) : Binary64 :=
  ofRatio false n 1

/-- The number nearest to an integer. -/
def ofInt (i : Int) : Binary64 :=
  ofRatio (i < 0) i.natAbs 1

/-- The exact value of a finite number without its sign, as a quotient. -/
def ratio (x : Binary64) : Nat × Nat :=
  if x.exponent < 0 then (x.mantissa, Nat.pow 2 (-x.exponent).toNat)
  else (x.mantissa * Nat.pow 2 x.exponent.toNat, 1)

/-- The number with the sign reversed. -/
def neg (x : Binary64) : Binary64 :=
  ofMagnitude (!x.isNegative) x.magnitude

/-- The product of two finite numbers, rounded. -/
def mul (x y : Binary64) : Binary64 :=
  ofRatio (x.isNegative != y.isNegative) (x.ratio.1 * y.ratio.1) (x.ratio.2 * y.ratio.2)

/-- The quotient of two finite numbers, the second not zero, rounded. -/
def div (x y : Binary64) : Binary64 :=
  ofRatio (x.isNegative != y.isNegative) (x.ratio.1 * y.ratio.2) (x.ratio.2 * y.ratio.1)

/-! ## Order -/

/-- The place of a number that is not a NaN among the others; both zeros have the
    same place. -/
def rank (x : Binary64) : Int :=
  if x.isNegative then -(x.magnitude : Int) else x.magnitude

/-- The numeric order; a NaN compares with nothing. -/
def compare? (x y : Binary64) : Option Ordering :=
  if x.isNaN || y.isNaN then none else some (compare x.rank y.rank)

/-- Is the number greater than zero? -/
def isPositive (x : Binary64) : Bool :=
  !x.isNaN && 0 < x.rank

/-- The place of a number in the total order that also separates the zeros and
    places each NaN outside the infinities. -/
def totalRank (x : Binary64) : Int :=
  if x.isNegative then -(x.magnitude : Int) - 1 else x.magnitude

end Binary64

end CatalogDesk
