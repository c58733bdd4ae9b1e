import CatalogDesk.Number.Binary64

/-! # Shortest decimal digits

    The text of a number shows the fewest decimal digits that read back as the
    same number, and of those the ones nearest to it.  The numbers that read back
    as `m * 2 ^ q` form an interval around it; `digits` tests, for one digit, two
    digits, and so on, the two neighbours of the value on that decimal grid. -/

namespace CatalogDesk.Binary64

/-- A positive decimal number `digits * 10 ^ exponent`. -/
structure Decimal where
  digits : Nat
  exponent : Int
  deriving DecidableEq, Inhabited, Repr

/-- Quotients of natural numbers, compared by cross multiplication. -/
structure Ratio where
  num : Nat
  den : Nat

namespace Ratio

def le (a b : Ratio) : Bool := a.num * b.den ≤ b.num * a.den

def lt (a b : Ratio) : Bool := a.num * b.den < b.num * a.den

/-- The quotient times `10 ^ k`. -/
def scale10 (a : Ratio) (k : Int) : Ratio :=
  if k < 0 then ⟨a.num, a.den * Nat.pow 10 (-k).toNat⟩ else ⟨a.num * Nat.pow 10 k.toNat, a.den⟩

/-- The quotient times `2 ^ k`. -/
def scale2 (a : Ratio) (k : Int) : Ratio :=
  if k < 0 then ⟨a.num, a.den * Nat.pow 2 (-k).toNat⟩ else ⟨a.num * Nat.pow 2 k.toNat, a.den⟩

/-- The exponent `k` with `10 ^ k ≤ a < 10 ^ (k + 1)`, for a positive quotient.  The
    binary logarithm gives it up to one. -/
def decimalExponent (a : Ratio) : Int :=
  let guess := Int.fdiv (((a.num.log2 : Int) - a.den.log2) * 30103) 100000
  if (scale10 ⟨1, 1⟩ (guess + 1)).le a then guess + 1
  else if (scale10 ⟨1, 1⟩ guess).le a then guess
  else guess - 1

end Ratio

/-- The interval of real numbers that round to a given number. -/
structure Neighbourhood where
  value : Ratio
  low : Ratio
  high : Ratio
  /-- Do the two ends belong to it? -/
  closed : Bool

namespace Neighbourhood

/-- The interval around `|x|`.  Below a power of two the next number is half as far
    away as above it. -/
def of (x : Binary64) : Neighbourhood :=
  let m := x.mantissa
  let narrow := x.fractionField = 0 && 1 < x.exponentField
  let q := x.exponent - 2
  { value := Ratio.scale2 ⟨4 * m, 1⟩ q
    low := Ratio.scale2 ⟨if narrow then 4 * m - 1 else 4 * m - 2, 1⟩ q
    high := Ratio.scale2 ⟨4 * m + 2, 1⟩ q
    closed := m % 2 = 0 }

def contains (i : Neighbourhood) (r : Ratio) : Bool :=
  if i.closed then i.low.le r && r.le i.high else i.low.lt r && r.lt i.high

/-- The point nearest to the value among the multiples of `10 ^ k` that lie in the
    interval, if there is one; of two equally near ones the even multiple. -/
def onGrid (i : Neighbourhood) (k : Int) : Option Decimal :=
  let scaled := i.value.scale10 (-k)
  let below := scaled.num / scaled.den
  let point (d : Nat) : Ratio := Ratio.scale10 ⟨d, 1⟩ k
  let nearest := roundDiv scaled.num scaled.den
  let farther := if nearest = below then below + 1 else below
  if i.contains (point nearest) then some ⟨nearest, k⟩
  else if i.contains (point farther) then some ⟨farther, k⟩
  else none

/-- The first decimal grid from `10 ^ k` downwards that meets the interval. -/
def search (i : Neighbourhood) (k : Int) : Nat → Decimal
  | 0 => ⟨i.value.num / i.value.den, 0⟩
  | fuel + 1 =>
    match i.onGrid k with
    | some d => d
    | none => search i (k - 1) fuel

end Neighbourhood

/-- The decimal number without zeros at its end. -/
def Decimal.stripZeros (d : Decimal) : Nat → Decimal
  | 0 => d
  | fuel + 1 =>
    if d.digits ≠ 0 && d.digits % 10 = 0 then
      stripZeros ⟨d.digits / 10, d.exponent + 1⟩ fuel
    else d

/-- The shortest decimal number that reads back as `|x|`, for a finite `x` that is
    not zero.  Seventeen digits always suffice. -/
def digits (x : Binary64) : Decimal :=
  let i := Neighbourhood.of x
  (i.search i.value.decimalExponent 18).stripZeros 20

end CatalogDesk.Binary64
