import CatalogDesk.Json.Printer

/-! # Cells and their order

    What a table shows of a value, and how two values of a column compare.  Values of
    different kinds compare by their kind; numbers compare as floating-point numbers,
    lists by their length, and objects are all alike. -/

namespace CatalogDesk.Table

mutual

/-- The text of a value in a cell. -/
def cellText : Json → String
  | .null => ""
  | .text s => s
  | .bool b => if b then "true" else "false"
  | .number n => n.compact
  | .list items => cellTexts true items
  | .object members => (Json.object members).compact

/-- The texts of the items with commas between them. -/
def cellTexts (first : Bool) : List Json → String
  | [] => ""
  | item :: rest => (if first then "" else ",") ++ cellText item ++ cellTexts false rest

end

/-- The place of a kind of values among the others. -/
def kindRank : Json → Nat
  | .null => 0
  | .bool _ => 1
  | .number _ => 2
  | .text _ => 3
  | .list _ => 4
  | .object _ => 5

/-- A number as a floating-point number. -/
def numberValue : Json.Number → Binary64
  | .integer i => Binary64.ofInt i
  | .real x => x

/-- The order of two values in a column. -/
def compareValues : Json → Json → Ordering
  | .bool x, .bool y => compare x.toNat y.toNat
  | .number x, .number y => ((numberValue x).compare? (numberValue y)).getD .eq
  | .text x, .text y => compare x y
  | .list x, .list y => compare x.length y.length
  | x, y => compare (kindRank x) (kindRank y)

end CatalogDesk.Table
