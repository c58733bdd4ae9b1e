import CatalogDesk.Number.Layout

/-! # Data values

    Bodies of requests and answers, stored records and the records shown in a table
    are values of one tree type.  The members of an object are kept in the order of
    their keys, each key once, so two objects with the same members are equal.

    Main operations: `Json.get?` looks a member up, `Json.ofMembers` builds an object
    from members in any order. -/

namespace CatalogDesk

/-- A number in data: written without point and exponent, or not. -/
inductive Json.Number where
  | integer (i : Int)
  | real (x : Binary64)
  deriving DecidableEq, Inhabited, Repr

/-- A data value. -/
inductive Json where
  | null
  | bool (b : Bool)
  | number (n : Json.Number)
  | text (s : String)
  | list (items : List Json)
  | object (members : List (String × Json))
  deriving Inhabited

namespace Json

/-! ## Members -/

/-- The members of an object. -/
abbrev Members := List (String × Json)

namespace Members

/-- Puts a member in its place among the sorted ones; a member of the same key is
    replaced. -/
def insert (key : String) (value : Json) : Members → Members
  | [] => [(key, value)]
  | (k, v) :: rest =>
    if key < k then (key, value) :: (k, v) :: rest
    else if key = k then (key, value) :: rest
    else (k, v) :: insert key value rest

/-- The value of a key. -/
def get? (key : String) : Members → Option Json
  | [] => none
  | (k, v) :: rest => if k = key then some v else get? key rest

end Members

/-- The object with the given members; of two with the same key the last one stays. -/
def ofMembers (members : List (String × Json)) : Json :=
  .object (members.foldl (fun acc kv => Members.insert kv.1 kv.2 acc) [])

/-- A member of an object; nothing for other values. -/
def get? (key : String) : Json → Option Json
  | .object members => Members.get? key members
  | _ => none

def isNull : Json → Bool
  | .null => true
  | _ => false

/-- The text, if the value is one. -/
def asText? : Json → Option String
  | .text s => some s
  | _ => none

def int (i : Int) : Json :=
  .number (.integer i)

def nat (n : Nat) : Json :=
  .number (.integer n)

/-- A number; one that is not finite has no place in data. -/
def real (x : Binary64) : Json :=
  if x.isFinite then .number (.real x) else .null

/-- The value of an optional member. -/
def ofOption (f : α → Json) : Option α → Json
  | none => .null
  | some a => f a

/-- A list of texts. -/
def texts (xs : List String) : Json :=
  .list (xs.map .text)

end Json

end CatalogDesk
