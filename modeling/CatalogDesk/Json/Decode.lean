import CatalogDesk.Json.DecodeError

/-! # Reading records from data values

    A record is read from an object, or from a list of its fields in the order in
    which they are declared.  From an object the present fields are read in key
    order, so that the first problem in that order is reported; only then are missing
    fields looked for, in declared order.  Keys that no field has are ignored. -/

namespace CatalogDesk.Decode

/-- The outcome of reading a value. -/
abbrev Result (α : Type) := Except DecodeError α

/-! ## Leaves -/

def text : Json → Result String
  | .text s => .ok s
  | v => .error (.invalidType v "a string")

def bool : Json → Result Bool
  | .bool b => .ok b
  | v => .error (.invalidType v "a boolean")

/-- A count that fits 64 bits. -/
def count : Json → Result Nat
  | .number (.integer i) =>
    if 0 ≤ i then .ok i.toNat else .error (.invalidValue (.number (.integer i)) "u64")
  | v => .error (.invalidType v "u64")

/-- A number of any written form. -/
def real : Json → Result Binary64
  | .number (.integer i) => .ok (Binary64.ofInt i)
  | .number (.real x) => .ok x
  | v => .error (.invalidType v "f64")

/-- An amount: a number, or its decimal text. -/
def amount : Json → Result Binary64
  | .number (.integer i) => .ok (Binary64.ofInt i)
  | .number (.real x) => .ok x
  | .text s => (Binary64.ofText (Text.trim s)).mapError .amount
  | v => .error (.invalidType v "a number or a decimal string")

/-- A value that may be null. -/
def nullable (read : Json → Result α) : Json → Result (Option α)
  | .null => .ok none
  | v => (read v).map some

/-- An instant that may be null. -/
def timestamp : Json → Result (Option Timestamp)
  | .null => .ok none
  | v => do
    let s ← text v
    match Timestamp.ofText s with
    | .ok t => .ok (some t)
    | .error e => .error (.time e)

/-- A list with each item read. -/
def list (read : Json → Result α) : Json → Result (List α)
  | .list items => items.mapM read
  | v => .error (.invalidType v "a sequence")

/-- One of several named values: the name as a text, or as the only key of an object
    with the value null. -/
def variant (known : List (String × α)) : Json → Result α
  | .text s => find s
  | .object [(key, value)] => do
    let a ← find key
    match value with
    | .null => .ok a
    | v => .error (.invalidType v "unit")
  | .object members => .error (.invalidValue (.object members) "map with a single key")
  | v => .error (.invalidType v "string or map")
where
  find (name : String) : Result α :=
    match known.find? (fun p => p.1 = name) with
    | some (_, a) => .ok a
    | none => .error (.unknownVariant name (known.map (·.1)))

/-! ## Records -/

/-- The field of an object under a key, if it is present. -/
def field? (members : Json.Members) (key : String) (read : Json → Result α) :
    Result (Option α) :=
  match Json.Members.get? key members with
  | none => .ok none
  | some v => (read v).map some

/-- The field that must have been present. -/
def require (key : String) : Option α → Result α
  | some a => .ok a
  | none => .error (.missingField key)

/-- The item of a list that stands for a field; `title` describes the whole record. -/
def item (items : List Json) (index : Nat) (title : String) (read : Json → Result α) :
    Result α :=
  match items[index]? with
  | some v => read v
  | none => .error (.invalidLength index title)

/-- The item of a list that stands for a field with a default. -/
def itemOr (items : List Json) (index : Nat) (default : α) (read : Json → Result α) :
    Result α :=
  match items[index]? with
  | some v => read v
  | none => .ok default

/-- Words for a record with its count of fields. -/
def elements (title : String) (size : Nat) : String :=
  title ++ " with " ++ toString size ++ " elements"

/-- A record from its fields as members or as items.  A list with more than `size`
    items is refused after its fields were read. -/
def record (title : String) (size : Nat) (ofMembers : Json.Members → Result α)
    (ofItems : List Json → Result α) : Json → Result α
  | .object members => ofMembers members
  | .list items => do
    let a ← ofItems items
    if size < items.length then .error (.invalidLength items.length "fewer elements in array")
    else .ok a
  | v => .error (.invalidType v title)

end CatalogDesk.Decode
