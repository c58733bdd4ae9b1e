/-! # Messages at fields

    Checking a form leaves at most one message at each field.  The messages are kept
    in the order of the field names. -/

namespace CatalogDesk

/-- A message for some fields, in the order of the field names. -/
structure FieldErrors where
  entries : List (String × String) := []
  deriving DecidableEq, Inhabited, Repr

namespace FieldErrors

def empty : FieldErrors := ⟨[]⟩

/-- Puts a message in its place; a field that has one keeps it. -/
def insertNew (field message : String) : List (String × String) → List (String × String)
  | [] => [(field, message)]
  | (f, m) :: rest =>
    if field < f then (field, message) :: (f, m) :: rest
    else if field = f then (f, m) :: rest
    else (f, m) :: insertNew field message rest

/-- Notes a message at a field; the first one stays. -/
def add (e : FieldErrors) (field message : String) : FieldErrors :=
  ⟨insertNew field message e.entries⟩

/-- Notes a message if a check fails. -/
def require (e : FieldErrors) (ok : Bool) (field message : String) : FieldErrors :=
  if ok then e else e.add field message

/-- The message at a field. -/
def get? (e : FieldErrors) (field : String) : Option String :=
  (e.entries.find? (fun p => p.1 = field)).map (·.2)

def isEmpty (e : FieldErrors) : Bool :=
  e.entries.isEmpty

def size (e : FieldErrors) : Nat :=
  e.entries.length

/-- All messages in one line. -/
def summary (e : FieldErrors) : String :=
  String.intercalate ", " (e.entries.map (·.2))

/-- The value, if there is no message. -/
def toExcept (e : FieldErrors) (value : α) : Except FieldErrors α :=
  if e.isEmpty then .ok value else .error e

end FieldErrors

end CatalogDesk
