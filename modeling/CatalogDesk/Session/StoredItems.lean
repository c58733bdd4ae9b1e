import CatalogDesk.Json.Fields
import CatalogDesk.Json.Printer
import CatalogDesk.Session.Storage

/-! # The file of a session store

    The items of a store are kept in a file as one object of texts, an item on each
    line.  A file that is not such an object counts as empty; one whose octets are no
    text cannot be opened.  Every change rewrites the whole file, at once or not at all; by
    then the items in memory have changed. -/

namespace CatalogDesk

namespace Items

/-- An item on a line of its own. -/
def itemLine (item : String × String) : String :=
  "  " ++ Json.quote item.1 ++ ": " ++ Json.quote item.2

/-- The file of the items. -/
def toText (items : Items) : String :=
  if items.isEmpty then "\x7b\x7d"
  else "\x7b\n" ++ String.intercalate ",\n" (items.map itemLine) ++ "\n\x7d"

/-- Takes an item; of two with the same key the later one stays. -/
def take (items : Items) (key : String) (cs : List Char) : Option (Items × List Char) :=
  (Json.readQuoted cs).map fun (value, rest) => (set key value items, rest)

/-- The items of an object; `cs` starts behind the opening brace. -/
def readObject (cs : List Char) : Option (Items × List Char) :=
  match Json.skipSpace cs with
  | '\x7d' :: rest => some ([], rest)
  | _ => Json.readFields take [] cs.length cs

/-- The items of an object of texts. -/
def ofText? (s : String) : Option Items :=
  Json.readWhole <|
    match Json.skipSpace s.toList with
    | '\x7b' :: cs => readObject cs
    | _ => none

/-- The items that a file holds. -/
def ofText (s : String) : Items :=
  (ofText? s).getD []

end Items

/-- How a rewrite of the file goes: the new file takes the place of the old one, or the old
    one is left as it was. -/
abbrev Rewrite := Except StorageError Unit

/-- The items in memory and what the file holds, if there is one. -/
structure ItemFile where
  items : Items
  content : Option String
  deriving DecidableEq, Inhabited, Repr

namespace ItemFile

/-- Opens a file by its octets. -/
def open? (octets : Option (List UInt8)) (decode : List UInt8 → Option String) :
    Except StorageError ItemFile :=
  match octets with
  | none => .ok ⟨[], none⟩
  | some bs =>
    match decode bs with
    | some s => .ok ⟨.ofText s, some s⟩
    | none => .error (.readFailed "stream did not contain valid UTF-8")

/-- Reads the file again. -/
def reopen (f : ItemFile) : ItemFile :=
  { f with items := (f.content.map Items.ofText).getD [] }

def get? (f : ItemFile) (key : String) : Option String := Items.get? key f.items

/-- Keeps the items in memory, and writes the file anew; how that goes is the result. -/
def persist (f : ItemFile) (items : Items) (rewrite : Rewrite) : Rewrite × ItemFile :=
  match rewrite with
  | .ok () => (.ok (), ⟨items, some items.toText⟩)
  | .error e => (.error e, ⟨items, f.content⟩)

def set (f : ItemFile) (key value : String) (rewrite : Rewrite) : Rewrite × ItemFile :=
  f.persist (Items.set key value f.items) rewrite

/-- Removes an item; without it the file is not written. -/
def remove (f : ItemFile) (key : String) (rewrite : Rewrite) : Rewrite × ItemFile :=
  if (f.get? key).isSome then f.persist (Items.remove key f.items) rewrite else (.ok (), f)

end ItemFile

end CatalogDesk
