import CatalogDesk.Number.Reader

/-! # Settings documents

    Settings and remembered state are kept as TOML: tables of named values, which a
    person can edit.  A document is built from its lines one by one, and the rules of
    the format about defining things only once are kept in how a table came about.

    Main operations: `Entries.addValue?` and `Entries.addHeader?` put a line's content
    into the tables read so far. -/

namespace CatalogDesk.Toml

/-- How a table came about, which decides what may still be added to it. -/
inductive TableKind where
  /-- It stands in the path of a header. -/
  | implied
  /-- It stands in front of a dot in the name of a value. -/
  | dotted
  /-- It has a header of its own. -/
  | headed
  /-- It was written in braces, and is complete. -/
  | closed
  deriving DecidableEq, Inhabited, Repr

/-- A value of a document. -/
inductive Value where
  | text (s : String)
  | integer (i : Int)
  | float (x : Binary64)
  | bool (b : Bool)
  /-- A date, a time or both, as written. -/
  | moment (s : String)
  /-- A list; `ofTables` tells a list of tables with headers, which can grow. -/
  | list (ofTables : Bool) (items : List Value)
  | table (kind : TableKind) (entries : List (String × Value))
  deriving Inhabited

/-- The named values of a table, in the order in which they were defined. -/
abbrev Entries := List (String × Value)

namespace Entries

def get? (key : String) (es : Entries) : Option Value :=
  (es.find? fun e => e.1 = key).map (·.2)

/-- Puts a value under a name, in place of any other. -/
def set (key : String) (value : Value) : Entries → Entries
  | [] => [(key, value)]
  | (k, v) :: rest => if k = key then (key, value) :: rest else (k, v) :: set key value rest

/-- Changes the table at the end of a path; tables that are missing on the way come into
    being.  The path belongs to the name of a value if `dotted` is set, and to a header
    otherwise.  Nothing comes back if a step of the path is not open. -/
def changeAt (dotted : Bool) (kind : TableKind) (es : Entries) (path : List String)
    (change : TableKind → Entries → Option Entries) : Option Entries :=
  match path with
  | [] => change kind es
  | key :: rest =>
    match get? key es with
    | none =>
      let kind := if dotted then .dotted else .implied
      (changeAt dotted kind [] rest change).map fun inner => set key (.table kind inner) es
    | some (.table .closed _) => none
    | some (.table inside inner) =>
      if dotted && inside = .headed then none
      else (changeAt dotted inside inner rest change).map fun inner =>
        set key (.table inside inner) es
    | some (.list true items) =>
      match items.getLast? with
      | some (.table inside inner) =>
        (changeAt dotted inside inner rest change).map fun inner =>
          set key (.list true (items.dropLast ++ [.table inside inner])) es
      | _ => none
    | some _ => none

/-- Defines a value under a dotted name. -/
def addValue? (kind : TableKind) (es : Entries) (path : List String) (key : String)
    (value : Value) : Option Entries :=
  changeAt true kind es path fun kind es =>
    if (kind = .dotted) = path.isEmpty then none
    else if (get? key es).isSome then none
    else some (es ++ [(key, value)])

/-- Begins the table of a header. -/
def addHeader? (es : Entries) (path : List String) (key : String) : Option Entries :=
  changeAt false .headed es path fun _ es =>
    match get? key es with
    | none => some (set key (.table .headed []) es)
    | some (.table .implied inner) => some (set key (.table .headed inner) es)
    | some _ => none

/-- Begins the next table of a list. -/
def addListHeader? (es : Entries) (path : List String) (key : String) : Option Entries :=
  changeAt false .headed es path fun _ es =>
    match get? key es with
    | none => some (set key (.list true [.table .headed []]) es)
    | some (.list true items) => some (set key (.list true (items ++ [.table .headed []])) es)
    | some _ => none

end Entries

end CatalogDesk.Toml
