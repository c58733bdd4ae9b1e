import CatalogDesk.Settings.Basic

/-! # What is remembered between runs

    The last screen and the last query line of the store are written when the console
    ends and read when it starts. -/

namespace CatalogDesk

/-- What is remembered. -/
structure Remembered where
  lastRoute : Option String := none
  storeQuery : Option String := none
  deriving DecidableEq, Inhabited, Repr

namespace Remembered

open Toml

def toText (r : Remembered) : String :=
  optionalLine "last_route" r.lastRoute ++ optionalLine "store_query" r.storeQuery

/-- A text that may be left out. -/
def optionalText (entries : Entries) (key : String) : Option (Option String) :=
  match Entries.get? key entries with
  | none => some none
  | some v => v.asText?.map some

def ofEntries (entries : Entries) : Option Remembered := do
  let lastRoute ← optionalText entries "last_route"
  let storeQuery ← optionalText entries "store_query"
  return { lastRoute, storeQuery }

/-- What a text says; nothing if it cannot be read. -/
def ofText (s : String) : Remembered :=
  ((Toml.read? s).bind ofEntries).getD {}

end Remembered

/-- Why the remembered state cannot be read. -/
inductive StateError where
  | unreadable
  deriving DecidableEq, Inhabited, Repr

def StateError.message : StateError → String
  | .unreadable => "Failed to read state file"

/-- The state that a file holds: nothing is remembered without a file, and octets that
    are no text are an error. -/
def Remembered.ofFile (octets : Option (List UInt8)) (decode : List UInt8 → Option String) :
    Except StateError Remembered :=
  match octets with
  | none => .ok {}
  | some bs =>
    match decode bs with
    | some s => .ok (.ofText s)
    | none => .error .unreadable

end CatalogDesk
