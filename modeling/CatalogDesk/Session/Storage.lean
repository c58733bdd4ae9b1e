import CatalogDesk.Session.Error

/-! # The store of a session

    Token and user outlive the program as texts under two keys.  Reading, writing and
    removing may each fail, which never ends a session. -/

namespace CatalogDesk

/-- Texts under keys, in the order of the keys. -/
abbrev Items := List (String × String)

namespace Items

def get? (key : String) (items : Items) : Option String :=
  (items.find? (fun p => p.1 = key)).map (·.2)

/-- Puts a text under its key, in place of any other. -/
def set (key value : String) : Items → Items
  | [] => [(key, value)]
  | (k, v) :: rest =>
    if key < k then (key, value) :: (k, v) :: rest
    else if key = k then (key, value) :: rest
    else (k, v) :: set key value rest

def remove (key : String) (items : Items) : Items :=
  items.filter (fun p => p.1 ≠ key)

end Items

/-- A store and which of its operations fail. -/
structure SessionStore where
  items : Items := []
  failsToGet : Bool := false
  failsToSet : Bool := false
  failsToRemove : Bool := false
  deriving DecidableEq, Inhabited, Repr

namespace SessionStore

/-- The text under a key; nothing when reading fails. -/
def get? (s : SessionStore) (key : String) : Option String :=
  if s.failsToGet then none else Items.get? key s.items

/-- The store after an attempt to write. -/
def set (s : SessionStore) (key value : String) : SessionStore :=
  if s.failsToSet then s else { s with items := Items.set key value s.items }

/-- The store after an attempt to remove. -/
def remove (s : SessionStore) (key : String) : SessionStore :=
  if s.failsToRemove then s else { s with items := Items.remove key s.items }

end SessionStore

end CatalogDesk
