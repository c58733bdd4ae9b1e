import CatalogDesk.Json.Fields
import CatalogDesk.Json.Skip
import CatalogDesk.Session.User

/-! # The stored text of a user

    The text is read field by field and not by way of a data value: a field that is given
    twice is an error, and what stands under other keys is passed over. -/

namespace CatalogDesk

/-- The fields of a user as far as they have been read. -/
structure UserFields where
  username : Option String := none
  role : Option (Option String) := none
  deriving DecidableEq, Inhabited, Repr

namespace UserFields

/-- Takes the value under a key. -/
def take (f : UserFields) (key : String) (cs : List Char) : Option (UserFields × List Char) :=
  if key = "username" then
    if f.username.isSome then none
    else (Json.readQuoted cs).map fun (s, rest) => ({ f with username := some s }, rest)
  else if key = "role" then
    if f.role.isSome then none
    else (Json.readNullable cs).map fun (s, rest) => ({ f with role := some s }, rest)
  else (Json.skipValue (2 * cs.length + 1) cs).map fun rest => (f, rest)

/-- The user of the fields, unless the name is missing. -/
def user? (f : UserFields) : Option User :=
  f.username.map fun username => ⟨username, f.role.join⟩

end UserFields

namespace User

/-- The members of a user; `cs` starts behind the opening brace. -/
def readObject (cs : List Char) : Option (User × List Char) :=
  match Json.skipSpace cs with
  | '\x7d' :: _ => none
  | _ =>
    (Json.readFields UserFields.take {} cs.length cs).bind fun (f, rest) =>
      f.user?.map (·, rest)

/-- The items of a user, a name and perhaps a role; `cs` starts behind the opening bracket. -/
def readItems (cs : List Char) : Option (User × List Char) :=
  match Json.readQuoted (Json.skipSpace cs) with
  | none => none
  | some (username, rest) =>
    match Json.skipSpace rest with
    | ']' :: rest => some (⟨username, none⟩, rest)
    | ',' :: rest =>
      match Json.readNullable (Json.skipSpace rest) with
      | none => none
      | some (role, rest) =>
        match Json.skipSpace rest with
        | ']' :: rest => some (⟨username, role⟩, rest)
        | _ => none
    | _ => none

/-- The user that a stored text describes. -/
def ofText? (raw : String) : Option User :=
  Json.readWhole <|
    match Json.skipSpace raw.toList with
    | '\x7b' :: cs => readObject cs
    | '[' :: cs => readItems cs
    | _ => none

end User

end CatalogDesk
