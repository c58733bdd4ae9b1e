import CatalogDesk.Json.Decode
import CatalogDesk.Json.Printer
import CatalogDesk.Json.Reader

/-! # Users -/

namespace CatalogDesk

/-- The signed-in user. -/
structure User where
  username : String
  role : Option String := none
  deriving DecidableEq, Inhabited, Repr

namespace User

open Decode

def title : String := "struct User"

def ofMembers (m : Json.Members) : Result User := do
  let role ← field? m "role" (nullable text)
  let username ← field? m "username" text
  let username ← require "username" username
  return ⟨username, role.join⟩

def ofItems (xs : List Json) : Result User := do
  let username ← item xs 0 (elements title 2) text
  let role ← itemOr xs 1 none (nullable text)
  return ⟨username, role⟩

def decode : Json → Result User :=
  record title 2 ofMembers ofItems

def encode (u : User) : Json :=
  .ofMembers ([("username", .text u.username)] ++
    (match u.role with
     | some r => [("role", .text r)]
     | none => []))

end User

/-- The answer of the identity service to a login. -/
structure TokenGrant where
  accessToken : String
  tokenType : Option String
  deriving DecidableEq, Inhabited, Repr

namespace TokenGrant

open Decode

def title : String := "struct TokenResponse"

def ofMembers (m : Json.Members) : Result TokenGrant := do
  let accessToken ← field? m "access_token" text
  let tokenType ← field? m "token_type" (nullable text)
  let accessToken ← require "access_token" accessToken
  return ⟨accessToken, tokenType.join⟩

def ofItems (xs : List Json) : Result TokenGrant := do
  let accessToken ← item xs 0 (elements title 2) text
  let tokenType ← itemOr xs 1 none (nullable text)
  return ⟨accessToken, tokenType⟩

def decode : Json → Result TokenGrant :=
  record title 2 ofMembers ofItems

end TokenGrant

end CatalogDesk
