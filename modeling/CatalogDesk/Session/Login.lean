import CatalogDesk.Session.Error
import CatalogDesk.Text.Blank
import CatalogDesk.Task.Work

/-! # Logging in -/

namespace CatalogDesk

/-- What was typed to log in. -/
structure Credentials where
  username : String
  password : String
  deriving DecidableEq, Inhabited, Repr

namespace Credentials

def loginPath : String := "/auth/login"

/-- The name without blanks around it, and the password as typed, if both are there. -/
def checked (c : Credentials) : Except AuthError Credentials :=
  let username := Text.trim c.username
  if username = "" then .error (.missingCredential "Username")
  else if c.password = "" then .error (.missingCredential "Password")
  else .ok { c with username }

/-- What a failed login request means. -/
def refusal (f : Failure) : AuthError :=
  if f.status = some 400 || f.status = some 401 || f.status = some 403 then .rejected f.message
  else .request f

/-- Exchanges the credentials for a token and starts the session. -/
def login (c : Credentials) : Work (Except AuthError User) :=
  match c.checked with
  | .error e => .done (.error e)
  | .ok c => do
    let grant ← Work.postForm loginPath [("username", c.username), ("password", c.password)]
      TokenGrant.decode
    match grant with
    | .error f => return .error (refusal f)
    | .ok grant =>
      match Token.ofText? grant.accessToken with
      | none => return .error .invalidToken
      | some token => .login token c.username fun user => .done (.ok user)

end Credentials

end CatalogDesk
