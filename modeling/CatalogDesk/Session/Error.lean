import CatalogDesk.Net.Failure

/-! # Errors of a session -/

namespace CatalogDesk

/-- What can go wrong with the store of a session. -/
inductive StorageError where
  | noDirectory
  | readFailed (why : String)
  | writeFailed (why : String)
  | corrupt (why : String)
  deriving DecidableEq, Inhabited, Repr

def StorageError.message : StorageError → String
  | .noDirectory => "failed to determine data directory"
  | .readFailed why => "failed to read storage file: " ++ why
  | .writeFailed why => "failed to write storage file: " ++ why
  | .corrupt why => "stored value is corrupt: " ++ why

/-- Why a login failed. -/
inductive AuthError where
  | missingCredential (field : String)
  | rejected (message : String)
  | invalidToken
  | request (failure : Failure)
  | storage (cause : StorageError)
  deriving DecidableEq, Inhabited, Repr

namespace AuthError

def message : AuthError → String
  | .missingCredential field => field ++ " is required"
  | .rejected m => m
  | .invalidToken => "login response did not contain a usable access token"
  | .request failure => failure.message
  | .storage cause => "session storage error: " ++ cause.message

/-- What the login screen says. -/
def userMessage : AuthError → String
  | .rejected m => if m = "" then "Invalid credentials. Please try again." else m
  | e => e.message

/-- Can the user mend it by trying again? -/
def isRecoverable : AuthError → Bool
  | .missingCredential _ => true
  | .rejected _ => true
  | .request _ => true
  | _ => false

end AuthError

end CatalogDesk
