/-! # Screens to navigate to -/

namespace CatalogDesk

/-- The screens of the console. -/
inductive Route where
  | login | builder | viewer | store
  deriving DecidableEq, Inhabited, Repr

namespace Route

def all : List Route := [.login, .builder, .viewer, .store]

/-- Is the screen shown only to a signed-in user? -/
def requiresSession : Route → Bool
  | .builder => true
  | .viewer => true
  | _ => false

def title : Route → String
  | .login => "Sign in"
  | .builder => "Builder"
  | .viewer => "Viewer"
  | .store => "Store"

/-- The name under which the screen is remembered between runs. -/
def name : Route → String
  | .login => "login"
  | .builder => "builder"
  | .viewer => "viewer"
  | .store => "store"

def ofName? (s : String) : Option Route :=
  all.find? (fun r => r.name = s)

end Route

end CatalogDesk
