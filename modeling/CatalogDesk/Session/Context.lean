import CatalogDesk.Session.Client
import CatalogDesk.Session.Route
import CatalogDesk.Session.Storage
import CatalogDesk.Session.StoredUser

/-! # The session

    One user is signed in or nobody is.  The token stands in three places: in the
    session, in the client that sends requests, and in the store.  `login` and `logout`
    change them together, and both tell the screens by an event. -/

namespace CatalogDesk

/-- A change of the session that the screens have to hear of. -/
inductive SessionEvent where
  | loggedIn (user : User)
  | loggedOut
  deriving DecidableEq, Inhabited, Repr

/-- The session with its client and its store. -/
structure SessionContext where
  token : Option Token := none
  user : Option User := none
  client : Client := {}
  store : SessionStore := {}
  /-- Events that nobody has handled yet. -/
  events : List SessionEvent := []
  /-- Does anybody listen to events? -/
  listening : Bool := true
  deriving DecidableEq, Inhabited, Repr

namespace SessionContext

/-- The key of the stored token. -/
def tokenKey : String := "token"

/-- The key of the stored user. -/
def userKey : String := "user"

/-- The session that a store holds. -/
def restore (store : SessionStore) (policy : RejectionPolicy) : SessionContext :=
  let token := (store.get? tokenKey).bind Token.ofText?
  { token, user := (store.get? userKey).bind User.ofText?, client := { token, policy }, store }

/-- Tells those who listen. -/
def emit (c : SessionContext) (e : SessionEvent) : SessionContext :=
  if c.listening then { c with events := c.events ++ [e] } else c

/-- Starts a session.  If the store cannot be written the session holds all the same. -/
def login (c : SessionContext) (token : Token) (username : String) : User × SessionContext :=
  let user : User := { username }
  let store := (c.store.set tokenKey token.value).set userKey user.encode.compact
  let c := { c with
    token := some token, user := some user,
    client := { c.client with token := some token }, store }
  (user, c.emit (.loggedIn user))

/-- Ends the session; without one nothing happens. -/
def logout (c : SessionContext) : SessionContext :=
  if c.token.isNone && c.user.isNone then c
  else
    let c := { c with
      token := none, user := none,
      client := { c.client with token := none },
      store := (c.store.remove tokenKey).remove userKey }
    c.emit .loggedOut

def isAuthenticated (c : SessionContext) : Bool :=
  c.token.isSome

/-- The screen to show for a requested one. -/
def guard (c : SessionContext) (route : Route) : Route :=
  if route.requiresSession && !c.isAuthenticated then .login else route

/-- Does what the policy says about a refused token. -/
def reject (c : SessionContext) : SessionContext :=
  let c := { c with client := { c.client with rejections := c.client.rejections + 1 } }
  match c.client.policy with
  | .ignore => c
  | .clearToken => { c with client := { c.client with token := none } }
  | .endSession => c.logout

/-- Takes the reply to a request that was sent with the given bearer. -/
def receive (c : SessionContext) (bearer : Option String) (reply : Reply) :
    Reply × SessionContext :=
  (Client.outcome reply, if c.client.refuses bearer reply then c.reject else c)

end SessionContext

end CatalogDesk
