import CatalogDesk.Net.Failure
import CatalogDesk.Net.Message
import CatalogDesk.Session.Token

/-! # The client of the gateway

    The client puts its token on every request, as the token is when the request is
    sent.  An answer that refuses the session counts only if the token of its request
    is still the active one when the answer arrives. -/

namespace CatalogDesk

/-- What is done when the gateway refuses the active token. -/
inductive RejectionPolicy where
  | ignore
  | clearToken
  | endSession
  deriving DecidableEq, Inhabited, Repr

/-- The state of the client. -/
structure Client where
  token : Option Token := none
  policy : RejectionPolicy := .ignore
  /-- How often the active token was refused. -/
  rejections : Nat := 0
  deriving DecidableEq, Inhabited, Repr

/-- What a sent request brings back. -/
abbrev Reply := Except Failure Answer

namespace Client

/-- The bearer of a request that is sent now. -/
def bearer (c : Client) : Option String :=
  c.token.map Token.value

/-- Is this the bearer of the active token? -/
def isCurrent (c : Client) (bearer : Option String) : Bool :=
  bearer.isSome && bearer = c.bearer

/-- The outcome of a request: an answer with a failing status is a failure. -/
def outcome : Reply → Reply
  | .error f => .error f
  | .ok a => if a.isSuccess then .ok a else .error (.ofAnswer a.status a.body)

/-- Does the reply to a request with the given bearer refuse the active token?  A request
    that was not answered refuses nothing. -/
def refuses (c : Client) (bearer : Option String) : Reply → Bool
  | .error _ => false
  | .ok a =>
    !a.isSuccess && (Failure.ofAnswer a.status a.body).isUnauthorized && c.isCurrent bearer

end Client

end CatalogDesk
