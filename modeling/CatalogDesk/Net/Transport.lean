import CatalogDesk.Net.Address
import CatalogDesk.Net.Failure
import CatalogDesk.Net.Message
import CatalogDesk.Json.Printer

/-! # Requests on the wire

    A request becomes a message with an address, headers and a body; what comes back
    becomes an answer, or a failure that says why none arrived. -/

namespace CatalogDesk

/-- A connection to the gateway at a base address, kept without slashes at its end. -/
structure Transport where
  base : String
  deriving DecidableEq, Inhabited, Repr

/-- A message as the gateway receives it. -/
structure WireMessage where
  method : Method
  address : Address
  authorization : Option String
  contentType : Option String
  body : String
  deriving DecidableEq, Inhabited, Repr

/-- What happens to a message that was sent. -/
inductive Delivery where
  | answered (status : Nat) (octets : List UInt8)
  /-- Nobody accepts the connection. -/
  | refused
  /-- The connection ends before the answer. -/
  | hungUp
  /-- The connection ends inside the body of the answer. -/
  | cutOff (status : Nat)
  /-- No answer comes in time. -/
  | silent
  deriving DecidableEq, Inhabited, Repr

namespace Transport

/-- The name under which the console presents itself. -/
def userAgent : String := "catalog-console/0.1.0"

def new (base : String) : Transport :=
  ⟨String.ofList (base.toList.reverse.dropWhile (· = '/')).reverse⟩

/-- The address of a path, as a text. -/
def join (t : Transport) (path : String) : String :=
  if path.toList.head? = some '/' then t.base ++ path else t.base ++ "/" ++ path

/-- Can the text stand in a header? -/
def isHeaderText (s : String) : Bool :=
  s.toList.all fun c => c = '\t' || (32 ≤ c.toNat && c.toNat ≠ 127)

def contentTypeOf : RequestBody → Option String
  | .empty => none
  | .json _ => some "application/json"
  | .form _ => some "application/x-www-form-urlencoded"

def bodyText : RequestBody → String
  | .empty => ""
  | .json v => v.compact
  | .form fields => FormEncoding.encode fields

/-- A message that cannot be built. -/
def unbuildable : Failure := .network "builder error"

/-- The message of a request. -/
def message (t : Transport) (r : Request) : Except Failure WireMessage :=
  match Address.ofText? (t.join r.path) with
  | none => .error unbuildable
  | some address =>
    let authorization := r.bearer.map fun token => "Bearer " ++ token
    if authorization.any fun s => !isHeaderText s then .error unbuildable
    else
      .ok { method := r.method, address := address.withQuery r.query,
            authorization := authorization.map Text.trim,
            contentType := contentTypeOf r.body, body := bodyText r.body }

/-- Has an answer with this status no body? -/
def isBodiless (status : Nat) : Bool := status = 204 || status = 304

/-- The answer in the octets that came back. -/
def answerOf (status : Nat) (octets : List UInt8) : Answer :=
  if isBodiless status then ⟨status, none⟩
  else ⟨status, Answer.bodyOfText (String.ofList (Text.decode octets))⟩

/-- What becomes of a message. -/
def outcome (m : WireMessage) : Delivery → Except Failure Answer
  | .answered status octets => .ok (answerOf status octets)
  | .refused => .error (.network "failed to connect to the catalog service")
  | .hungUp =>
    .error (.network ("error sending request for url (" ++ m.address.text ++ ")"))
  | .cutOff status =>
    if isBodiless status then .ok ⟨status, none⟩
    else .error (.network "failed to read response body: error decoding response body")
  | .silent => .error (.network "request timed out")

/-- Sends a request over a connection on which `delivery` happens.  A secure connection
    cannot be made. -/
def send (t : Transport) (r : Request) (delivery : Delivery) :
    Option WireMessage × Except Failure Answer :=
  match t.message r with
  | .error f => (none, .error f)
  | .ok m => (some m, outcome m (if m.address.secure then .refused else delivery))

end Transport

/-- Does the gateway get to see the whole message? -/
def Delivery.isReceived : Delivery → Bool
  | .answered _ _ => true
  | .cutOff _ => true
  | _ => false

end CatalogDesk
