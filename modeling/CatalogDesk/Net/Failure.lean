import CatalogDesk.Json.DecodeError

/-! # Failed requests

    A request fails on the way, by the status of the answer, or because a body is not
    what was expected.  The message is what a person gets to see; for a failing status
    it is the backend's own text where the body has one. -/

namespace CatalogDesk

/-- Where a request failed. -/
inductive FailureKind where
  /-- No answer arrived. -/
  | transport
  /-- The answer had a status outside 200 to 299. -/
  | status
  /-- A body could not be written, or the answer's body was not the expected record. -/
  | payload
  deriving DecidableEq, Inhabited, Repr

/-- The failure of a request. -/
structure Failure where
  kind : FailureKind
  /-- The status of the answer, if one arrived. -/
  status : Option Nat
  message : String
  deriving DecidableEq, Inhabited, Repr

namespace Failure

def network (message : String) : Failure := ⟨.transport, none, message⟩

def withStatus (status : Nat) (message : String) : Failure := ⟨.status, some status, message⟩

def decode (status : Nat) (message : String) : Failure :=
  ⟨.payload, some status, "Unexpected response from server: " ++ message⟩

def encode (message : String) : Failure :=
  ⟨.payload, none, "Failed to encode request: " ++ message⟩

/-- The texts under `msg` of the items of a list. -/
def itemMessages (items : List Json) : List String :=
  items.filterMap fun item => (item.get? "msg").bind Json.asText?

/-- The backend's message in the body of a failing answer: the body as a text, or its
    detail, which may be a text or a list of messages. -/
def bodyMessage? : Json → Option String
  | .text s => if Text.trim s = "" then none else some (Text.trim s)
  | .object members =>
    match (Json.Members.get? "detail" members).or (Json.Members.get? "message" members) with
    | some (.text s) => some s
    | some (.list items) =>
      match itemMessages items with
      | [] => none
      | ms => some (String.intercalate "; " ms)
    | _ => none
  | _ => none

/-- The failure that an answer with a failing status stands for. -/
def ofAnswer (status : Nat) (body : Option Json) : Failure :=
  withStatus status
    ((body.bind bodyMessage?).getD ("Request failed with status " ++ toString status))

/-- Was the session refused? -/
def isUnauthorized (f : Failure) : Bool :=
  f.kind = .status && f.status = some 401

/-- Does the resource not exist? -/
def isNotFound (f : Failure) : Bool :=
  f.kind = .status && f.status = some 404

/-- Did no answer arrive? -/
def isNetwork (f : Failure) : Bool :=
  f.kind = .transport

/-- Could a body not be written or read? -/
def isPayload (f : Failure) : Bool :=
  f.kind = .payload

end Failure

end CatalogDesk
