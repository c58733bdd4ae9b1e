import CatalogDesk.Catalog.Refusal
import CatalogDesk.Notice.Basic
import CatalogDesk.Session.Client
import CatalogDesk.Session.User

/-! # Background work

    A piece of work is what a task does from one request to the next: it sends a request
    and goes on with the outcome, shows notices, starts a session, or starts to watch an
    offering, and ends with a result.  Between two of these steps nothing of the rest of
    the program can change, so a work is a tree whose branches are the possible outcomes.

    Main definitions: `Work`, its sequencing `Work.bind`, and the requests `get`, `post`,
    `put`, `delete` that read the record in the answer's body. -/

namespace CatalogDesk

/-- What a task does until it ends with a result. -/
inductive Work (α : Type) where
  | done (result : α)
  | send (request : Request) (next : Reply → Work α)
  /-- Two requests at once; the first failure ends both.  An answer counts as failed if
      it is vetted as such. -/
  | sendBoth (first second : Request) (vetFirst vetSecond : Answer → Option Failure)
      (next : Except Failure (Answer × Answer) → Work α)
  | toast (t : Toast) (next : Work α)
  | login (token : Token) (username : String) (next : User → Work α)
  /-- Starts to watch an offering; the number of the watch, unless one runs already. -/
  | watch (id : RecordId) (next : Except WatchError Nat → Work α)

namespace Work

variable {α β : Type}

/-- One piece of work after another. -/
def bind (w : Work α) (f : α → Work β) : Work β :=
  match w with
  | .done a => f a
  | .send r k => .send r fun reply => (k reply).bind f
  | .sendBoth r s v u k => .sendBoth r s v u fun replies => (k replies).bind f
  | .toast t k => .toast t (k.bind f)
  | .login t n k => .login t n fun u => (k u).bind f
  | .watch id k => .watch id fun h => (k h).bind f

instance : Monad Work where
  pure := .done
  bind := bind

/-- Sends a request. -/
def request (r : Request) : Work Reply :=
  .send r .done

/-- Shows a notice. -/
def notify (level : NoticeLevel) (message : String) : Work Unit :=
  .toast ⟨level, message⟩ (.done ())

/-- Shows notices, and goes on. -/
def showAll (toasts : List Toast) (next : Work α) : Work α :=
  toasts.foldr .toast next

/-- The record in the body of an answer; an empty body is read as null. -/
def readBody (read : Json → Decode.Result α) (a : Answer) : Except Failure α :=
  (read (a.body.getD .null)).mapError fun e => .decode a.status e.message

/-- The record in the body of a reply. -/
def readReply (read : Json → Decode.Result α) (reply : Reply) : Except Failure α :=
  reply.bind (readBody read)

def get (path : String) (query : List (String × String)) (read : Json → Decode.Result α) :
    Work (Except Failure α) :=
  .send { method := .get, path, query } fun reply => .done (readReply read reply)

def post (path : String) (body : Json) (read : Json → Decode.Result α) :
    Work (Except Failure α) :=
  .send { method := .post, path, body := .json body } fun reply => .done (readReply read reply)

def put (path : String) (body : Json) (read : Json → Decode.Result α) :
    Work (Except Failure α) :=
  .send { method := .put, path, body := .json body } fun reply => .done (readReply read reply)

def postForm (path : String) (fields : List (String × String))
    (read : Json → Decode.Result α) : Work (Except Failure α) :=
  .send { method := .post, path, body := .form fields } fun reply =>
    .done (readReply read reply)

def delete (path : String) : Work (Except Failure Unit) :=
  .send { method := .delete, path } fun reply => .done (reply.map fun _ => ())

/-- Two collections read at once. -/
def getBoth (path₁ : String) (read₁ : Json → Decode.Result α) (path₂ : String)
    (read₂ : Json → Decode.Result β) : Work (Except Failure (α × β)) :=
  let vet {γ : Type} (read : Json → Decode.Result γ) (a : Answer) : Option Failure :=
    match readBody read a with
    | .ok _ => none
    | .error f => some f
  .sendBoth { method := .get, path := path₁ } { method := .get, path := path₂ }
    (vet read₁) (vet read₂) fun replies => .done do
      let (a, b) ← replies
      let x ← readBody read₁ a
      let y ← readBody read₂ b
      return (x, y)

end Work

end CatalogDesk
