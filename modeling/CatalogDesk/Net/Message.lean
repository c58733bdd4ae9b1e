import CatalogDesk.Json.Reader
import CatalogDesk.Text.Blank

/-! # Requests and answers

    A request names a path of the gateway and may carry parameters, a body and a
    bearer token.  An answer has a status and, unless it is empty, a body. -/

namespace CatalogDesk

/-- What a request does to its resource. -/
inductive Method where
  | get | post | put | delete
  deriving DecidableEq, Inhabited, Repr

def Method.label : Method → String
  | .get => "GET"
  | .post => "POST"
  | .put => "PUT"
  | .delete => "DELETE"

/-- The body of a request. -/
inductive RequestBody where
  | empty
  | json (value : Json)
  | form (fields : List (String × String))
  deriving Inhabited

/-- A request to the gateway. -/
structure Request where
  method : Method
  path : String
  /-- Parameters; a name may occur several times. -/
  query : List (String × String) := []
  body : RequestBody := .empty
  bearer : Option String := none
  deriving Inhabited

namespace Request

/-- The value in the body, if the body is one. -/
def json? (r : Request) : Option Json :=
  match r.body with
  | .json v => some v
  | _ => none

/-- The first value of a parameter. -/
def queryValue? (r : Request) (key : String) : Option String :=
  (r.query.find? (fun p => p.1 = key)).map (·.2)

end Request

/-- An answer of the gateway. -/
structure Answer where
  status : Nat
  body : Option Json
  deriving Inhabited

namespace Answer

/-- Has the answer a status of success? -/
def isSuccess (a : Answer) : Bool :=
  200 ≤ a.status && a.status < 300

/-- The body that a text stands for: nothing when it is blank, the data value it
    writes, or else the text itself. -/
def bodyOfText (s : String) : Option Json :=
  let t := Text.trim s
  if t = "" then none else some ((Json.parse? t).getD (.text t))

end Answer

end CatalogDesk
