import CatalogDesk.Session.Client

/-! # A gateway with prepared replies

    Stands in for the backend: each route has a queue of prepared replies, of which
    every request takes the first, while the last one repeats.  A reply may come after a
    delay. -/

namespace CatalogDesk

/-- A reply and the milliseconds after which it arrives. -/
structure PreparedReply where
  reply : Reply
  delay : Nat := 0
  deriving Inhabited

/-- The prepared replies of one method and path. -/
structure GatewayRoute where
  method : Method
  path : String
  replies : List PreparedReply
  deriving Inhabited

/-- The routes that have prepared replies. -/
structure Gateway where
  routes : List GatewayRoute := []
  deriving Inhabited

namespace Gateway

/-- What a route without prepared replies says. -/
def notFound : PreparedReply :=
  { reply := .ok ⟨404, some (.ofMembers [("detail", .text "Not Found")])⟩ }

/-- Appends a reply to the queue of its route. -/
def prepare (g : Gateway) (method : Method) (path : String) (reply : PreparedReply) : Gateway :=
  let add : List GatewayRoute → List GatewayRoute := fun routes =>
    if routes.any (fun r => r.method = method && r.path = path) then
      routes.map fun r =>
        if r.method = method && r.path = path then { r with replies := r.replies ++ [reply] }
        else r
    else routes ++ [⟨method, path, [reply]⟩]
  { g with routes := add g.routes }

/-- Takes the reply to a request. -/
def take (method : Method) (path : String) :
    List GatewayRoute → PreparedReply × List GatewayRoute
  | [] => (notFound, [])
  | r :: rest =>
    if r.method = method && r.path = path then
      match r.replies with
      | [] => (notFound, r :: rest)
      | [last] => (last, { r with replies := [last] } :: rest)
      | first :: more => (first, { r with replies := more } :: rest)
    else
      let (reply, rest) := take method path rest
      (reply, r :: rest)

/-- The reply to a request, and the gateway after it. -/
def answer (g : Gateway) (r : Request) : PreparedReply × Gateway :=
  let (reply, routes) := take r.method r.path g.routes
  (reply, { g with routes })

end Gateway

end CatalogDesk
