import CatalogDesk.Net.Gateway
import CatalogDesk.Notice.Basic
import CatalogDesk.Session.Storage
import CatalogDesk.Store.Filters
import CatalogDesk.Table.Basic
import CatalogDesk.Catalog.Record

/-! # What a rehearsal is given

    A rehearsal runs a part of the console on prepared data, without a terminal and
    without a network.  What it is given comes as data values: replies of the gateway,
    stored items, failures, filters.  A member that is missing or of the wrong kind has
    a default, so a rehearsal states only what matters to it. -/

namespace CatalogDesk

/-! ## Members with defaults -/

namespace Json

def textAt? (j : Json) (key : String) : Option String :=
  (j.get? key).bind asText?

def textAt (j : Json) (key : String) : String :=
  (j.textAt? key).getD ""

def flagAt (j : Json) (key : String) : Bool :=
  match j.get? key with
  | some (.bool b) => b
  | _ => false

/-- A count, which may be written as a text. -/
def natAt? (j : Json) (key : String) : Option Nat :=
  match j.get? key with
  | some (.number (.integer i)) => if 0 ≤ i then some i.toNat else none
  | some (.text s) => s.toNat?
  | _ => none

def natAt (j : Json) (key : String) (default : Nat) : Nat :=
  (j.natAt? key).getD default

def listAt (j : Json) (key : String) : List Json :=
  match j.get? key with
  | some (.list xs) => xs
  | _ => []

def valueAt (j : Json) (key : String) : Json :=
  (j.get? key).getD .null

/-- A member that is present and not null. -/
def present? (j : Json) (key : String) : Option Json :=
  match j.get? key with
  | some .null => none
  | v => v

def textsAt (j : Json) (key : String) : List String :=
  (j.listAt key).filterMap asText?

/-- Two texts in a list. -/
def toPair : Json → String × String
  | .list [a, b] => ((a.asText?).getD "", (b.asText?).getD "")
  | _ => ("", "")

def pairsAt (j : Json) (key : String) : List (String × String) :=
  (j.listAt key).map toPair

end Json

namespace Rehearsal

open Json

/-! ## Domain values -/

def filtersOf (j : Json) : Filters :=
  { q := j.textAt "q", minPrice := j.textAt "min_price", maxPrice := j.textAt "max_price",
    channel := j.textAt "channel", characteristics := j.textsAt "characteristic" }

def levelOf (s : String) : NoticeLevel :=
  match s with
  | "success" => .success
  | "warn" => .warn
  | "error" => .error
  | _ => .info

def collectionOf (kind : String) : Collection :=
  match kind with
  | "specification" => .specifications
  | "price" => .prices
  | "offering" => .offerings
  | _ => .characteristics

/-- The record of a collection. -/
def recordOf (c : Collection) (v : Json) : Decode.Result CatalogRecord :=
  match c with
  | .characteristics => (Characteristic.decode v).map .characteristic
  | .specifications => (Specification.decode v).map .specification
  | .prices => (Price.decode v).map .price
  | .offerings => (Offering.decode v).map .offering

/-! ## Requests and replies -/

def failureOf (j : Json) : Failure :=
  let status := j.natAt "status" 500
  match j.textAt? "network", j.textAt? "decode", j.textAt? "encode", j.textAt? "message" with
  | some m, _, _, _ => .network m
  | _, some m, _, _ => .decode status m
  | _, _, some m, _ => .encode m
  | _, _, _, some m => .withStatus status m
  | _, _, _, _ => .ofAnswer status (j.get? "body")

/-- The outcome that a step carries: a record or a failure. -/
def outcomeOf (read : Json → Decode.Result α) (j : Json) : Decode.Result (Except Failure α) :=
  match j.get? "ok" with
  | some v => (read v).map .ok
  | none => .ok (.error (failureOf (j.valueAt "error")))

def methodOf (s : String) : Method :=
  match s with
  | "POST" => .post
  | "PUT" => .put
  | "DELETE" => .delete
  | _ => .get

def bodyOf (j : Json) : RequestBody :=
  match j.get? "json", j.get? "form" with
  | some v, _ => .json v
  | none, some (.list ps) => .form (ps.map toPair)
  | none, _ => .empty

def requestOf (j : Json) : Request :=
  { method := methodOf (j.textAt "method"), path := j.textAt "path", query := j.pairsAt "query",
    body := bodyOf (j.valueAt "body"), bearer := j.textAt? "bearer" }

/-- A prepared reply; without a status it is an answer with the status of success. -/
def replyOf (r : Json) : PreparedReply :=
  let delay := r.natAt "delay_ms" 0
  match r.textAt? "fail", r.natAt? "status" with
  | some m, _ => { reply := .error (.network m), delay }
  | none, none => { reply := .ok ⟨200, some (r.valueAt "body")⟩, delay }
  | none, some status => { reply := .ok ⟨status, r.get? "body"⟩, delay }

/-- The gateway with more prepared replies. -/
def prepare (g : Gateway) (routes : List Json) : Gateway :=
  routes.foldl
    (fun g r => g.prepare (methodOf (r.textAt "method")) (r.textAt "path") (replyOf r)) g

/-! ## Stored items -/

def itemsOf : Json → Items
  | .object members =>
    members.foldl (fun acc m => match m.2 with
      | .text s => Items.set m.1 s acc
      | _ => acc) []
  | _ => []

/-- A store with the names of the operations that fail. -/
def storeOf (items : Json) (fails : List String) : SessionStore :=
  { items := itemsOf items, failsToGet := fails.contains "get",
    failsToSet := fails.contains "set", failsToRemove := fails.contains "remove" }

/-! ## Tables -/

/-- The named members of a record as texts with bars between them. -/
def joinedText (names : List String) (record : Json) : String :=
  String.intercalate "|" (names.map fun name =>
    match record.get? name with
    | none => ""
    | some .null => ""
    | some (.text s) => s
    | some v => v.compact)

def columnOf (j : Json) : Column Json :=
  let accessor : Accessor Json := match j.get? "field" with
    | some (.text key) => .field key
    | _ => .computed (joinedText (j.textsAt "concat"))
  { label := j.textAt "label", accessor, sortable := j.flagAt "sortable",
    width := j.natAt? "width" }

end Rehearsal

end CatalogDesk
