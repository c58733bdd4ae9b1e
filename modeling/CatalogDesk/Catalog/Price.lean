import CatalogDesk.Catalog.Characteristic

/-! # Pricing plans

    A pricing plan is an amount of money in a currency, charged per unit of time or
    use.  While a published offering refers to a plan the backend locks it, and a
    locked plan is read only. -/

namespace CatalogDesk

/-- Currency of a pricing plan. -/
inductive Currency where
  | usd | eur | lira
  deriving DecidableEq, Inhabited, Repr

namespace Currency

def all : List Currency := [.usd, .eur, .lira]

def label : Currency → String
  | .usd => "USD"
  | .eur => "EUR"
  | .lira => "TRY"

/-- The currency after this one; the first follows the last. -/
def next : Currency → Currency
  | .usd => .eur
  | .eur => .lira
  | .lira => .usd

def encode (c : Currency) : Json := .text c.label

def decode : Json → Decode.Result Currency :=
  Decode.variant (all.map fun c => (c.label, c))

end Currency

/-- An amount of money that can be attached to an offering. -/
structure Price where
  id : RecordId
  name : String
  value : Binary64
  unit : String
  currency : Currency
  /-- Does a published offering refer to the plan? -/
  locked : Bool
  lockedBy : Option String
  createdAt : Option Timestamp
  updatedAt : Option Timestamp
  deriving DecidableEq, Inhabited, Repr

namespace Price

open Decode

def title : String := "struct Price"

def ofMembers (m : Json.Members) : Result Price := do
  let createdAt ← field? m "created_at" timestamp
  let currency ← field? m "currency" Currency.decode
  let id ← field? m "id" text
  let locked ← field? m "locked" bool
  let lockedBy ← field? m "locked_by_saga_id" (nullable text)
  let name ← field? m "name" text
  let unit ← field? m "unit" text
  let updatedAt ← field? m "updated_at" timestamp
  let value ← field? m "value" amount
  let id ← require "id" id
  let name ← require "name" name
  let value ← require "value" value
  let unit ← require "unit" unit
  let currency ← require "currency" currency
  return ⟨id, name, value, unit, currency, locked.getD false, lockedBy.join, createdAt.join,
    updatedAt.join⟩

def ofItems (xs : List Json) : Result Price := do
  let whole := elements title 9
  let id ← item xs 0 whole text
  let name ← item xs 1 whole text
  let value ← item xs 2 whole amount
  let unit ← item xs 3 whole text
  let currency ← item xs 4 whole Currency.decode
  let locked ← itemOr xs 5 false bool
  let lockedBy ← itemOr xs 6 none (nullable text)
  let createdAt ← itemOr xs 7 none timestamp
  let updatedAt ← itemOr xs 8 none timestamp
  return ⟨id, name, value, unit, currency, locked, lockedBy, createdAt, updatedAt⟩

def decode : Json → Result Price :=
  record title 9 ofMembers ofItems

def encode (p : Price) : Json :=
  .ofMembers ([
    ("id", .text p.id), ("name", .text p.name), ("value", .real p.value),
    ("unit", .text p.unit), ("currency", p.currency.encode), ("locked", .bool p.locked)] ++
    (match p.lockedBy with
     | some s => [("locked_by_saga_id", .text s)]
     | none => []) ++
    encodeInstant "created_at" p.createdAt ++ encodeInstant "updated_at" p.updatedAt)

/-- A locked plan is read only. -/
def isEditable (p : Price) : Bool := !p.locked

/-- The amount as it is shown: `12.50 USD / per month`. -/
def displayAmount (p : Price) : String :=
  p.value.amountText ++ " " ++ p.currency.label ++ " / " ++ p.unit

end Price

/-- What is sent to create or change a pricing plan. -/
structure PriceDraft where
  name : String
  value : Binary64
  unit : String
  currency : Currency
  deriving DecidableEq, Inhabited, Repr

namespace PriceDraft

open Decode

def title : String := "struct PricePayload"

def ofMembers (m : Json.Members) : Result PriceDraft := do
  let currency ← field? m "currency" Currency.decode
  let name ← field? m "name" text
  let unit ← field? m "unit" text
  let value ← field? m "value" real
  let name ← require "name" name
  let value ← require "value" value
  let unit ← require "unit" unit
  let currency ← require "currency" currency
  return ⟨name, value, unit, currency⟩

def ofItems (xs : List Json) : Result PriceDraft := do
  let whole := elements title 4
  let name ← item xs 0 whole text
  let value ← item xs 1 whole real
  let unit ← item xs 2 whole text
  let currency ← item xs 3 whole Currency.decode
  return ⟨name, value, unit, currency⟩

def decode : Json → Result PriceDraft :=
  record title 4 ofMembers ofItems

def encode (p : PriceDraft) : Json :=
  .ofMembers [("name", .text p.name), ("value", .real p.value), ("unit", .text p.unit),
    ("currency", p.currency.encode)]

end PriceDraft

end CatalogDesk
