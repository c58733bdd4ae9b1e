import CatalogDesk.Catalog.Specification

/-! # Offerings in the store

    The public store shows published offerings with everything they bundle spelled
    out, in pages of a search. -/

namespace CatalogDesk

/-- A pricing plan as the store shows it. -/
structure StorePrice where
  name : String
  value : Binary64
  currency : String
  unit : String
  deriving DecidableEq, Inhabited, Repr

/-- A characteristic as the store shows it. -/
structure StoreCharacteristic where
  name : String
  value : String
  unit : Option String
  deriving DecidableEq, Inhabited, Repr

/-- A specification as the store shows it. -/
structure StoreSpecification where
  name : String
  characteristics : List StoreCharacteristic
  deriving DecidableEq, Inhabited, Repr

/-- A published offering as the store shows it. -/
structure StoreOffering where
  id : RecordId
  name : String
  description : Option String
  channels : List String
  pricing : List StorePrice
  specifications : List StoreSpecification
  deriving DecidableEq, Inhabited, Repr

/-- One page of a search: how many offerings match in all, and some of them. -/
structure SearchPage where
  total : Nat
  items : List StoreOffering
  deriving DecidableEq, Inhabited, Repr

namespace StorePrice

open Decode

def title : String := "struct StorePrice"

def ofMembers (m : Json.Members) : Result StorePrice := do
  let currency ← field? m "currency" text
  let name ← field? m "name" text
  let unit ← field? m "unit" text
  let value ← field? m "value" amount
  let value ← require "value" value
  return ⟨name.getD "", value, currency.getD "", unit.getD ""⟩

def ofItems (xs : List Json) : Result StorePrice := do
  let name ← itemOr xs 0 "" text
  let value ← item xs 1 (elements title 4) amount
  let currency ← itemOr xs 2 "" text
  let unit ← itemOr xs 3 "" text
  return ⟨name, value, currency, unit⟩

def decode : Json → Result StorePrice :=
  record title 4 ofMembers ofItems

def encode (p : StorePrice) : Json :=
  .ofMembers [("name", .text p.name), ("value", .real p.value), ("currency", .text p.currency),
    ("unit", .text p.unit)]

end StorePrice

namespace StoreCharacteristic

open Decode

def title : String := "struct StoreCharacteristic"

def ofMembers (m : Json.Members) : Result StoreCharacteristic := do
  let name ← field? m "name" text
  let unit ← field? m "unit_of_measure" (nullable text)
  let value ← field? m "value" text
  let name ← require "name" name
  let value ← require "value" value
  return ⟨name, value, unit.join⟩

def ofItems (xs : List Json) : Result StoreCharacteristic := do
  let whole := elements title 3
  let name ← item xs 0 whole text
  let value ← item xs 1 whole text
  let unit ← itemOr xs 2 none (nullable text)
  return ⟨name, value, unit⟩

def decode : Json → Result StoreCharacteristic :=
  record title 3 ofMembers ofItems

def encode (c : StoreCharacteristic) : Json :=
  .ofMembers [("name", .text c.name), ("value", .text c.value),
    ("unit_of_measure", .ofOption .text c.unit)]

end StoreCharacteristic

namespace StoreSpecification

open Decode

def title : String := "struct StoreSpecification"

def ofMembers (m : Json.Members) : Result StoreSpecification := do
  let characteristics ← field? m "characteristics" (list StoreCharacteristic.decode)
  let name ← field? m "name" text
  let name ← require "name" name
  return ⟨name, characteristics.getD []⟩

def ofItems (xs : List Json) : Result StoreSpecification := do
  let name ← item xs 0 (elements title 2) text
  let characteristics ← itemOr xs 1 [] (list StoreCharacteristic.decode)
  return ⟨name, characteristics⟩

def decode : Json → Result StoreSpecification :=
  record title 2 ofMembers ofItems

def encode (s : StoreSpecification) : Json :=
  .ofMembers [("name", .text s.name),
    ("characteristics", .list (s.characteristics.map StoreCharacteristic.encode))]

end StoreSpecification

namespace StoreOffering

open Decode

def title : String := "struct StoreOffering"

def ofMembers (m : Json.Members) : Result StoreOffering := do
  let description ← field? m "description" (nullable text)
  let id ← field? m "id" text
  let name ← field? m "name" text
  let pricing ← field? m "pricing" (list StorePrice.decode)
  let channels ← field? m "sales_channels" (list text)
  let specifications ← field? m "specifications" (list StoreSpecification.decode)
  let id ← require "id" id
  let name ← require "name" name
  return ⟨id, name, description.join, channels.getD [], pricing.getD [],
    specifications.getD []⟩

def ofItems (xs : List Json) : Result StoreOffering := do
  let whole := elements title 6
  let id ← item xs 0 whole text
  let name ← item xs 1 whole text
  let description ← itemOr xs 2 none (nullable text)
  let channels ← itemOr xs 3 [] (list text)
  let pricing ← itemOr xs 4 [] (list StorePrice.decode)
  let specifications ← itemOr xs 5 [] (list StoreSpecification.decode)
  return ⟨id, name, description, channels, pricing, specifications⟩

def decode : Json → Result StoreOffering :=
  record title 6 ofMembers ofItems

def encode (o : StoreOffering) : Json :=
  .ofMembers [("id", .text o.id), ("name", .text o.name),
    ("description", .ofOption .text o.description),
    ("sales_channels", encodeTexts o.channels),
    ("pricing", .list (o.pricing.map StorePrice.encode)),
    ("specifications", .list (o.specifications.map StoreSpecification.encode))]

/-- The cheaper of two plans, the first when they cost the same. -/
def cheaper (p q : StorePrice) : StorePrice :=
  if q.value.totalRank < p.value.totalRank then q else p

/-- The cheapest plan of the offering. -/
def lowestPrice? (o : StoreOffering) : Option StorePrice :=
  match o.pricing with
  | [] => none
  | p :: ps => some (ps.foldl cheaper p)

/-- The leading characteristics of the first specification. -/
def topCharacteristics (o : StoreOffering) (limit : Nat) : List StoreCharacteristic :=
  match o.specifications with
  | [] => []
  | s :: _ => s.characteristics.take limit

end StoreOffering

namespace SearchPage

open Decode

def title : String := "struct SearchPage"

def ofMembers (m : Json.Members) : Result SearchPage := do
  let items ← field? m "items" (list StoreOffering.decode)
  let total ← field? m "total" count
  let total ← require "total" total
  return ⟨total, items.getD []⟩

def ofItems (xs : List Json) : Result SearchPage := do
  let total ← item xs 0 (elements title 2) count
  let items ← itemOr xs 1 [] (list StoreOffering.decode)
  return ⟨total, items⟩

def decode : Json → Result SearchPage :=
  record title 2 ofMembers ofItems

def encode (p : SearchPage) : Json :=
  .ofMembers [("total", .nat p.total), ("items", .list (p.items.map StoreOffering.encode))]

end SearchPage

end CatalogDesk
