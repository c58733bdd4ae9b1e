import CatalogDesk.Catalog.Specification

/-! # Offerings

    An offering bundles specifications and pricing plans for sale.  It starts as a
    draft, is published by the backend, and ends retired.  What may be done with it
    depends on where it is in this life: only a complete draft is published, only a
    published one retired, only drafts are edited. -/

namespace CatalogDesk

/-- Where an offering is in its life; the backend decides. -/
inductive Lifecycle where
  | draft | publishing | published | retired
  deriving DecidableEq, Inhabited, Repr

namespace Lifecycle

def all : List Lifecycle := [.draft, .publishing, .published, .retired]

def label : Lifecycle → String
  | .draft => "DRAFT"
  | .publishing => "PUBLISHING"
  | .published => "PUBLISHED"
  | .retired => "RETIRED"

def encode (s : Lifecycle) : Json := .text s.label

def decode : Json → Decode.Result Lifecycle :=
  Decode.variant (all.map fun s => (s.label, s))

end Lifecycle

/-- Where an offering is sold. -/
inductive SalesChannel where
  | online | retail | partner
  deriving DecidableEq, Inhabited, Repr

namespace SalesChannel

def all : List SalesChannel := [.online, .retail, .partner]

def label : SalesChannel → String
  | .online => "Online"
  | .retail => "Retail"
  | .partner => "Partner"

/-- The channel with exactly this label. -/
def ofLabel? (s : String) : Option SalesChannel :=
  all.find? (fun c => c.label = s)

def encode (c : SalesChannel) : Json := .text c.label

def decode : Json → Decode.Result SalesChannel :=
  Decode.variant (all.map fun c => (c.label, c))

end SalesChannel

/-- What an offering may lack for publication. -/
inductive PublishRequirement where
  | specification | price | salesChannel
  deriving DecidableEq, Inhabited, Repr

namespace PublishRequirement

def label : PublishRequirement → String
  | .specification => "1 specification"
  | .price => "1 price"
  | .salesChannel => "1 sales channel"

/-- The requirements that a selection fails, in a fixed order. -/
def missing (specificationIds priceIds : List RecordId) (channels : List SalesChannel) :
    List PublishRequirement :=
  (if specificationIds.isEmpty then [.specification] else []) ++
    (if priceIds.isEmpty then [.price] else []) ++
    (if channels.isEmpty then [.salesChannel] else [])

end PublishRequirement

/-- A bundle of specifications and pricing plans for sale. -/
structure Offering where
  id : RecordId
  name : String
  description : Option String
  specificationIds : List RecordId
  priceIds : List RecordId
  channels : List SalesChannel
  status : Lifecycle
  createdAt : Option Timestamp
  updatedAt : Option Timestamp
  publishedAt : Option Timestamp
  retiredAt : Option Timestamp
  deriving DecidableEq, Inhabited, Repr

namespace Offering

open Decode

def title : String := "struct Offering"

/-- The list of price ids, under its name or its older name; having both is an
    error. -/
def priceField (m : Json.Members) : Result (Option (List RecordId)) := do
  let price ← field? m "price_ids" (list text)
  match Json.Members.get? "pricing_ids" m, price with
  | none, price => return price
  | some _, some _ => .error (.duplicateField "price_ids")
  | some v, none => (list text v).map some

def ofMembers (m : Json.Members) : Result Offering := do
  let createdAt ← field? m "created_at" timestamp
  let description ← field? m "description" (nullable text)
  let id ← field? m "id" text
  let status ← field? m "lifecycle_status" Lifecycle.decode
  let name ← field? m "name" text
  let priceIds ← priceField m
  let publishedAt ← field? m "published_at" timestamp
  let retiredAt ← field? m "retired_at" timestamp
  let channels ← field? m "sales_channels" (list SalesChannel.decode)
  let specificationIds ← field? m "specification_ids" (list text)
  let updatedAt ← field? m "updated_at" timestamp
  let id ← require "id" id
  let name ← require "name" name
  return ⟨id, name, description.join, specificationIds.getD [], priceIds.getD [],
    channels.getD [], status.getD .draft, createdAt.join, updatedAt.join, publishedAt.join,
    retiredAt.join⟩

def ofItems (xs : List Json) : Result Offering := do
  let whole := elements title 11
  let id ← item xs 0 whole text
  let name ← item xs 1 whole text
  let description ← itemOr xs 2 none (nullable text)
  let specificationIds ← itemOr xs 3 [] (list text)
  let priceIds ← itemOr xs 4 [] (list text)
  let channels ← itemOr xs 5 [] (list SalesChannel.decode)
  let status ← itemOr xs 6 .draft Lifecycle.decode
  let createdAt ← itemOr xs 7 none timestamp
  let updatedAt ← itemOr xs 8 none timestamp
  let publishedAt ← itemOr xs 9 none timestamp
  let retiredAt ← itemOr xs 10 none timestamp
  return ⟨id, name, description, specificationIds, priceIds, channels, status, createdAt,
    updatedAt, publishedAt, retiredAt⟩

def decode : Json → Result Offering :=
  record title 11 ofMembers ofItems

def encode (o : Offering) : Json :=
  .ofMembers ([
    ("id", .text o.id), ("name", .text o.name),
    ("description", .ofOption .text o.description),
    ("specification_ids", encodeTexts o.specificationIds),
    ("price_ids", encodeTexts o.priceIds),
    ("sales_channels", .list (o.channels.map SalesChannel.encode)),
    ("lifecycle_status", o.status.encode)] ++
    encodeInstant "created_at" o.createdAt ++ encodeInstant "updated_at" o.updatedAt ++
    encodeInstant "published_at" o.publishedAt ++ encodeInstant "retired_at" o.retiredAt)

/-- What the offering still lacks for publication. -/
def missingRequirements (o : Offering) : List PublishRequirement :=
  PublishRequirement.missing o.specificationIds o.priceIds o.channels

/-- Only a complete draft is published. -/
def canPublish (o : Offering) : Bool :=
  o.status = .draft && o.missingRequirements.isEmpty

/-- Only a published offering is retired. -/
def canRetire (o : Offering) : Bool :=
  o.status = .published

/-- Drafts and retired offerings belong to no live publication. -/
def canDelete (o : Offering) : Bool :=
  o.status = .draft || o.status = .retired

/-- Only drafts are edited. -/
def isEditable (o : Offering) : Bool :=
  o.status = .draft

end Offering

/-- What is sent to create or change an offering. -/
structure OfferingDraft where
  name : String
  description : Option String
  specificationIds : List RecordId
  priceIds : List RecordId
  channels : List SalesChannel
  deriving DecidableEq, Inhabited, Repr

namespace OfferingDraft

open Decode

def title : String := "struct OfferingPayload"

def ofMembers (m : Json.Members) : Result OfferingDraft := do
  let description ← field? m "description" (nullable text)
  let name ← field? m "name" text
  let priceIds ← field? m "price_ids" (list text)
  let channels ← field? m "sales_channels" (list SalesChannel.decode)
  let specificationIds ← field? m "specification_ids" (list text)
  let name ← require "name" name
  let specificationIds ← require "specification_ids" specificationIds
  let priceIds ← require "price_ids" priceIds
  let channels ← require "sales_channels" channels
  return ⟨name, description.join, specificationIds, priceIds, channels⟩

def ofItems (xs : List Json) : Result OfferingDraft := do
  let whole := elements title 5
  let name ← item xs 0 whole text
  let description ← item xs 1 whole (nullable text)
  let specificationIds ← item xs 2 whole (list text)
  let priceIds ← item xs 3 whole (list text)
  let channels ← item xs 4 whole (list SalesChannel.decode)
  return ⟨name, description, specificationIds, priceIds, channels⟩

def decode : Json → Result OfferingDraft :=
  record title 5 ofMembers ofItems

def encode (o : OfferingDraft) : Json :=
  .ofMembers ([("name", .text o.name)] ++
    (match o.description with
     | some s => [("description", .text s)]
     | none => []) ++ [
    ("specification_ids", encodeTexts o.specificationIds),
    ("price_ids", encodeTexts o.priceIds),
    ("sales_channels", .list (o.channels.map SalesChannel.encode))])

end OfferingDraft

end CatalogDesk
