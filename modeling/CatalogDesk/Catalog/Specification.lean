import CatalogDesk.Catalog.Characteristic

/-! # Specifications

    A specification is a named bundle of characteristics. -/

namespace CatalogDesk

/-- A list of texts as data. -/
def encodeTexts (xs : List String) : Json := .list (xs.map .text)

/-- A named bundle of characteristics. -/
structure Specification where
  id : RecordId
  name : String
  characteristicIds : List RecordId
  createdAt : Option Timestamp
  updatedAt : Option Timestamp
  deriving DecidableEq, Inhabited, Repr

namespace Specification

open Decode

def title : String := "struct Specification"

def ofMembers (m : Json.Members) : Result Specification := do
  let characteristicIds ← field? m "characteristic_ids" (list text)
  let createdAt ← field? m "created_at" timestamp
  let id ← field? m "id" text
  let name ← field? m "name" text
  let updatedAt ← field? m "updated_at" timestamp
  let id ← require "id" id
  let name ← require "name" name
  return ⟨id, name, characteristicIds.getD [], createdAt.join, updatedAt.join⟩

def ofItems (xs : List Json) : Result Specification := do
  let whole := elements title 5
  let id ← item xs 0 whole text
  let name ← item xs 1 whole text
  let characteristicIds ← itemOr xs 2 [] (list text)
  let createdAt ← itemOr xs 3 none timestamp
  let updatedAt ← itemOr xs 4 none timestamp
  return ⟨id, name, characteristicIds, createdAt, updatedAt⟩

def decode : Json → Result Specification :=
  record title 5 ofMembers ofItems

def encode (s : Specification) : Json :=
  .ofMembers ([
    ("id", .text s.id), ("name", .text s.name),
    ("characteristic_ids", encodeTexts s.characteristicIds)] ++
    encodeInstant "created_at" s.createdAt ++ encodeInstant "updated_at" s.updatedAt)

end Specification

/-- What is sent to create or change a specification. -/
structure SpecificationDraft where
  name : String
  characteristicIds : List RecordId
  deriving DecidableEq, Inhabited, Repr

namespace SpecificationDraft

open Decode

def title : String := "struct SpecificationPayload"

def ofMembers (m : Json.Members) : Result SpecificationDraft := do
  let characteristicIds ← field? m "characteristic_ids" (list text)
  let name ← field? m "name" text
  let name ← require "name" name
  let characteristicIds ← require "characteristic_ids" characteristicIds
  return ⟨name, characteristicIds⟩

def ofItems (xs : List Json) : Result SpecificationDraft := do
  let whole := elements title 2
  let name ← item xs 0 whole text
  let characteristicIds ← item xs 1 whole (list text)
  return ⟨name, characteristicIds⟩

def decode : Json → Result SpecificationDraft :=
  record title 2 ofMembers ofItems

def encode (s : SpecificationDraft) : Json :=
  .ofMembers [("name", .text s.name), ("characteristic_ids", encodeTexts s.characteristicIds)]

end SpecificationDraft

end CatalogDesk
