import CatalogDesk.Json.Decode

/-! # Characteristics

    A characteristic is the smallest record of the catalog: a named value with a unit,
    such as a download speed of 500 Mbps. -/

namespace CatalogDesk

/-- The name that a service gives to a record when it is created. -/
abbrev RecordId := String

/-- Unit of the value of a characteristic. -/
inductive UnitOfMeasure where
  | mbps | gb | ghz | volt | watt | meter | none
  deriving DecidableEq, Inhabited, Repr

namespace UnitOfMeasure

/-- Every unit, in the order of selection. -/
def all : List UnitOfMeasure := [.mbps, .gb, .ghz, .volt, .watt, .meter, .none]

def label : UnitOfMeasure → String
  | .mbps => "Mbps"
  | .gb => "GB"
  | .ghz => "GHz"
  | .volt => "Volt"
  | .watt => "Watt"
  | .meter => "Meter"
  | .none => "None"

/-- The unit after this one; the first follows the last. -/
def next : UnitOfMeasure → UnitOfMeasure
  | .mbps => .gb
  | .gb => .ghz
  | .ghz => .volt
  | .volt => .watt
  | .watt => .meter
  | .meter => .none
  | .none => .mbps

def encode (u : UnitOfMeasure) : Json := .text u.label

def decode : Json → Decode.Result UnitOfMeasure :=
  Decode.variant (all.map fun u => (u.label, u))

end UnitOfMeasure

/-- A member that is written only when there is an instant. -/
def encodeInstant (key : String) : Option Timestamp → List (String × Json)
  | none => []
  | some t => [(key, .text t.text)]

/-- A named value with a unit. -/
structure Characteristic where
  id : RecordId
  name : String
  value : String
  unit : UnitOfMeasure
  createdAt : Option Timestamp
  updatedAt : Option Timestamp
  deriving DecidableEq, Inhabited, Repr

namespace Characteristic

open Decode

def title : String := "struct Characteristic"

def ofMembers (m : Json.Members) : Result Characteristic := do
  let createdAt ← field? m "created_at" timestamp
  let id ← field? m "id" text
  let name ← field? m "name" text
  let unit ← field? m "unit_of_measure" UnitOfMeasure.decode
  let updatedAt ← field? m "updated_at" timestamp
  let value ← field? m "value" text
  let id ← require "id" id
  let name ← require "name" name
  let value ← require "value" value
  let unit ← require "unit_of_measure" unit
  return ⟨id, name, value, unit, createdAt.join, updatedAt.join⟩

def ofItems (xs : List Json) : Result Characteristic := do
  let whole := elements title 6
  let id ← item xs 0 whole text
  let name ← item xs 1 whole text
  let value ← item xs 2 whole text
  let unit ← item xs 3 whole UnitOfMeasure.decode
  let createdAt ← itemOr xs 4 none timestamp
  let updatedAt ← itemOr xs 5 none timestamp
  return ⟨id, name, value, unit, createdAt, updatedAt⟩

def decode : Json → Result Characteristic :=
  record title 6 ofMembers ofItems

def encode (c : Characteristic) : Json :=
  .ofMembers ([
    ("id", .text c.id), ("name", .text c.name), ("value", .text c.value),
    ("unit_of_measure", c.unit.encode)] ++
    encodeInstant "created_at" c.createdAt ++ encodeInstant "updated_at" c.updatedAt)

end Characteristic

/-- What is sent to create or change a characteristic. -/
structure CharacteristicDraft where
  name : String
  value : String
  unit : UnitOfMeasure
  deriving DecidableEq, Inhabited, Repr

namespace CharacteristicDraft

open Decode

def title : String := "struct CharacteristicPayload"

def ofMembers (m : Json.Members) : Result CharacteristicDraft := do
  let name ← field? m "name" text
  let unit ← field? m "unit_of_measure" UnitOfMeasure.decode
  let value ← field? m "value" text
  let name ← require "name" name
  let value ← require "value" value
  let unit ← require "unit_of_measure" unit
  return ⟨name, value, unit⟩

def ofItems (xs : List Json) : Result CharacteristicDraft := do
  let whole := elements title 3
  let name ← item xs 0 whole text
  let value ← item xs 1 whole text
  let unit ← item xs 2 whole UnitOfMeasure.decode
  return ⟨name, value, unit⟩

def decode : Json → Result CharacteristicDraft :=
  record title 3 ofMembers ofItems

def encode (c : CharacteristicDraft) : Json :=
  .ofMembers [("name", .text c.name), ("value", .text c.value), ("unit_of_measure", c.unit.encode)]

end CharacteristicDraft

end CatalogDesk
