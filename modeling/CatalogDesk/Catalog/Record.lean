import CatalogDesk.Catalog.Offering
import CatalogDesk.Catalog.Price

/-! # Collections of the catalog -/

namespace CatalogDesk

/-- The kinds of records that are administered. -/
inductive Collection where
  | characteristics | specifications | prices | offerings
  deriving DecidableEq, Inhabited, Repr

namespace Collection

def all : List Collection := [.characteristics, .specifications, .prices, .offerings]

/-- The path of the collection at the gateway. -/
def path : Collection → String
  | .characteristics => "/characteristics"
  | .specifications => "/specifications"
  | .prices => "/prices"
  | .offerings => "/offerings"

/-- The name of the collection. -/
def title : Collection → String
  | .characteristics => "Characteristics"
  | .specifications => "Specifications"
  | .prices => "Pricing Plans"
  | .offerings => "Offerings"

/-- The name of one record. -/
def singular : Collection → String
  | .characteristics => "Characteristic"
  | .specifications => "Specification"
  | .prices => "Pricing plan"
  | .offerings => "Offering"

/-- The path of one record. -/
def recordPath (c : Collection) (id : String) : String :=
  c.path ++ "/" ++ id

end Collection

/-! ## Records of any kind -/

/-- A record of one of the collections. -/
inductive CatalogRecord where
  | characteristic (c : Characteristic)
  | specification (s : Specification)
  | price (p : Price)
  | offering (o : Offering)
  deriving DecidableEq, Inhabited, Repr

namespace CatalogRecord

def collection : CatalogRecord → Collection
  | .characteristic _ => .characteristics
  | .specification _ => .specifications
  | .price _ => .prices
  | .offering _ => .offerings

def id : CatalogRecord → RecordId
  | .characteristic c => c.id
  | .specification s => s.id
  | .price p => p.id
  | .offering o => o.id

def name : CatalogRecord → String
  | .characteristic c => c.name
  | .specification s => s.name
  | .price p => p.name
  | .offering o => o.name

def encode : CatalogRecord → Json
  | .characteristic c => c.encode
  | .specification s => s.encode
  | .price p => p.encode
  | .offering o => o.encode

end CatalogRecord

/-- The records of one collection. -/
inductive CatalogRecords where
  | characteristics (cs : List Characteristic)
  | specifications (ss : List Specification)
  | prices (ps : List Price)
  | offerings (os : List Offering)
  deriving DecidableEq, Inhabited, Repr

namespace CatalogRecords

def collection : CatalogRecords → Collection
  | .characteristics _ => .characteristics
  | .specifications _ => .specifications
  | .prices _ => .prices
  | .offerings _ => .offerings

/-- The records of a collection as data. -/
def decode (c : Collection) (v : Json) : Decode.Result CatalogRecords :=
  match c with
  | .characteristics => (Decode.list Characteristic.decode v).map .characteristics
  | .specifications => (Decode.list Specification.decode v).map .specifications
  | .prices => (Decode.list Price.decode v).map .prices
  | .offerings => (Decode.list Offering.decode v).map .offerings

def encode : CatalogRecords → Json
  | .characteristics cs => .list (cs.map Characteristic.encode)
  | .specifications ss => .list (ss.map Specification.encode)
  | .prices ps => .list (ps.map Price.encode)
  | .offerings os => .list (os.map Offering.encode)

end CatalogRecords

end CatalogDesk
