import CatalogDesk.Catalog.Record
import CatalogDesk.Net.Failure
import CatalogDesk.Screen.Bars
import CatalogDesk.Screen.TableView
import CatalogDesk.Screen.TextField

/-! # The viewer

    One table for each collection, of which one is active, with a search field above
    it.  Actions apply to the selected row; a row is deleted only if the next key after
    the request to delete it confirms that. -/

namespace CatalogDesk

open Draw

/-- What a key in the viewer leads to. -/
inductive ViewerAction
  | none
  /-- To list a collection anew. -/
  | reload (c : Collection)
  | edit (r : CatalogRecord)
  | delete (r : CatalogRecord)
  | publish (o : Offering)
  | retire (o : Offering)
  deriving DecidableEq, Repr

/-- The viewer. -/
structure Viewer where
  active : Collection := .characteristics
  characteristics : Table Characteristic
  specifications : Table Specification
  prices : Table Price
  offerings : Table Offering
  search : TextField := { label := " Search ", placeholder := "Type to filter rows..." }
  /-- Do keys go to the search field? -/
  searching : Bool := false
  /-- The record that waits for the confirmation to delete it. -/
  doomed : Option CatalogRecord := none

namespace Viewer

/-! ## The columns -/

/-- A time to the minute, or nothing. -/
def instantText (t : Option Timestamp) : String := (t.map Timestamp.shortText).getD ""

/-- A field that can be sorted by. -/
def sortableField (label key : String) (width : Option Nat := none) : Column α :=
  { label, accessor := .field key, sortable := true, width }

/-- A time that can be sorted by. -/
def instantColumn (label : String) (instant : α → Option Timestamp) : Column α :=
  { label, accessor := .computed fun r => instantText (instant r), sortable := true,
    width := some 16 }

/-- A computed text that cannot be sorted by. -/
def computedColumn (label : String) (text : α → String) (width : Option Nat := none) :
    Column α :=
  { label, accessor := .computed text, width }

def characteristicColumns : List (Column Characteristic) :=
  [sortableField "Name" "name", sortableField "Value" "value",
    computedColumn "Unit" (fun c => c.unit.label) (some 10), instantColumn "Created" (·.createdAt)]

def specificationColumns : List (Column Specification) :=
  [sortableField "Name" "name",
    computedColumn "Characteristics" (fun s => toString s.characteristicIds.length) (some 16),
    instantColumn "Created" (·.createdAt)]

def priceColumns : List (Column Price) :=
  [sortableField "Name" "name", sortableField "Value" "value" (some 10),
    { label := "Currency", accessor := .field "currency", width := some 9 },
    { label := "Unit", accessor := .field "unit" },
    computedColumn "Status" (fun p => if p.locked then "🔒 Locked" else "Active") (some 10)]

def offeringColumns : List (Column Offering) :=
  [sortableField "Name" "name", sortableField "Status" "lifecycle_status" (some 11),
    computedColumn "Channels" fun o => String.intercalate ", " (o.channels.map (·.label)),
    computedColumn "Specs" (fun o => toString o.specificationIds.length) (some 6),
    computedColumn "Prices" (fun o => toString o.priceIds.length) (some 6),
    instantColumn "Updated" (·.updatedAt)]

/-! ## The tables -/

/-- The viewer before any collection was listed; offerings have pages of their own
    size. -/
def new (pageSize offeringPageSize : Nat) : Viewer where
  characteristics :=
    { Table.new characteristicColumns Characteristic.encode pageSize with
      emptyMessage := "No characteristics yet" }
  specifications :=
    { Table.new specificationColumns Specification.encode pageSize with
      emptyMessage := "No specifications yet" }
  prices :=
    { Table.new priceColumns Price.encode pageSize with
      emptyMessage := "No pricing plans yet" }
  offerings :=
    { Table.new offeringColumns Offering.encode offeringPageSize with
      emptyMessage := "No offerings yet" }

/-- Something about the table of a collection. -/
def onTable (v : Viewer) (c : Collection) (f : {α : Type} → Table α → β) : β :=
  match c with
  | .characteristics => f v.characteristics
  | .specifications => f v.specifications
  | .prices => f v.prices
  | .offerings => f v.offerings

/-- Changes the table of a collection. -/
def changeTable (v : Viewer) (c : Collection) (f : {α : Type} → Table α → Table α) : Viewer :=
  match c with
  | .characteristics => { v with characteristics := f v.characteristics }
  | .specifications => { v with specifications := f v.specifications }
  | .prices => { v with prices := f v.prices }
  | .offerings => { v with offerings := f v.offerings }

/-- Shows that a collection is being listed. -/
def setLoading (v : Viewer) (c : Collection) : Viewer := v.changeTable c (·.setLoading true)

/-- Takes a listing; one that failed leaves the rows as they are. -/
def apply (v : Viewer) (c : Collection) (listed : Except Failure CatalogRecords) : Viewer :=
  match listed with
  | .ok (.characteristics cs) => { v with characteristics := v.characteristics.setRecords cs }
  | .ok (.specifications ss) => { v with specifications := v.specifications.setRecords ss }
  | .ok (.prices ps) => { v with prices := v.prices.setRecords ps }
  | .ok (.offerings os) => { v with offerings := v.offerings.setRecords os }
  | .error _ => v.changeTable c (·.setLoading false)

/-- Lists the active collection anew. -/
def reload (v : Viewer) : ViewerAction × Viewer := (.reload v.active, v.setLoading v.active)

/-- Makes a collection the active one. -/
def choose (v : Viewer) (c : Collection) : ViewerAction × Viewer :=
  let v := { v with active := c, doomed := none }
  let term := v.onTable c fun t => t.search
  { v with search := v.search.setValue term }.reload

/-- The record in the selected row of the active table. -/
def selected? (v : Viewer) : Option CatalogRecord :=
  match v.active with
  | .characteristics => v.characteristics.selected?.map .characteristic
  | .specifications => v.specifications.selected?.map .specification
  | .prices => v.prices.selected?.map .price
  | .offerings => v.offerings.selected?.map .offering

/-- The selected record, if it is an offering. -/
def selectedOffering? (v : Viewer) : Option Offering :=
  match v.active with
  | .offerings => v.offerings.selected?
  | _ => none

/-! ## Keys -/

/-- What a key does to the search field. -/
def pressSearch (v : Viewer) (k : Key) : Viewer :=
  match k.code with
  | .enter | .escape | .down =>
    { v with searching := false, search := v.search.setFocused false }
  | _ =>
    let (changed, search) := v.search.press k
    let v := { v with search }
    if changed then v.changeTable v.active (·.setSearch search.value) else v

/-- The collection with that number. -/
def chooseNumber (v : Viewer) (i : Nat) : ViewerAction × Viewer :=
  match Collection.all[i]? with
  | some c => v.choose c
  | none => (.none, v)

/-- The number of the active collection. -/
def activeNumber (v : Viewer) : Nat := Collection.all.findIdx (· == v.active)

/-- What a key does to the active table, outside its search field. -/
def pressTable (v : Viewer) (k : Key) : ViewerAction × Viewer :=
  let act (f : {α : Type} → Table α → Table α) : ViewerAction × Viewer :=
    (.none, v.changeTable v.active f)
  let count := Collection.all.length
  match k.code with
  | .tab => v.chooseNumber ((v.activeNumber + 1) % count)
  | .backTab => v.chooseNumber ((v.activeNumber + count - 1) % count)
  | .up | .char 'k' => act (·.selectPrev)
  | .down | .char 'j' => act (·.selectNext)
  | .left | .char 'h' => act (·.prevPage)
  | .right | .char 'l' => act (·.nextPage)
  | .home => act (·.firstPage)
  | .toEnd => act (·.lastPage)
  | .char '/' => (.none, { v with searching := true, search := v.search.setFocused true })
  | .char 'R' => v.reload
  | .char 'e' | .enter =>
    match v.selected? with
    | some r => (.edit r, v)
    | none => (.none, v)
  | .char 'd' | .delete => (.none, { v with doomed := v.selected? })
  | .char 'p' =>
    match v.selectedOffering? with
    | some o => (.publish o, v)
    | none => (.none, v)
  | .char 'r' =>
    match v.selectedOffering? with
    | some o => (.retire o, v)
    | none => (.none, v)
  | _ =>
    match k.digit? 9 with
    | some i => act (·.toggleSort i)
    | none => (.none, v)

/-- What a key does.  While a record waits to be deleted any key decides about it. -/
def press (v : Viewer) (k : Key) : ViewerAction × Viewer :=
  match v.doomed with
  | some r =>
    let v := { v with doomed := none }
    if k.code == .char 'y' || k.code == .char 'Y' then (.delete r, v) else (.none, v)
  | none =>
    if v.searching then (.none, v.pressSearch k)
    else if k.alt then
      match k.digit? 4 with
      | some i => v.chooseNumber i
      | none => (.none, v)
    else v.pressTable k

/-- The keys that do something. -/
def hints (v : Viewer) : KeyHints :=
  if v.doomed.isSome then [("y", "confirm delete"), ("any", "cancel")]
  else if v.searching then [("Enter/Esc", "done"), ("^U", "clear")]
  else
    [("Tab", "table"), ("/", "search"), ("1-9", "sort"), ("←→", "page"), ("e", "edit"),
      ("d", "delete")] ++
    (if v.active == .offerings then [("p", "publish"), ("r", "retire")] else []) ++
    [("R", "reload")]

/-! ## Drawing -/

/-- The question whether to delete. -/
def confirmLine (v : Viewer) : Line :=
  match v.doomed with
  | some r =>
    { spans :=
        [⟨" Delete \"" ++ r.name ++ "\"? ", (Style.colored Palette.error).bold⟩,
          ⟨"y to confirm, any other key to cancel", Palette.mutedStyle⟩] }
  | none => {}

/-- Draws the viewer. -/
def draw (v : Viewer) : Drawing := fun a s =>
  let part := a.downward [.exactly 1, .exactly 3, .growing 1, .exactly 1]
  let s := (tabRow (Collection.all.map (·.title)) v.activeNumber).draw (part 0) s
  let s := v.search.draw (part 1) s
  let s := v.onTable v.active fun t =>
    TableView.draw ⟨t, v.active.title, !v.searching⟩ (part 2) s
  (Prose.ofLine v.confirmLine).draw (part 3) s

end Viewer

end CatalogDesk
