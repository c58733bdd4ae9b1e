import CatalogDesk.Catalog.StoreOffering
import CatalogDesk.Net.Failure
import CatalogDesk.Store.Filters
import CatalogDesk.Store.History

/-! # Browsing the store

    The browser holds the filters in effect, the offerings found so far and the history
    of locations.  A search is issued as a ticket and completed later; tickets are
    numbered, and only the newest one may change what is shown, so answers that arrive
    late or out of order are dropped. -/

namespace CatalogDesk

/-- What a search does with the offerings that it finds. -/
inductive SearchMode where
  /-- The filters changed: the offerings replace the ones shown. -/
  | replace
  /-- The next page: the offerings are appended. -/
  | append
  deriving DecidableEq, Inhabited, Repr

/-- An issued search. -/
structure SearchTicket where
  generation : Nat
  mode : SearchMode
  filters : Filters
  skip : Nat
  limit : Nat
  deriving DecidableEq, Inhabited, Repr

/-- The parameters of the search's request. -/
def SearchTicket.params (t : SearchTicket) : FormEncoding.Pairs :=
  t.filters.searchParams t.skip t.limit

/-- The state of browsing the store. -/
structure StoreBrowser where
  filters : Filters
  items : List StoreOffering := []
  /-- How many offerings match in all, as of the last answer. -/
  total : Nat := 0
  /-- Where the last page that is shown starts. -/
  skip : Nat := 0
  /-- Offerings of a page, at least one. -/
  limit : Nat
  loading : Bool := false
  error : Option String := none
  /-- The number of the newest ticket. -/
  generation : Nat := 0
  history : History
  selected : Nat := 0
  deriving DecidableEq, Inhabited, Repr

namespace StoreBrowser

/-- Offerings of a page unless told otherwise. -/
def defaultLimit : Nat := 12

def errorTitle : String := "Oops! Something went wrong"

def errorMessage : String := "Failed to load product offerings. Please try again later."

def new (filters : Filters) (limit : Nat) : StoreBrowser :=
  { filters, limit := max limit 1, history := .new filters.toQuery }

/-- The browser at a location. -/
def ofLocation (location : String) (limit : Nat) : StoreBrowser :=
  new (.ofQuery location) limit

/-! ## Issuing searches -/

/-- Issues a ticket that starts at an offering. -/
def issue (b : StoreBrowser) (mode : SearchMode) (skip : Nat) : SearchTicket × StoreBrowser :=
  let generation := b.generation + 1
  (⟨generation, mode, b.filters, skip, b.limit⟩,
    { b with generation, loading := true, error := none })

/-- Searches from the first page. -/
def refresh (b : StoreBrowser) : SearchTicket × StoreBrowser :=
  b.issue .replace 0

/-- Searches again with the filters in effect, after a failure. -/
def retry (b : StoreBrowser) : SearchTicket × StoreBrowser :=
  b.refresh

/-- Applies filters, visits their location and searches from the first page. -/
def applyFilters (b : StoreBrowser) (filters : Filters) : SearchTicket × StoreBrowser :=
  { b with filters, history := b.history.push filters.toQuery }.refresh

/-- Are there offerings that are not shown yet? -/
def hasMore (b : StoreBrowser) : Bool :=
  b.items.length < b.total

/-- Asks for the next page, unless a search is running or everything is shown. -/
def loadMore (b : StoreBrowser) : Option SearchTicket × StoreBrowser :=
  if b.loading || !b.hasMore then (none, b)
  else
    let (ticket, b) := b.issue .append (b.skip + b.limit)
    (some ticket, b)

/-- Searches again at the current location of another history. -/
def revisit (b : StoreBrowser) (history : Option History) : Option SearchTicket × StoreBrowser :=
  match history with
  | none => (none, b)
  | some h =>
    let (ticket, b) := { b with history := h, filters := .ofQuery h.current }.refresh
    (some ticket, b)

def back (b : StoreBrowser) : Option SearchTicket × StoreBrowser :=
  b.revisit b.history.back?

def forward (b : StoreBrowser) : Option SearchTicket × StoreBrowser :=
  b.revisit b.history.forward?

/-! ## Completing searches -/

/-- Shows the page that a search found. -/
def showPage (b : StoreBrowser) (ticket : SearchTicket) (page : SearchPage) : StoreBrowser :=
  match ticket.mode with
  | .replace => { b with items := page.items, total := page.total, skip := 0, selected := 0 }
  | .append => { b with items := b.items ++ page.items, total := page.total, skip := ticket.skip }

/-- Shows that a search failed; a failed filter search leaves nothing to show. -/
def showFailure (b : StoreBrowser) (ticket : SearchTicket) : StoreBrowser :=
  match ticket.mode with
  | .replace =>
    { b with items := [], total := 0, skip := 0, selected := 0, error := some errorMessage }
  | .append => { b with error := some errorMessage }

/-- Takes the result of a search; `false` if a newer one was issued since. -/
def complete (b : StoreBrowser) (ticket : SearchTicket) (result : Except Failure SearchPage) :
    Bool × StoreBrowser :=
  if ticket.generation ≠ b.generation then (false, b)
  else
    let b := { b with loading := false }
    match result with
    | .ok page => (true, b.showPage ticket page)
    | .error _ => (true, b.showFailure ticket)

/-! ## What is shown -/

/-- The query line of the filters in effect. -/
def location (b : StoreBrowser) : String :=
  b.history.current

def showsEmptyState (b : StoreBrowser) : Bool :=
  !b.loading && b.error.isNone && b.items.isEmpty

def summary (b : StoreBrowser) : String :=
  if b.loading then "Updating..."
  else
    "Showing " ++ toString b.items.length ++ " of " ++ toString b.total ++ " results"

/-- The selected offering. -/
def selected? (b : StoreBrowser) : Option StoreOffering :=
  b.items[b.selected]?

def selectNext (b : StoreBrowser) : StoreBrowser :=
  if b.items.isEmpty then b
  else { b with selected := min (b.selected + 1) (b.items.length - 1) }

def selectPrev (b : StoreBrowser) : StoreBrowser :=
  { b with selected := b.selected - 1 }

end StoreBrowser

end CatalogDesk
