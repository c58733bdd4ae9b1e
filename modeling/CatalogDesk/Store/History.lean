/-! # History of locations

    The locations that were visited, with the place of the current one.  Moving back
    and forward changes only the place; visiting another location drops the ones
    ahead. -/

namespace CatalogDesk

/-- Visited locations, oldest first, and the place of the current one. -/
structure History where
  entries : List String := []
  index : Nat := 0
  deriving DecidableEq, Inhabited, Repr

namespace History

/-- The history that starts at a location. -/
def new (initial : String) : History := ⟨[initial], 0⟩

/-- The current location; the empty one when nothing was visited. -/
def current (h : History) : String :=
  (h.entries[h.index]?).getD ""

/-- Visits a location; visiting the current one again changes nothing. -/
def push (h : History) (location : String) : History :=
  if h.current = location then h
  else
    let entries := h.entries.take (h.index + 1) ++ [location]
    ⟨entries, entries.length - 1⟩

def canGoBack (h : History) : Bool :=
  0 < h.index

def canGoForward (h : History) : Bool :=
  h.index + 1 < h.entries.length

/-- The history one place back. -/
def back? (h : History) : Option History :=
  if h.canGoBack then some { h with index := h.index - 1 } else none

/-- The history one place forward. -/
def forward? (h : History) : Option History :=
  if h.canGoForward then some { h with index := h.index + 1 } else none

end History

end CatalogDesk
