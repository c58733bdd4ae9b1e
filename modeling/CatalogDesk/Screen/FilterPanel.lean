import CatalogDesk.Catalog.Offering
import CatalogDesk.Draw.Area
import CatalogDesk.Screen.Palette
import CatalogDesk.Screen.TextField
import CatalogDesk.Store.Filters

/-! # The filter panel

    The panel edits the filters of the store: the keyword, the price range and the sales
    channel.  Characteristics cannot be edited here; they are carried along, so that a
    filter that came with the location is not lost. -/

namespace CatalogDesk

open Draw

/-- The parts of the panel that can have the focus, from top to bottom. -/
inductive FilterPart
  | search
  | minPrice
  | maxPrice
  | channel
  deriving DecidableEq, Repr

/-- The part below, and the first one after the last. -/
def FilterPart.next : FilterPart → FilterPart
  | .search => .minPrice
  | .minPrice => .maxPrice
  | .maxPrice => .channel
  | .channel => .search

/-- The part above, and the last one before the first. -/
def FilterPart.previous : FilterPart → FilterPart
  | .search => .channel
  | .minPrice => .search
  | .maxPrice => .minPrice
  | .channel => .maxPrice

/-- The filters while they are edited. -/
structure FilterPanel where
  search : TextField := { label := " Search ", placeholder := "Search offerings..." }
  minPrice : TextField := { label := " Min price ", placeholder := "0", numeric := true }
  maxPrice : TextField := { label := " Max price ", placeholder := "Any", numeric := true }
  channel : String := ""
  /-- The channel under the cursor, by its number. -/
  channelCursor : Nat := 0
  characteristics : List String := []
  part : FilterPart := .search
  focused : Bool := false
  deriving DecidableEq, Repr

namespace FilterPanel

/-- Shows other filters. -/
def setFilters (p : FilterPanel) (f : Filters) : FilterPanel :=
  { p with
    search := p.search.setValue f.q
    minPrice := p.minPrice.setValue f.minPrice
    maxPrice := p.maxPrice.setValue f.maxPrice
    channel := f.channel
    characteristics := f.characteristics }

/-- A panel that shows the filters. -/
def new (f : Filters) : FilterPanel := setFilters {} f

/-- The filters as they are shown. -/
def filters (p : FilterPanel) : Filters where
  q := p.search.value
  minPrice := p.minPrice.value
  maxPrice := p.maxPrice.value
  channel := p.channel
  characteristics := p.characteristics

/-- Gives the focus to the field that is due to have it. -/
def refocus (p : FilterPanel) : FilterPanel :=
  { p with
    search := p.search.setFocused (p.focused && p.part == .search)
    minPrice := p.minPrice.setFocused (p.focused && p.part == .minPrice)
    maxPrice := p.maxPrice.setFocused (p.focused && p.part == .maxPrice) }

/-- Gives the panel the focus or takes it away. -/
def setFocused (p : FilterPanel) (focused : Bool) : FilterPanel :=
  { p with focused }.refocus

/-- Goes to another part. -/
def goTo (p : FilterPanel) (part : FilterPart) : FilterPanel := { p with part }.refocus

/-- Removes every filter. -/
def reset (p : FilterPanel) : FilterPanel := p.setFilters {}

/-- Chooses a channel; one that is chosen already is taken back. -/
def toggleChannel (p : FilterPanel) (c : SalesChannel) : FilterPanel :=
  { p with channel := if p.channel == c.label then "" else c.label }

/-- How many channels there are. -/
def channelCount : Nat := SalesChannel.all.length

/-- What a key does to the channels; tells whether the filters have changed. -/
def pressChannel (p : FilterPanel) (k : Key) : Bool × FilterPanel :=
  match k.code with
  | .left =>
    (false, { p with channelCursor := (p.channelCursor + channelCount - 1) % channelCount })
  | .right => (false, { p with channelCursor := (p.channelCursor + 1) % channelCount })
  | .char ' ' | .enter =>
    match SalesChannel.all[p.channelCursor % channelCount]? with
    | some c => (true, p.toggleChannel c)
    | none => (false, p)
  | _ => (false, p)

/-- What a key does to the part that has the focus; tells whether the filters have
    changed. -/
def pressPart (p : FilterPanel) (k : Key) : Bool × FilterPanel :=
  match p.part with
  | .search =>
    let (changed, search) := p.search.press k
    (changed, { p with search })
  | .minPrice =>
    let (changed, minPrice) := p.minPrice.press k
    (changed, { p with minPrice })
  | .maxPrice =>
    let (changed, maxPrice) := p.maxPrice.press k
    (changed, { p with maxPrice })
  | .channel => p.pressChannel k

/-- What a key does; the filters, if they have changed. -/
def press (p : FilterPanel) (k : Key) : Option Filters × FilterPanel :=
  if k.isControl 'x' then (some p.reset.filters, p.reset)
  else match k.code with
    | .down => (none, p.goTo p.part.next)
    | .up => (none, p.goTo p.part.previous)
    | _ =>
      let (changed, p) := p.pressPart k
      (if changed then some p.filters else none, p)

/-- The channels in a row: the chosen one is marked, the one under the cursor reversed. -/
def channelLine (p : FilterPanel) : Line where
  spans := ((List.range channelCount).zip SalesChannel.all).flatMap fun (i, c) =>
    let active := p.channel == c.label
    let style := if active then (Style.colored Palette.accent).bold else .colored Palette.text
    let here := p.focused && p.part == .channel && i == p.channelCursor
    [⟨(if active then "● " else "○ ") ++ c.label, if here then style.reversed else style⟩,
      ⟨"  ", {}⟩]

/-- Draws the panel. -/
def draw (p : FilterPanel) : Drawing := fun a s =>
  let frame : Frame :=
    { title := Line.ofText " Filters ", border := Palette.borderStyle p.focused }
  let part := a.within.downward [.exactly 3, .exactly 3, .exactly 3, .growing 1, .exactly 1]
  let price := (part 1).across [.percent 50, .percent 50]
  let channelFrame : Frame :=
    { title := Line.ofText " Channel "
      border := Palette.borderStyle (p.focused && p.part == .channel) }
  let s := frame.draw a s
  let s := p.search.draw (part 0) s
  let s := p.minPrice.draw (price 0) s
  let s := p.maxPrice.draw (price 1) s
  let s := Prose.draw { lines := [p.channelLine], frame := some channelFrame } (part 2) s
  let s :=
    if p.characteristics.isEmpty then s
    else
      Prose.draw
        { lines := Line.ofText "Characteristics" Palette.mutedStyle ::
            p.characteristics.map fun c => Line.ofText ("• " ++ c)
          overflow := .wrap true } (part 3) s
  (Prose.ofText "↑↓ field  Space channel  ^X reset" Palette.mutedStyle).draw (part 4) s

end FilterPanel

end CatalogDesk
