import CatalogDesk.Draw.Choices
import CatalogDesk.Screen.FilterPanel
import CatalogDesk.Store.Browser

/-! # The store screen

    The filters on the left, the offerings that match in the middle, and the selected
    offering on the right.  A change of the filters is not searched for at once: it is
    handed out, and comes back when no other change has followed for a while. -/

namespace CatalogDesk

open Draw

/-- What a key on the screen leads to. -/
inductive ShopAction
  | none
  /-- A search that was issued. -/
  | search (ticket : SearchTicket)
  /-- The filters as they are now shown. -/
  | edited (filters : Filters)
  deriving DecidableEq, Repr

/-- The store screen. -/
structure Shop where
  browser : StoreBrowser
  panel : FilterPanel
  /-- Do the filters have the focus, and not the offerings? -/
  onFilters : Bool := false
  deriving DecidableEq, Repr

namespace Shop

/-- The screen at a location. -/
def ofLocation (location : String) (pageSize : Nat) : Shop :=
  let browser := StoreBrowser.ofLocation location pageSize
  { browser, panel := .new browser.filters }

/-- The first search. -/
def start (s : Shop) : SearchTicket × Shop :=
  let (ticket, browser) := s.browser.refresh
  (ticket, { s with browser })

/-- Searches for filters, even if they are the ones in effect. -/
def applyFilters (s : Shop) (f : Filters) : SearchTicket × Shop :=
  let (ticket, browser) := s.browser.applyFilters f
  (ticket, { s with browser })

/-- Takes the result of a search; `false` if a newer one was issued since. -/
def complete (s : Shop) (ticket : SearchTicket) (result : Except Failure SearchPage) :
    Bool × Shop :=
  let (applied, browser) := s.browser.complete ticket result
  (applied, { s with browser })

/-- Gives the focus to the filters or to the offerings. -/
def setFocus (s : Shop) (onFilters : Bool) : Shop :=
  { s with onFilters, panel := s.panel.setFocused onFilters }

/-- After a move in the history the panel shows the filters of the location. -/
def navigate (s : Shop) (moved : Option SearchTicket × StoreBrowser) : ShopAction × Shop :=
  match moved with
  | (some ticket, browser) =>
    (.search ticket, { s with browser, panel := s.panel.setFilters browser.filters })
  | (none, browser) => (.none, { s with browser })

/-- What a key does to the offerings. -/
def pressResults (s : Shop) (k : Key) : ShopAction × Shop :=
  match k.code with
  | .up | .char 'k' => (.none, { s with browser := s.browser.selectPrev })
  | .down | .char 'j' => (.none, { s with browser := s.browser.selectNext })
  | .char 'm' | .enter =>
    match s.browser.loadMore with
    | (some ticket, browser) => (.search ticket, { s with browser })
    | (none, browser) => (.none, { s with browser })
  | .char 'r' =>
    let (ticket, browser) := s.browser.retry
    (.search ticket, { s with browser })
  | .char '/' => (.none, s.setFocus true)
  | _ => (.none, s)

/-- What a key does to the filters. -/
def pressFilters (s : Shop) (k : Key) : ShopAction × Shop :=
  if k.code == .escape then (.none, s.setFocus false)
  else
    let (changed, panel) := s.panel.press k
    (match changed with
      | some f => .edited f
      | none => .none, { s with panel })

/-- What a key does. -/
def press (s : Shop) (k : Key) : ShopAction × Shop :=
  if k.alt then
    match k.code with
    | .left => s.navigate s.browser.back
    | .right => s.navigate s.browser.forward
    | _ => (.none, s)
  else if k.code == .tab || k.code == .backTab then (.none, s.setFocus !s.onFilters)
  else if s.onFilters then s.pressFilters k
  else s.pressResults k

/-- The keys that do something. -/
def hints (s : Shop) : KeyHints :=
  if s.onFilters then [("Tab", "results"), ("^X", "reset"), ("Alt+←/→", "history")]
  else
    [("Tab", "filters"), ("↑↓", "select"), ("m", "load more"), ("r", "retry"),
      ("Alt+←/→", "history")]

/-! ## Drawing -/

/-- A price with its currency and, if it has one, its unit. -/
def priceLabel (p : StorePrice) : String :=
  let amount := p.value.amountText ++ " " ++ p.currency
  if p.unit.isEmpty then amount else amount ++ " / " ++ p.unit

/-- The arrows of the history and the location. -/
def locationLine (s : Shop) : Line :=
  let location := s.browser.location
  let arrow (on : Bool) (sign : String) : Span :=
    ⟨sign, .colored (if on then Palette.accent else Palette.muted)⟩
  { spans :=
      [arrow s.browser.history.canGoBack "◀ ", arrow s.browser.history.canGoForward "▶ ",
        ⟨if location.isEmpty then "/store" else "/store?" ++ location, .colored Palette.text⟩] }

/-- What is shown in place of the offerings after a failed search. -/
def errorText (s : Shop) : Prose where
  lines :=
    [{}, Line.ofText StoreBrowser.errorTitle (Style.colored Palette.error).bold,
      Line.ofText (s.browser.error.getD StoreBrowser.errorMessage), {},
      Line.ofText "Press r to try again" Palette.mutedStyle]
  placement := .center
  overflow := .wrap true

/-- What is shown when nothing matches. -/
def emptyText : Prose where
  lines :=
    [{}, Line.ofText "No offerings found" (.colored Palette.text),
      Line.ofText "Try adjusting your filters" Palette.mutedStyle]
  placement := .center

/-- An offering with its lowest price. -/
def itemLine (o : StoreOffering) : Line :=
  let price := match o.lowestPrice? with
    | some p => "from " ++ priceLabel p
    | none => "No pricing"
  { spans := [⟨o.name, .colored Palette.text⟩, ⟨"  ", {}⟩, ⟨price, Palette.mutedStyle⟩] }

/-- The frame around the offerings. -/
def resultsFrame (s : Shop) : Frame where
  title := Line.ofText " Offerings "
  footRight := some (Line.ofText (" " ++ s.browser.summary ++ " "))
  footLeft :=
    if s.browser.hasMore && !s.browser.loading then
      some (Line.ofText " m: load more " (.colored Palette.accent))
    else none
  border := Palette.borderStyle !s.onFilters

/-- Draws the offerings. -/
def drawResults (s : Shop) : Drawing := fun a surface =>
  let surface := s.resultsFrame.draw a surface
  if s.browser.error.isSome && s.browser.items.isEmpty then s.errorText.draw a.within surface
  else if s.browser.showsEmptyState then emptyText.draw a.within surface
  else
    let choices : Choices :=
      { items := s.browser.items.map itemLine, chosen := s.browser.selected,
        highlight := Palette.selectedStyle }
    choices.draw a.within surface

/-- How many characteristics of the selected offering are shown. -/
def detailCount : Nat := 3

/-- The lines that describe an offering. -/
def detailLines (o : StoreOffering) : List Line :=
  let plain (text : String) : Line := Line.ofText text
  let block (title : String) (lines : List Line) : List Line :=
    if lines.isEmpty then []
    else {} :: Line.ofText title (Style.colored Palette.accent).bold :: lines
  let description := (o.description.filter fun d => !Text.isBlankText d).toList
  let prices :=
    if o.pricing.isEmpty then [Line.ofText "No pricing" Palette.mutedStyle]
    else o.pricing.map fun p => plain ("• " ++ p.name ++ ": " ++ priceLabel p)
  let channels :=
    if o.channels.isEmpty then [] else [plain (String.intercalate ", " o.channels)]
  let highlights := (o.topCharacteristics detailCount).map fun c =>
    plain ("• " ++ c.name ++ ": " ++ c.value ++ ((c.unit.map (" " ++ ·)).getD ""))
  Line.ofText o.name (Style.colored Palette.text).bold ::
    description.map (Line.ofText · Palette.mutedStyle) ++
    block "Pricing" prices ++ block "Channels" channels ++
    block "Highlights" highlights

/-- Draws the selected offering. -/
def drawDetail (s : Shop) : Drawing :=
  let frame : Frame :=
    { title := Line.ofText " Details ", border := Palette.borderStyle false }
  match s.browser.selected? with
  | none => frame.draw
  | some o => Prose.draw { lines := detailLines o, overflow := .wrap false, frame := some frame }

/-- The columns of the filters. -/
def panelWidth : Nat := 36

/-- Draws the screen. -/
def draw (s : Shop) : Drawing := fun a surface =>
  let part := a.downward [.exactly 1, .growing 1]
  let column := (part 1).across [.exactly panelWidth, .growing 3, .growing 2]
  let surface := (Prose.ofLine s.locationLine).draw (part 0) surface
  let surface := s.panel.draw (column 0) surface
  let surface := s.drawResults (column 1) surface
  s.drawDetail (column 2) surface

end Shop

end CatalogDesk
