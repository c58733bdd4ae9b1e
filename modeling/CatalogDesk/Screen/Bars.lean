import CatalogDesk.Draw.Prose
import CatalogDesk.Draw.Choices
import CatalogDesk.Screen.Key
import CatalogDesk.Screen.Palette
import CatalogDesk.Text.Case

/-! # Header and status bar

    The first and the last row of the console: the name of the program, the screens and
    who is signed in above; the place, the keys and a remark below. -/

namespace CatalogDesk

open Draw

/-- The styles of the parts of a header. -/
structure HeaderStyle where
  name : Style := (Style.colored .cyan).bold
  version : Style := .colored .darkGray
  tab : Style := .colored .gray
  activeTab : Style := (Style.colored .cyan).bold
  user : Style := .colored .green
  signedOut : Style := .colored .darkGray

/-- The styles of the console. -/
def HeaderStyle.console : HeaderStyle where
  name := ((Style.colored .black).on Palette.accent).bold
  activeTab := (Style.colored Palette.accent).bold.underlined
  user := ((Style.colored .black).on Palette.success).bold

/-- The first row. -/
structure Header where
  name : String
  version : String
  route : Route := .store
  username : Option String := none
  style : HeaderStyle := {}

namespace Header

/-- The screens with the keys that lead to them. -/
def tabs : List (Route × String) := [(.builder, "F1"), (.viewer, "F2"), (.store, "F3")]

/-- The left part: the name, the version and the screens. -/
def left (h : Header) : Line where
  spans :=
    [⟨" " ++ Text.toUpper h.name ++ " ", h.style.name⟩,
      ⟨" v" ++ h.version ++ " ", h.style.version⟩, ⟨" ", {}⟩] ++
    tabs.map fun (route, key) =>
      ⟨" " ++ key ++ " " ++ route.title ++ " ",
        if route == h.route then h.style.activeTab else h.style.tab⟩

/-- The right part: who is signed in. -/
def session (h : Header) : Span :=
  match h.username with
  | some name => ⟨" ● " ++ name ++ " ", h.style.user⟩
  | none => ⟨" ○ signed out ", h.style.signedOut⟩

/-- Draws the header in the first row of an area; the right part only if there is room
    for all of it. -/
def draw (h : Header) : Drawing := fun a s =>
  if a.isEmpty then s
  else
    let row : Area := { a with height := 1 }
    let leftWidth := h.left.width
    let s := (Prose.ofLine h.left).draw { row with width := min leftWidth a.width } s
    let width := Text.width h.session.text
    if width < a.width - leftWidth then
      (Prose.ofLine { spans := [h.session] }).draw { row with x := a.right - width, width } s
    else s

end Header

/-- How grave the state is that a status bar reports. -/
inductive StatusLevel
  | info
  | success
  | warning
  | error
  deriving DecidableEq, Repr

/-- The color of the two ends of the bar. -/
def StatusLevel.color : StatusLevel → Color
  | .info => .cyan
  | .success => .green
  | .warning => .yellow
  | .error => .red

/-- The last row. -/
structure StatusBar where
  left : String := ""
  hints : KeyHints := []
  right : String := ""
  level : StatusLevel := .info

namespace StatusBar

/-- The spans of the hints, with bars between them. -/
def hintSpans : KeyHints → List Span
  | [] => []
  | [(key, meaning)] => pair key meaning
  | (key, meaning) :: rest => pair key meaning ++ ⟨" │ ", .colored .darkGray⟩ :: hintSpans rest
where
  pair (key meaning : String) : List Span :=
    [⟨key, (Style.colored .white).bold⟩, ⟨" " ++ meaning, .colored .darkGray⟩]

/-- A number of spaces. -/
def spaces (n : Nat) : String := String.ofList (List.replicate n ' ')

/-- The line across so many columns: the hints in the middle, as far as the left text
    leaves room, the right text at the end. -/
def line (b : StatusBar) (width : Nat) : Line :=
  let style := (Style.colored b.level.color).bold
  let hints := hintSpans b.hints
  let hintsWidth := hints.foldr (fun s columns => Text.width s.text + columns) 0
  let leftWidth := Text.width b.left
  let middle := (width - hintsWidth) / 2
  let leftPad := max (middle - leftWidth) (min leftWidth 1)
  let rightPad := (width - Text.width b.right) - (leftWidth + leftPad + hintsWidth)
  { spans := [⟨b.left, style⟩, ⟨spaces leftPad, {}⟩] ++ hints ++
      [⟨spaces rightPad, {}⟩, ⟨b.right, style⟩] }

/-- Draws the bar. -/
def draw (b : StatusBar) : Drawing := fun a s => (Prose.ofLine (b.line a.width)).draw a s

end StatusBar

/-! ## Numbered tabs

    A screen of several parts has a row of numbered titles above it; with alt held down
    the numbers choose a part. -/

/-- The digit that was struck, from one up to `last`, counted from zero. -/
def Key.digit? (k : Key) (last : Nat) : Option Nat :=
  match k.code with
  | .char c => if '1' ≤ c && c.toNat < '1'.toNat + last then some (c.toNat - '1'.toNat) else none
  | _ => none

/-- Numbered titles with the chosen one highlighted. -/
def tabRow (titles : List String) (chosen : Nat) : Tabs where
  titles := ((List.range titles.length).zip titles).map fun (i, title) =>
    " " ++ toString (i + 1) ++ " " ++ title ++ " "
  chosen := chosen
  style := Palette.mutedStyle
  highlight := (Style.colored Palette.accent).bold

end CatalogDesk
