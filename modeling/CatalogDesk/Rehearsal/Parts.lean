import CatalogDesk.Rehearsal.Scene
import CatalogDesk.Rehearsal.Seen.Values
import CatalogDesk.Screen.Bars
import CatalogDesk.Screen.Checklist
import CatalogDesk.Screen.FilterPanel
import CatalogDesk.Screen.Popup
import CatalogDesk.Screen.SignIn

/-! # Rehearsing the parts of screens

    Keys and colors, single fields, lists and panels, the bars, the popup and the screen
    to sign in. -/

namespace CatalogDesk.Rehearsal

open Draw

/-! ## Keys and colors -/

def shortcutJson : Shortcut → Json
  | .quit => .text "quit"
  | .logout => .text "logout"
  | .dismiss => .text "dismiss"
  | .navigate r => .ofMembers [("navigate", .text r.name)]

/-- What a key means on every screen, and whether it counts as pressed. -/
def seeKey (j : Json) : Json :=
  let k := Key.ofText (j.textAt "key")
  let motion : KeyMotion := match j.textAt "kind" with
    | "release" => .release
    | "repeat" => .again
    | _ => .press
  .ofMembers [("global", .ofOption shortcutJson k.shortcut?), ("quit", .bool k.quits),
    ("press", .bool motion.counts), ("resize_press", .bool false)]

/-- The name of a color of the palette. -/
def paletteName : Color → String
  | .rgb r g b =>
    "Rgb(" ++ String.intercalate ", " [toString r, toString g, toString b] ++ ")"
  | c => colorName c

/-- The colors of a stage and of a level. -/
def seePalette (j : Json) : Answered Json := do
  let status ← decoded (Lifecycle.decode (j.valueAt "status"))
  return .ofMembers [("status", .text (paletteName (Palette.ofStatus status))),
    ("level", .text (paletteName (Palette.ofLevel (levelOf (j.textAt "level")))))]

/-! ## Fields and lists -/

def fieldEntry (f : TextField) (changed : List Json) : Json :=
  .ofMembers [("changed", .list changed), ("value", .text f.value), ("focused", .bool f.focused),
    ("error", optText f.error)]

def fieldScene : Scene TextField where
  press f k := (.bool (f.press k).1, (f.press k).2)
  act f s name :=
    match name with
    | "clear" => quietly f.clear
    | "set" => quietly (f.setValue (s.textAt "value"))
    | "focus" => quietly (f.setFocused (s.flagAt "on"))
    | "error" => quietly (f.setError (s.textAt? "message"))
    | "char" => quietly ((s.textAt "c").toList.foldl TextField.insert f)
    | _ => unknownStep name
  see f changed := (fieldEntry f changed, f)
  draw f _ _ := (f.draw, f)

def rehearseField (j : Json) : Answered Json := do
  let f : TextField :=
    { label := j.textAt "label", placeholder := j.textAt "placeholder",
      numeric := j.flagAt "numeric", masked := j.flagAt "password" }
  let f := (f.setValue (j.textAt "value")).setFocused (j.flagAt "focused")
  let (entries, f) ← fieldScene.entries j f
  if f.spoilt then .error .outOfBounds
  let size := Json.ofMembers [("w", .nat (j.natAt "w" 24)), ("styles", .bool true)]
  return .ofMembers [("steps", .list entries), ("screen", ← drawn size 24 3 f.draw)]

/-- A checklist with the options and the selection that it works on. -/
structure ListRun where
  label : String
  options : List SelectOption
  selected : List RecordId
  state : Checklist := {}

def optionsOf (j : Json) : List SelectOption :=
  (j.pairsAt "options").map fun (id, label) => ⟨id, label⟩

def listScene : Scene ListRun where
  press r k :=
    let (picked, state) := r.state.press k r.options
    let selected := match picked with
      | some id => toggle r.selected id
      | none => r.selected
    (optText picked, { r with state, selected })
  act r s name :=
    match name with
    | "focus" => quietly { r with state := r.state.setFocused (s.flagAt "on") }
    | "clamp" => quietly { r with state := r.state.clamp (s.natAt "len" 0) }
    | "options" => quietly { r with options := optionsOf s }
    | _ => unknownStep name
  see r picked :=
    (.ofMembers [("picked", .list picked), ("cursor", .nat r.state.cursor),
      ("focused", .bool r.state.focused), ("selected", .texts r.selected)], r)
  draw r s a :=
    let v : ChecklistView :=
      { label := r.label, options := r.options, selected := r.selected, state := r.state,
        loading := s.flagAt "loading", error := s.textAt? "error" }
    let state :=
      if v.showsOptions then r.state.inSight r.options.length a.within.height else r.state
    (v.draw, { r with state })

def rehearseList (j : Json) : Answered Json :=
  listScene.rehearse j
    { label := j.textAt "label", options := optionsOf j, selected := j.textsAt "selected" }

/-! ## Panels and screens -/

def filterPartName : FilterPart → String
  | .search => "search"
  | .minPrice => "min_price"
  | .maxPrice => "max_price"
  | .channel => "channel"

def filterScene : Scene FilterPanel where
  press p k := (.ofOption filtersJson (p.press k).1, (p.press k).2)
  act p s name :=
    match name with
    | "focus" => quietly (p.setFocused (s.flagAt "on"))
    | "set" => quietly (p.setFilters (filtersOf (s.valueAt "filters")))
    | "reset" => .ok ([filtersJson p.reset.filters], p.reset)
    | _ => unknownStep name
  see p changes :=
    (.ofMembers [("changes", .list changes), ("filters", filtersJson p.filters),
      ("field", .text (filterPartName p.part)), ("focused", .bool p.focused)], p)
  draw p _ _ := (p.draw, p)

def rehearseFilters (j : Json) : Answered Json :=
  filterScene.rehearse j
    ((FilterPanel.new (filtersOf (j.valueAt "filters"))).setFocused (j.flagAt "focused"))

def signInActionJson : SignInAction → Json
  | .none => .null
  | .submit => .text "submit"
  | .cancel => .text "cancel"

def signInPhaseName : SignInPhase → String
  | .input => "input"
  | .validating => "validating"
  | .failed => "error"

def signInScene : Scene SignIn where
  press s k := (signInActionJson (s.press k).1, (s.press k).2)
  act s j name :=
    match name with
    | "validating" => quietly s.validate
    | "error" => quietly (s.fail (j.textAt "message"))
    | _ => unknownStep name
  see s actions :=
    (.ofMembers [("actions", .list actions), ("state", .text (signInPhaseName s.phase)),
      ("error", optText s.error), ("username", .text s.credentials.username),
      ("password", .text s.credentials.password)], s)
  draw s _ _ := (s.draw, s)

def rehearseSignIn (j : Json) : Answered Json := signInScene.rehearse j {}

/-! ## Bars and popup -/

def drawHeader (j : Json) : Answered Json :=
  drawn j 80 24 (Header.draw
    { name := j.textAt "name", version := j.textAt "version",
      route := (Route.ofName? (j.textAt "route")).getD .store, username := j.textAt? "username",
      style := if j.flagAt "themed" then .console else {} })

def drawStatusBar (j : Json) : Answered Json :=
  let level : StatusLevel := match j.textAt "level" with
    | "success" => .success
    | "warning" => .warning
    | "error" => .error
    | _ => .info
  drawn j 80 24 (StatusBar.draw
    { left := j.textAt "left", hints := j.pairsAt "hints", right := j.textAt "right", level })

def drawPopup (j : Json) : Answered Json :=
  let toast : Toast := ⟨levelOf (j.textAt "level"), j.textAt "message"⟩
  let notice := Notice.ofToast toast
  drawn j 80 24 (Popup.draw { notice with title := (j.textAt? "title").getD notice.title })

end CatalogDesk.Rehearsal
