import CatalogDesk.Draw.Surface
import CatalogDesk.Json.Printer
import CatalogDesk.Rehearsal.Steps
import CatalogDesk.Screen.Key
import CatalogDesk.Text.Blank

/-! # Scenes

    A scene rehearses a part of a screen: keys are pressed, other things happen to it,
    and it is drawn.  A drawn screen is shown as its rows without the space at their ends
    and, if asked for, as the stretches of cells whose looks are not plain. -/

namespace CatalogDesk.Rehearsal

open Draw

/-! ## Keys of a step -/

/-- The keys of a step, if it has any. -/
def keysOf (step : Json) : Option (List Key) :=
  match step.get? "key", step.get? "keys", step.get? "type" with
  | some (.text k), _, _ => some [.ofText k]
  | _, some (.list ks), _ => some (ks.map fun k => .ofText ((k.asText?).getD ""))
  | _, _, some (.text t) => some (t.toList.map fun c => { code := .char c })
  | _, _, _ => none

/-! ## Drawing -/

def colorName : Color → String
  | .plain => "-"
  | .black => "Black"
  | .red => "Red"
  | .green => "Green"
  | .yellow => "Yellow"
  | .cyan => "Cyan"
  | .gray => "Gray"
  | .darkGray => "DarkGray"
  | .white => "White"
  | .rgb r g b => toString r ++ "," ++ toString g ++ "," ++ toString b

def marksName (m : Marks) : String :=
  let sign (on : Bool) (s : String) := if on then s else ""
  sign m.bold "B" ++ sign m.italic "I" ++ sign m.underlined "U" ++ sign m.reversed "R"

def stretchJson (t : Stretch) : Json :=
  let look := String.intercalate " "
    [colorName t.look.fore, colorName t.look.back, marksName t.look.marks]
  .list [.nat t.row, .nat t.first, .nat t.last, .text look]

def surfaceJson (s : Surface) (styles : Bool) : Json :=
  .ofMembers ([("lines", Json.texts (s.rows.map Text.trimEnd))] ++
    if styles then [("styles", .list (s.stretches.map stretchJson))] else [])

/-- What is drawn on an empty surface of the size that a step asks for, unless something
    had to be drawn beyond it. -/
def drawn (step : Json) (width height : Nat) (d : Drawing) : Answered Json :=
  let s := Surface.blank (step.natAt "w" width) (step.natAt "h" height)
  let s := d s.area s
  if s.spoilt then .error .outOfBounds else .ok (surfaceJson s (step.flagAt "styles"))

/-! ## Scenes -/

/-- A part of a screen that is rehearsed. -/
structure Scene (σ : Type) where
  /-- What a key does, and what it leads to. -/
  press : σ → Key → Json × σ
  /-- All other steps but drawing; they too may lead to something. -/
  act : σ → Json → String → Answered (List Json × σ)
  /-- What is seen after a step, given what its keys led to. -/
  see : σ → List Json → Json × σ
  /-- How it is drawn at a step, and the state after that. -/
  draw : σ → Json → Area → Drawing × σ

/-- A step that leads to nothing but a change. -/
def quietly (state : σ) : Answered (List Json × σ) := .ok ([], state)

namespace Scene

variable {σ : Type}

/-- Presses keys one after the other. -/
def pressAll (sc : Scene σ) (state : σ) : List Key → List Json × σ
  | [] => ([], state)
  | k :: rest =>
    let (seen, state) := sc.press state k
    let (more, state) := sc.pressAll state rest
    (seen :: more, state)

/-- Carries out one step; its entry is the result. -/
def step (sc : Scene σ) (width height : Nat) : Play σ := fun state j name => do
  if name == "render" then
    let (d, state) := sc.draw state j ⟨0, 0, j.natAt "w" width, j.natAt "h" height⟩
    return (state, ← drawn j width height d)
  match keysOf j with
  | some keys =>
    let (results, state) := sc.pressAll state keys
    let (entry, state) := sc.see state results
    return (state, entry)
  | none =>
    let (results, state) ← sc.act state j name
    let (entry, state) := sc.see state results
    return (state, entry)

/-- The entries of the steps, and the state after them. -/
def entries (sc : Scene σ) (j : Json) (init : σ) : Answered (List Json × σ) := do
  let run (acc : σ × List Json) (s : Json) : Answered (σ × List Json) := do
    let (state, entry) ← sc.step 80 24 acc.1 s (s.textAt "do")
    return (state, entry :: acc.2)
  let (state, made) ← (j.listAt "steps").foldlM run (init, [])
  return (made.reverse, state)

/-- The entries of the steps, under their name. -/
def rehearse (sc : Scene σ) (j : Json) (init : σ) : Answered Json := do
  return .ofMembers [("steps", .list (← sc.entries j init).1)]

end Scene

end CatalogDesk.Rehearsal
