import CatalogDesk.Draw.Prose
import CatalogDesk.Form.Save
import CatalogDesk.Screen.Key
import CatalogDesk.Screen.Palette

/-! # Checklists

    A list of options of which any number can be selected.  The options and the
    selection belong to a form; the checklist keeps only the cursor and how far the list
    is scrolled. -/

namespace CatalogDesk

open Draw

/-- The cursor in a list of options. -/
structure Checklist where
  cursor : Nat := 0
  /-- The first option in sight when the list was last drawn. -/
  offset : Nat := 0
  focused : Bool := false
  deriving DecidableEq, Repr

namespace Checklist

/-- Gives the list the focus or takes it away. -/
def setFocused (c : Checklist) (focused : Bool) : Checklist := { c with focused }

/-- Keeps the cursor in a list of that many options. -/
def clamp (c : Checklist) (count : Nat) : Checklist :=
  { c with cursor := min c.cursor (count - 1) }

/-- Scrolls as little as needed to have the cursor in sight. -/
def scrollTo (c : Checklist) (height : Nat) : Checklist :=
  if height == 0 then c
  else if c.cursor < c.offset then { c with offset := c.cursor }
  else if c.offset + height ≤ c.cursor then { c with offset := c.cursor + 1 - height }
  else c

/-- The list as it is drawn with that many options in that many rows. -/
def inSight (c : Checklist) (count height : Nat) : Checklist := (c.clamp count).scrollTo height

/-- What a key does: it moves the cursor, or picks the option to toggle. -/
def press (c : Checklist) (k : Key) (options : List SelectOption) : Option RecordId × Checklist :=
  match k.code with
  | .up | .char 'k' => (none, { c with cursor := c.cursor - 1 })
  | .down | .char 'j' =>
    if options.isEmpty then (none, c)
    else (none, { c with cursor := min (c.cursor + 1) (options.length - 1) })
  | .char ' ' | .enter => ((options[c.cursor]?).map (·.id), c)
  | _ => (none, c)

end Checklist

/-- A checklist with all that it shows. -/
structure ChecklistView where
  label : String
  options : List SelectOption
  selected : List RecordId
  state : Checklist
  loading : Bool := false
  /-- What is wrong with the selection. -/
  error : Option String := none

namespace ChecklistView

/-- The border with the label and the number of selected options. -/
def frame (v : ChecklistView) : Frame where
  title := Line.ofText (" " ++ v.label ++ " (" ++ toString v.selected.length ++ ") ")
  footLeft := v.error.map fun e => Line.ofText (" " ++ e ++ " ") (.colored Palette.error)
  border := if v.error.isSome then .colored Palette.error else Palette.borderStyle v.state.focused

/-- The line of the option with that number. -/
def optionLine (v : ChecklistView) (state : Checklist) (i : Nat) (option : SelectOption) : Line :=
  let checked := v.selected.contains option.id
  let style :=
    if state.focused && i == state.cursor then Palette.selectedStyle
    else if checked then .colored Palette.success
    else .colored .plain
  { spans := [⟨if checked then "[x] " else "[ ] ", style⟩, ⟨option.label, style⟩] }

/-- The options in sight, each with its number. -/
def shown (v : ChecklistView) (state : Checklist) (height : Nat) : List (Nat × SelectOption) :=
  (((List.range v.options.length).zip v.options).drop state.offset).take height

/-- Has the list options to draw? -/
def showsOptions (v : ChecklistView) : Bool := !v.loading && !v.options.isEmpty

/-- What stands inside the border. -/
def body (v : ChecklistView) (height : Nat) : Prose :=
  if v.loading then Prose.ofText "Loading..." Palette.mutedStyle
  else if v.options.isEmpty then Prose.ofText "Nothing to choose from yet" Palette.mutedStyle
  else
    let state := v.state.inSight v.options.length height
    { lines := (v.shown state height).map fun (i, option) => v.optionLine state i option }

/-- Draws the list. -/
def draw (v : ChecklistView) : Drawing := fun a s =>
  (v.body a.within.height).draw a.within (v.frame.draw a s)

end ChecklistView

end CatalogDesk
