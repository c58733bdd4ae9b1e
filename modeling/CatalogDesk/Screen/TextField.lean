import CatalogDesk.Draw.Prose
import CatalogDesk.Screen.Key
import CatalogDesk.Text.Utf8

/-! # Text fields

    One line of text with a cursor between its characters.  The cursor counts characters;
    the text is edited at the octet where the character behind the cursor begins. -/

namespace CatalogDesk

open Draw

/-- A line of text that is being edited. -/
structure TextField where
  label : String
  placeholder : String := ""
  /-- Shows dots in place of the text. -/
  masked : Bool := false
  /-- Takes digits, one point and a minus sign in front, and nothing else. -/
  numeric : Bool := false
  focused : Bool := false
  /-- The text. -/
  value : String := ""
  /-- The number of characters before the cursor. -/
  cursor : Nat := 0
  /-- What is wrong with the text. -/
  error : Option String := none
  /-- An edit inside a character, or beyond the text, was tried. -/
  spoilt : Bool := false
  deriving DecidableEq, Repr

namespace TextField

/-- Replaces the text; the cursor goes to its end. -/
def setValue (f : TextField) (value : String) : TextField :=
  { f with value, cursor := value.length }

/-- Removes the text. -/
def clear (f : TextField) : TextField := { f with value := "", cursor := 0 }

/-- Gives the field the focus or takes it away. -/
def setFocused (f : TextField) (focused : Bool) : TextField := { f with focused }

/-- Shows what is wrong with the text, or nothing. -/
def setError (f : TextField) (error : Option String) : TextField := { f with error }

/-- May the character stand at the cursor? -/
def accepts (f : TextField) (c : Char) : Bool :=
  if !f.numeric then !Text.isControl c
  else if '0' ≤ c && c ≤ '9' then true
  else if c == '.' then !f.value.toList.contains '.'
  else if c == '-' then f.cursor == 0 && f.value.toList.head? != some '-'
  else false

/-- The field after an edit of its text, which brings the cursor to another place.  An edit
    that fails spoils the field. -/
def edited (f : TextField) (text : Option String) (cursor : Nat) : TextField :=
  match text with
  | some value => { f with value, cursor }
  | none => { f with spoilt := true }

/-- Inserts a character, if it may stand at the cursor. -/
def insert (f : TextField) (c : Char) : TextField :=
  if f.accepts c then
    f.edited (Text.insertAt? f.value (Text.octetOf f.value f.cursor) c) (f.cursor + 1)
  else f

/-- Removes the character before the cursor, if there is one. -/
def backspace (f : TextField) : TextField :=
  if 0 < f.cursor then
    f.edited (Text.removeAt? f.value (Text.octetOf f.value (f.cursor - 1))) (f.cursor - 1)
  else f

/-- Removes the character after the cursor, if there is one. -/
def delete (f : TextField) : TextField :=
  if f.cursor < f.value.length then
    f.edited (Text.removeAt? f.value (Text.octetOf f.value f.cursor)) f.cursor
  else f

/-- Moves the cursor over one character to the left. -/
def moveLeft (f : TextField) : TextField := { f with cursor := f.cursor - 1 }

/-- Moves the cursor over one character to the right. -/
def moveRight (f : TextField) : TextField :=
  if f.cursor < f.value.length then { f with cursor := f.cursor + 1 } else f

/-- Moves the cursor before the text. -/
def moveStart (f : TextField) : TextField := { f with cursor := 0 }

/-- Moves the cursor behind the text. -/
def moveEnd (f : TextField) : TextField := { f with cursor := f.value.length }

/-- What a key does that types no character. -/
def steer (f : TextField) : KeyCode → TextField
  | .backspace => f.backspace
  | .delete => f.delete
  | .left => f.moveLeft
  | .right => f.moveRight
  | .home => f.moveStart
  | .toEnd => f.moveEnd
  | _ => f

/-- What a key does to the text; tells whether the text has changed.  A key that types no
    character has changed it if it has another number of octets. -/
def press (f : TextField) (k : Key) : Bool × TextField :=
  match k.code with
  | .char c =>
    if k.isControl 'u' then (!f.value.isEmpty, f.clear)
    else if k.control || k.alt then (false, f)
    else (f.value != (f.insert c).value, f.insert c)
  | code => (f.value.utf8ByteSize != (f.steer code).value.utf8ByteSize, f.steer code)

/-- What stands in the field: the text, dots for it, or the placeholder. -/
def display (f : TextField) : String :=
  if f.value.isEmpty then f.placeholder
  else if f.masked then String.ofList (List.replicate f.value.length '•')
  else f.value

/-- The border with the label, and with what is wrong. -/
def frame (f : TextField) : Frame where
  title := Line.ofText f.label
  footLeft := f.error.map fun e => Line.ofText (" " ++ e ++ " ") (.colored .red)
  border := .colored (if f.error.isSome then .red else if f.focused then .cyan else .gray)

/-- Draws the field: its border, its text and, with the focus, the cursor, unless that
    is beyond the right end. -/
def draw (f : TextField) : Drawing := fun a s =>
  let inner := a.within
  let s := f.frame.draw a s
  let style := Style.colored (if f.value.isEmpty then .darkGray else .white)
  let s := (Prose.ofText f.display style).draw inner s
  let x := inner.x + f.cursor
  if f.focused && 0 < inner.width && x < inner.right then
    s.insist x inner.y (·.styled ((Style.colored .black).on .white))
  else s

end TextField

end CatalogDesk
