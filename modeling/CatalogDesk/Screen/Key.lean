import CatalogDesk.Session.Route

/-! # Keys

    A key is what was struck together with the modifiers held down.  Some keys mean the
    same on every screen; they are taken out before a screen sees them. -/

namespace CatalogDesk

/-- What was struck. -/
inductive KeyCode
  | char (c : Char)
  | enter
  | escape
  | tab
  | backTab
  | up
  | down
  | left
  | right
  | home
  | toEnd
  | backspace
  | delete
  | pageUp
  | pageDown
  | insert
  | function (n : Nat)
  deriving DecidableEq, Repr

/-- What was struck, and the modifiers held down. -/
structure Key where
  code : KeyCode
  control : Bool := false
  alt : Bool := false
  shift : Bool := false
  deriving DecidableEq, Repr

/-- How a key is reported: when it goes down, when it comes up, and in between. -/
inductive KeyMotion
  | press
  | release
  | again
  deriving DecidableEq, Repr

/-- Only a key that goes down counts. -/
def KeyMotion.counts (m : KeyMotion) : Bool := m == .press

/-- What a key means on every screen. -/
inductive Shortcut
  | quit
  | navigate (route : Route)
  | logout
  | dismiss
  deriving DecidableEq, Repr

namespace Key

/-- Is control held down, and nothing else? -/
def isControlOnly (k : Key) : Bool := k.control && !k.alt && !k.shift

/-- Is this the character with control held down? -/
def isControl (k : Key) (c : Char) : Bool := k.control && k.code == .char c

/-- Does the key end the program? -/
def quits (k : Key) : Bool :=
  k.isControlOnly && (k.code == .char 'c' || k.code == .char 'q')

/-- What the key means on every screen, if anything.  Function keys choose a screen
    whatever is held down with them. -/
def shortcut? (k : Key) : Option Shortcut :=
  if k.quits then some .quit
  else match k.code with
    | .function 1 => some (.navigate .builder)
    | .function 2 => some (.navigate .viewer)
    | .function 3 => some (.navigate .store)
    | .char 'l' => if k.isControlOnly then some .logout else none
    | .char 'd' => if k.isControlOnly then some .dismiss else none
    | _ => none

/-- The character that the key types, with neither control nor alt held down. -/
def typed? (k : Key) : Option Char :=
  match k.code with
  | .char c => if k.control || k.alt then none else some c
  | _ => none

end Key

/-- Keys and what they do, as shown to the user. -/
abbrev KeyHints := List (String × String)

/-! ## Keys as texts

    A key is written by its name, such as `Enter` or `F3`, or by the character that it
    types.  In front of it stand the modifiers: `C-` for control, `A-` for alt and `S-`
    for shift. -/

namespace KeyCode

/-- The keys that have a name. -/
def named : List (String × KeyCode) :=
  [("Enter", .enter), ("Esc", .escape), ("Tab", .tab), ("BackTab", .backTab), ("Up", .up),
    ("Down", .down), ("Left", .left), ("Right", .right), ("Home", .home), ("End", .toEnd),
    ("Backspace", .backspace), ("Delete", .delete), ("PageUp", .pageUp),
    ("PageDown", .pageDown), ("Insert", .insert)]

/-- The key that a text names without modifiers; otherwise its first character. -/
def ofChars (s : List Char) : KeyCode :=
  match named.find? fun p => p.1 == String.ofList s with
  | some (_, code) => code
  | none =>
    match s with
    | 'F' :: d :: ds =>
      match (String.ofList (d :: ds)).toNat? with
      | some n => .function n
      | none => .char 'F'
    | c :: _ => .char c
    | [] => .char ' '

end KeyCode

namespace Key

/-- The key that a text names; a modifier stands in front of at least one character and
    a dash. -/
def ofChars : List Char → Key
  | 'C' :: '-' :: c :: rest => { ofChars (c :: rest) with control := true }
  | 'A' :: '-' :: c :: rest => { ofChars (c :: rest) with alt := true }
  | 'S' :: '-' :: c :: rest => { ofChars (c :: rest) with shift := true }
  | s => { code := KeyCode.ofChars s }

def ofText (s : String) : Key := ofChars s.toList

end Key

end CatalogDesk
