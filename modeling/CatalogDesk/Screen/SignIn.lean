import CatalogDesk.Draw.Area
import CatalogDesk.Screen.Palette
import CatalogDesk.Screen.TextField
import CatalogDesk.Session.Login

/-! # Signing in

    Name and password, one below the other, and what became of the last attempt.  While
    an attempt is checked no key does anything. -/

namespace CatalogDesk

open Draw

/-- What the screen is doing. -/
inductive SignInPhase
  | input
  | validating
  | failed
  deriving DecidableEq, Repr

/-- What a key on the screen asks for. -/
inductive SignInAction
  | none
  | submit
  /-- To leave for the store. -/
  | cancel
  deriving DecidableEq, Repr

/-- The screen to sign in. -/
structure SignIn where
  username : TextField :=
    { label := " Username ", placeholder := "admin", focused := true }
  password : TextField := { label := " Password ", masked := true }
  onPassword : Bool := false
  phase : SignInPhase := .input
  error : Option String := none
  deriving DecidableEq, Repr

namespace SignIn

/-- What was typed. -/
def credentials (s : SignIn) : Credentials := ⟨s.username.value, s.password.value⟩

/-- Waits for the outcome of an attempt. -/
def validate (s : SignIn) : SignIn := { s with phase := .validating, error := none }

/-- Shows why an attempt failed; the password has to be typed again. -/
def fail (s : SignIn) (message : String) : SignIn :=
  { s with phase := .failed, error := some message, password := s.password.clear }

/-- Goes to one of the two fields. -/
def goTo (s : SignIn) (onPassword : Bool) : SignIn :=
  { s with
    onPassword
    username := s.username.setFocused !onPassword
    password := s.password.setFocused onPassword }

/-- What a key does to the field that has the focus.  A change takes the failure back. -/
def pressField (s : SignIn) (k : Key) : SignIn :=
  let (changed, s) :=
    if s.onPassword then
      let (changed, password) := s.password.press k
      (changed, { s with password })
    else
      let (changed, username) := s.username.press k
      (changed, { s with username })
  if changed && s.phase == .failed then { s with phase := .input } else s

/-- What a key does. -/
def press (s : SignIn) (k : Key) : SignInAction × SignIn :=
  if s.phase == .validating then (.none, s)
  else match k.code with
    | .escape => (.cancel, s)
    | .tab | .backTab | .up | .down => (.none, s.goTo !s.onPassword)
    | .enter => if s.onPassword then (.submit, s) else (.none, s.goTo true)
    | _ => (.none, s.pressField k)

/-- What became of the last attempt. -/
def status (s : SignIn) : Line :=
  match s.phase with
  | .input => {}
  | .validating => { spans := [⟨"Signing in...", (Style.colored Palette.warning).italic⟩] }
  | .failed => { spans := [⟨s.error.getD "Unknown error", .colored Palette.error⟩] }

/-- The keys. -/
def hints : Line where
  spans :=
    [⟨"Enter: Sign in", Palette.mutedStyle⟩, ⟨" | ", {}⟩, ⟨"Tab: Next field", Palette.mutedStyle⟩,
      ⟨" | ", {}⟩, ⟨"Esc: Store", Palette.mutedStyle⟩]

/-- Draws the screen in the middle of an area. -/
def draw (s : SignIn) : Drawing := fun a surface =>
  let middle := a.downward [.growing 1, .exactly 13, .growing 1] 1
  let box := middle.across [.growing 1, .atLeast 50, .growing 1] 1
  let frame : Frame :=
    { title := Line.ofText " Catalog Admin Sign In ", border := .colored Palette.accent }
  let part := box.within.downward
    [.exactly 1, .exactly 1, .exactly 3, .exactly 3, .exactly 1, .exactly 1, .exactly 1]
  let surface := frame.draw box (surface.clear box)
  let heading := Prose.ofText "Sign in to manage the product catalog" (.colored Palette.text)
  let surface := heading.draw (part 0) surface
  let surface := s.username.draw (part 2) surface
  let surface := s.password.draw (part 3) surface
  let surface := (Prose.ofLine s.status).draw (part 5) surface
  (Prose.ofLine hints).draw (part 6) surface

end SignIn

end CatalogDesk
