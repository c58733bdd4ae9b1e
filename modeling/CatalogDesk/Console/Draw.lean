import CatalogDesk.Console.Basic
import CatalogDesk.Screen.Bars
import CatalogDesk.Screen.Popup

/-! # Drawing the console

    A header, the screen, a status bar, and over them the notice on display. -/

namespace CatalogDesk

open Draw

namespace Console

/-- The name of the program. -/
def programName : String := "catalog-console"

/-- The version of the program. -/
def programVersion : String := "0.1.0"

/-- The keys that do something on the screen that is shown. -/
def hints (c : Console) : KeyHints :=
  match c.route with
  | .login => [("Enter", "sign in"), ("Tab", "field"), ("Esc", "store")]
  | .builder => c.builder.hints
  | .viewer => c.viewer.hints
  | .store => c.shop.hints

/-- The remark at the end of the status bar. -/
def remark (c : Console) : String :=
  if c.watches.isEmpty then "F1-F3 views  ^L sign out  ^Q quit"
  else "⟳ " ++ toString c.watches.length ++ " publishing"

/-- Draws the screen that is shown. -/
def drawScreen (c : Console) : Drawing :=
  match c.route with
  | .login => c.signIn.draw
  | .builder => c.builder.draw
  | .viewer => c.viewer.draw
  | .store => c.shop.draw

/-- Draws the notice on display. -/
def drawNotice (c : Console) : Drawing :=
  match c.notices.current? with
  | some n => Popup.draw n
  | none => fun _ s => s

/-- Draws the console for a user. -/
def draw (c : Console) (user : Option User) : Drawing := fun a s =>
  let part := a.downward [.exactly 1, .growing 1, .exactly 1]
  let header : Header :=
    { name := programName, version := programVersion, route := c.route,
      username := user.map (·.username), style := .console }
  let status : StatusBar := { left := c.route.title, hints := c.hints, right := c.remark }
  let s := header.draw (part 0) s
  let s := c.drawScreen (part 1) s
  let s := status.draw (part 2) s
  c.drawNotice a s

end Console

end CatalogDesk
