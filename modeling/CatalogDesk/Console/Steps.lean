import CatalogDesk.Console.Basic
import CatalogDesk.Publish.Watcher

/-! # The steps of the console

    `press` takes a key, `take` an outcome of the background, `hear` an event of the
    session, `display` a notice, and `tick` lets time pass. -/

namespace CatalogDesk

/-- What the console sees of its surroundings when a key is pressed. -/
structure Surroundings where
  session : SessionContext
  /-- The time by which background work goes. -/
  now : Nat
  /-- The time by which notices are displayed. -/
  wall : Int

namespace Console

/-! ## Keys -/

/-- What a key does that means the same on every screen. -/
def pressShortcut (c : Console) (around : Surroundings) : Shortcut → List Order × Console
  | .quit => ([], { c with running := false })
  | .navigate route => c.navigate around.session route
  | .logout =>
    if around.session.isAuthenticated then ([.logout], c) else c.navigate around.session .login
  | .dismiss => ([], { c with notices := c.notices.dismiss around.wall })

/-- What a key does to the screen to sign in. -/
def pressSignIn (c : Console) (s : SessionContext) (k : Key) : List Order × Console :=
  match c.signIn.press k with
  | (.none, signIn) => ([], { c with signIn })
  | (.submit, signIn) =>
    ([.job (.signIn signIn.credentials)], { c with signIn := signIn.validate })
  | (.cancel, signIn) => { c with signIn }.navigate s .store

/-- What a key does to the screen that is shown. -/
def pressScreen (c : Console) (around : Surroundings) (k : Key) : List Order × Console :=
  match c.route with
  | .login => c.pressSignIn around.session k
  | .builder =>
    let (action, toasts, builder) := c.builder.press k
    let (orders, c) := c.build (action, builder)
    (toasts.map .toast ++ orders, c)
  | .viewer =>
    let (action, viewer) := c.viewer.press k
    { c with viewer }.view action
  | .store =>
    let (action, shop) := c.shop.press k
    { c with shop }.browse around.now action

/-- What a key does. -/
def press (c : Console) (around : Surroundings) (k : Key) : List Order × Console :=
  match k.shortcut? with
  | some shortcut => c.pressShortcut around shortcut
  | none => c.pressScreen around k

/-! ## Outcomes -/

/-- The outcome of signing in. -/
def takeSignIn (c : Console) (s : SessionContext) :
    Except AuthError User → List Order × Console
  | .ok user =>
    let target := c.returnTo.getD .builder
    let (orders, c) := { c with signIn := {}, returnTo := none }.navigate s target
    (.toast ⟨.success, "Welcome, " ++ user.username ++ "!"⟩ :: orders, c)
  | .error e => ([], { c with signIn := c.signIn.fail e.userMessage })

/-- The builder after an outcome, with a notice. -/
def built (c : Console) (p : Toast × Builder) : List Order × Console :=
  ([.toast p.1], { c with builder := p.2 })

/-- The builder with options, and perhaps with notices. -/
def equipped (c : Console) (p : List Toast × Builder) : List Order × Console :=
  (p.1.map .toast, { c with builder := p.2 })

/-- The outcome of publishing from the form; what was accepted is watched. -/
def takeSubmission (c : Console) (result : Except PublishFailure Offering) :
    List Order × Console :=
  let (outcome, toast, builder) := c.builder.completePublish result
  let watch : List Order := match outcome with
    | .accepted o => [.watch o.id]
    | .failed _ => []
  (.toast toast :: watch, { c with builder })

/-- Keeps a watch. -/
def keep (c : Console) (watches : List Nat) : Console :=
  { c with watches := c.watches ++ watches }

/-- Does the viewer show offerings right now? -/
def showsOfferings (c : Console) : Bool := c.route == .viewer && c.viewer.active == .offerings

/-- Takes an outcome of the background. -/
def take (c : Console) (s : SessionContext) : Outcome → List Order × Console
  | .signedIn result => c.takeSignIn s result
  | .characteristicSaved result => c.built (c.builder.completeCharacteristic result)
  | .specificationSaved result => c.built (c.builder.completeSpecification result)
  | .priceSaved result => c.built (c.builder.completePricing result)
  | .draftSaved result => c.built (c.builder.completeDraft result)
  | .offeringSubmitted result => c.takeSubmission result
  | .characteristicsFetched result => c.equipped (c.builder.applySpecificationOptions result)
  | .optionsFetched result => c.equipped (c.builder.applyOfferingOptions result)
  | .listed collection result => ([], { c with viewer := c.viewer.apply collection result })
  | .recordDone collection (.ok watch) => (c.keep watch.toList).list collection
  | .recordDone _ (.error _) => ([], c)
  | .searched t result => ([], { c with shop := (c.shop.complete t result).2 })
  | .published _ => if c.showsOfferings then c.list .offerings else ([], c)
  | .settled f => c.search (c.shop.applyFilters f)

/-! ## Other steps -/

/-- Hears of a change of the session.  When it ends, the screen to sign in is shown, and
    leads back to where the user was. -/
def hear (c : Console) : SessionEvent → List Order × Console
  | .loggedIn _ => ([], c)
  | .loggedOut =>
    let returnTo := if c.route.requiresSession then some c.route else c.returnTo
    ([.toast ⟨.info, "Signed out"⟩], { c with returnTo, signIn := {}, route := .login })

/-- Queues a notice. -/
def display (c : Console) (t : Toast) : Console :=
  { c with notices := c.notices.push (.ofToast t) }

/-- Lets time pass: the front notice may go, and watches that have ended are let go. -/
def tick (c : Console) (w : Watcher) (wall : Int) : Console :=
  { c with
    notices := c.notices.tick wall
    watches := c.watches.filter fun handle => !w.isFinished handle }

end Console

end CatalogDesk
