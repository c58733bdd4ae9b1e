import CatalogDesk.Clock.Debounce
import CatalogDesk.Console.Job
import CatalogDesk.Notice.Basic
import CatalogDesk.Screen.Builder
import CatalogDesk.Screen.Shop
import CatalogDesk.Screen.SignIn
import CatalogDesk.Screen.Viewer
import CatalogDesk.Session.Context
import CatalogDesk.Settings.Remembered

/-! # The console

    The console joins the screens.  It is a state that changes by four kinds of steps: a
    key is pressed, an outcome comes back from the background, the session tells of a
    change, and time passes.  A step changes nothing but the console; all else that it
    wants is handed out as orders.

    This module holds the state, the orders, and the way from one screen to another. -/

namespace CatalogDesk

/-- What the console wants of its surroundings. -/
inductive Order
  | job (j : Job)
  | toast (t : Toast)
  /-- To end the session. -/
  | logout
  /-- To watch an offering until it is published. -/
  | watch (id : RecordId)
  /-- To be told when so many milliseconds have passed. -/
  | remind (delay : Nat)
  deriving DecidableEq, Repr

/-- The console. -/
structure Console where
  running : Bool := true
  route : Route
  /-- The screen to open after signing in. -/
  returnTo : Option Route := none
  /-- The screen to open at the next start. -/
  lastVisited : Route
  signIn : SignIn := {}
  builder : Builder := .new
  viewer : Viewer
  shop : Shop
  /-- Has the store been searched yet? -/
  shopStarted : Bool := false
  notices : NoticeQueue := {}
  /-- The watches that have not been seen to end. -/
  watches : List Nat := []
  /-- Edits of the store's filters, until they settle. -/
  edits : Debouncer Filters

namespace Console

/-- The screen that was remembered; the store, if that was none or the one to sign in. -/
def rememberedRoute (r : Remembered) : Route :=
  match r.lastRoute.bind Route.ofName? with
  | none => .store
  | some .login => .store
  | some route => route

/-- The console as the settings say, where the last run left off.  The query line of the
    settings goes before the one that was remembered. -/
def new (s : Settings) (r : Remembered) : Console where
  route := rememberedRoute r
  lastVisited := rememberedRoute r
  viewer := .new s.view.pageSize s.view.viewerPageSize
  shop := .ofLocation ((s.storeQuery <|> r.storeQuery).getD "") s.store.pageSize
  notices := { duration := s.noticeDuration }
  edits := { delay := s.store.debounce }

/-- What is to be remembered. -/
def remembered (c : Console) : Remembered :=
  { lastRoute := some c.lastVisited.name, storeQuery := some c.shop.browser.location }

/-! ## Orders of the screens -/

/-- Lists a collection anew. -/
def list (c : Console) (collection : Collection) : List Order × Console :=
  ([.job (.list collection)], { c with viewer := c.viewer.setLoading collection })

/-- What the builder asks for, and the builder after that. -/
def build (c : Console) (p : BuilderAction × Builder) : List Order × Console :=
  ((Job.ofBuilder? p.1).toList.map .job, { c with builder := p.2 })

/-- A search that the store issued. -/
def search (c : Console) (p : SearchTicket × Shop) : List Order × Console :=
  ([.job (.search p.1)], { c with shop := p.2 })

/-- Opens a record in the builder.  A record that cannot be changed stays where it is. -/
def edit (c : Console) (r : CatalogRecord) : List Order × Console :=
  match c.builder.edit r with
  | .ok p => { c with route := .builder, lastVisited := .builder }.build p
  | .error why => ([.toast ⟨.error, why.message⟩], c)

/-- What the viewer asks for. -/
def view (c : Console) : ViewerAction → List Order × Console
  | .none => ([], c)
  | .reload collection => c.list collection
  | .edit r => c.edit r
  | .delete r => ([.job (.delete r)], c)
  | .publish o => ([.job (.publish o)], c)
  | .retire o => ([.job (.retire o)], c)

/-- What the store asks for at a time. -/
def browse (c : Console) (now : Nat) : ShopAction → List Order × Console
  | .none => ([], c)
  | .search t => ([.job (.search t)], c)
  | .edited f => ([.remind c.edits.delay], { c with edits := c.edits.call f now })

/-! ## From screen to screen -/

/-- What a screen does when it is opened. -/
def enter (c : Console) : Route → List Order × Console
  | .login => ([], c)
  | .builder => c.build (c.builder.showTab c.builder.tab)
  | .viewer =>
    let (action, viewer) := c.viewer.reload
    { c with viewer }.view action
  | .store => if c.shopStarted then ([], c) else { c with shopStarted := true }.search c.shop.start

/-- Shows a screen, which is remembered unless it is the one to sign in. -/
def goTo (c : Console) (route : Route) : List Order × Console :=
  let (orders, c) := { c with route }.enter route
  (orders, if route == .login then c else { c with lastVisited := route })

/-- Goes to a screen.  If nobody is signed in and the screen is shown to users only, it
    opens after signing in. -/
def navigate (c : Console) (s : SessionContext) (requested : Route) : List Order × Console :=
  let route := s.guard requested
  let detour := route == .login && requested != .login
  { c with returnTo := if detour then some requested else c.returnTo }.goTo route

/-- The first step: the remembered screen is opened. -/
def start (c : Console) (s : SessionContext) : List Order × Console := c.navigate s c.route

end Console

end CatalogDesk
