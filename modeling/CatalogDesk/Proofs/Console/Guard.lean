import CatalogDesk.Proofs.Console.Run
import CatalogDesk.Proofs.Session.Rejection

/-! # Who sees the screens for users

    Builder and viewer are shown to users only.  On the way to them the console asks the
    session, but later the session may end behind its back: by a reply, or by whatever else
    runs in the background.  The console hears of that when its turn comes, and until then
    the screen stays.

    Main result: `guard_sound` says that `Secure` holds after every run that begins with the
    remembered screen: as long as a screen for users is shown somebody is signed in, or the
    end of the session waits to be heard of; and when everything has been heard of somebody
    is signed in. -/

namespace CatalogDesk

/-! ## What the steps of the console do to its screen -/

/-- Is somebody signed in, as far as the console sees? -/
def ConsoleInput.seesUser : ConsoleInput → Bool
  | .start s => s.isAuthenticated
  | .press around _ => around.session.isAuthenticated
  | .take s _ => s.isAuthenticated
  | _ => false

theorem SessionContext.isAuthenticated_of_guard {s : SessionContext} {requested : Route}
    (h : (s.guard requested).requiresSession = true) : s.isAuthenticated = true := by
  unfold SessionContext.guard at h
  split at h
  · cases h
  · rename_i hopen
    simpa [h] using hopen

namespace Console

variable {c c' : Console} {seesUser : Bool}

/-- A step that opens a screen for users only if it sees one, or shows such a screen
    already. -/
def Admits (c : Console) (seesUser : Bool) (c' : Console) : Prop :=
  c'.route.requiresSession = true → c.route.requiresSession = true ∨ seesUser = true

theorem admits_of_route_eq (h : c'.route = c.route) : c.Admits seesUser c' := by
  intro hprotected
  rw [h] at hprotected
  exact .inl hprotected

theorem route_browse (c : Console) (now : Nat) (action : ShopAction) :
    (c.browse now action).2.route = c.route := by
  cases action <;> rfl

theorem route_enter (c : Console) (route : Route) : (c.enter route).2.route = c.route := by
  cases route with
  | login => rfl
  | builder => rfl
  | viewer => rfl
  | store =>
    unfold enter
    simp only
    split <;> rfl

theorem route_navigate (c : Console) (s : SessionContext) (requested : Route) :
    (c.navigate s requested).2.route = s.guard requested := by
  have henter (c : Console) (route : Route) : (c.goTo route).2.route = route := by
    unfold goTo
    simp only
    split <;> exact route_enter { c with route } route
  exact henter _ _

/-- The way to a screen asks the session, wherever it begins. -/
theorem admits_navigate (c : Console) (s : SessionContext) (requested : Route) :
    c.Admits s.isAuthenticated (c.navigate s requested).2 := by
  intro hprotected
  rw [route_navigate] at hprotected
  exact .inr (SessionContext.isAuthenticated_of_guard hprotected)

theorem admits_pressShortcut (c : Console) (around : Surroundings) (shortcut : Shortcut) :
    c.Admits around.session.isAuthenticated (c.pressShortcut around shortcut).2 := by
  cases shortcut with
  | quit => exact admits_of_route_eq rfl
  | navigate route => exact c.admits_navigate around.session route
  | logout =>
    unfold pressShortcut
    simp only
    split
    · exact admits_of_route_eq rfl
    · exact c.admits_navigate around.session .login
  | dismiss => exact admits_of_route_eq rfl

theorem admits_pressSignIn (c : Console) (s : SessionContext) (k : Key) :
    c.Admits s.isAuthenticated (c.pressSignIn s k).2 := by
  unfold pressSignIn
  split
  · exact admits_of_route_eq rfl
  · exact admits_of_route_eq rfl
  · exact admits_navigate { c with signIn := _ } s .store

theorem admits_press (c : Console) (around : Surroundings) (k : Key) :
    c.Admits around.session.isAuthenticated (c.press around k).2 := by
  unfold press
  split
  · exact c.admits_pressShortcut around _
  · unfold pressScreen
    split
    · exact c.admits_pressSignIn around.session k
    -- Builder and viewer are for users: a record of the viewer opens in the builder
    -- without another look at the session.
    · rename_i hroute
      exact fun _ => .inl (by rw [hroute]; rfl)
    · rename_i hroute
      exact fun _ => .inl (by rw [hroute]; rfl)
    · exact admits_of_route_eq (route_browse { c with shop := _ } around.now _)

theorem admits_take (c : Console) (s : SessionContext) (o : Outcome) :
    c.Admits s.isAuthenticated (c.take s o).2 := by
  cases o with
  | signedIn result =>
    cases result with
    | ok user => exact admits_navigate { c with signIn := {}, returnTo := none } s _
    | error e => exact admits_of_route_eq rfl
  | recordDone collection result => cases result <;> exact admits_of_route_eq rfl
  | published o =>
    simp only [take]
    split <;> exact admits_of_route_eq rfl
  | _ => exact admits_of_route_eq rfl

/-- No step opens a screen for users unless it sees one. -/
theorem admits_step (c : Console) (input : ConsoleInput) :
    c.Admits input.seesUser (c.step input).2 := by
  cases input with
  | start s => exact c.admits_navigate s c.route
  | press around k => exact c.admits_press around k
  | take s o => exact c.admits_take s o
  | hear e =>
    cases e with
    | loggedIn user => exact admits_of_route_eq rfl
    | loggedOut => exact nofun
  | display t => exact admits_of_route_eq rfl
  | tick w wall => exact admits_of_route_eq rfl
  | keep watches => exact admits_of_route_eq rfl
  | ring now => exact admits_of_route_eq rfl

end Console

/-! ## Runs -/

/-- What can happen to a console and its session. -/
inductive GuardInput
  | press (k : Key) (now : Nat) (wall : Int)
  | take (o : Outcome)
  /-- The console hears of the oldest change of the session that waits, if any. -/
  | hear
  | display (t : Toast)
  | tick (w : Watcher) (wall : Int)
  | keep (watches : List Nat)
  | ring (now : Nat)
  /-- Somebody is signed in in the background. -/
  | login (token : Token) (username : String)
  | logout
  /-- A reply arrives to a request that was sent with the bearer. -/
  | receive (bearer : Option String) (reply : Reply)

/-- A console and the session that it looks at. -/
structure GuardRun where
  console : Console
  context : SessionContext

namespace GuardRun

/-- What an order does to the session. -/
def carryOut (s : SessionContext) : Order → SessionContext
  | .logout => s.logout
  | _ => s

/-- A step of the console, with its orders carried out. -/
def advance (r : GuardRun) (input : ConsoleInput) : GuardRun where
  console := (r.console.step input).2
  context := (r.console.step input).1.foldl carryOut r.context

def hear (r : GuardRun) : GuardRun :=
  match r.context.events with
  | [] => r
  | e :: rest => { r with context := { r.context with events := rest } }.advance (.hear e)

def step (r : GuardRun) : GuardInput → GuardRun
  | .press k now wall => r.advance (.press ⟨r.context, now, wall⟩ k)
  | .take o => r.advance (.take r.context o)
  | .hear => r.hear
  | .display t => r.advance (.display t)
  | .tick w wall => r.advance (.tick w wall)
  | .keep watches => r.advance (.keep watches)
  | .ring now => r.advance (.ring now)
  | .login token username => { r with context := (r.context.login token username).2 }
  | .logout => { r with context := r.context.logout }
  | .receive bearer reply => { r with context := (r.context.receive bearer reply).2 }

def after (r : GuardRun) (inputs : List GuardInput) : GuardRun :=
  inputs.foldl step r

/-- The remembered screen is opened, with the session that a store holds. -/
def opened (settings : Settings) (remembered : Remembered) (store : SessionStore) : GuardRun :=
  let context := SessionContext.restore store .endSession
  ({ console := .new settings remembered, context } : GuardRun).advance (.start context)

/-- The console hears of all that waits. -/
def hearAll (r : GuardRun) : GuardRun :=
  r.after (List.replicate r.context.events.length .hear)

/-- No screen for users is shown without one, unless the console has yet to hear of the end
    of the session. -/
structure Secure (r : GuardRun) : Prop where
  shown : r.console.route.requiresSession = true →
    r.context.isAuthenticated = true ∨ .loggedOut ∈ r.context.events
  /-- To hear of all that waits leaves nothing that waits. -/
  heard : r.hearAll.context.events = []
  settled : r.hearAll.console.route.requiresSession = true →
    r.hearAll.context.isAuthenticated = true

/-- The invariant that every input preserves, for the session and the screen that is
    shown. -/
structure Covers (s : SessionContext) (route : Route) : Prop where
  listening : s.listening = true
  covered : route.requiresSession = true → s.isAuthenticated = true ∨ .loggedOut ∈ s.events

variable {s : SessionContext} {route : Route} {r : GuardRun}

/-! ### Changes of the session -/

/-- A session that ends tells of its end. -/
theorem covers_logout (h : Covers s route) : Covers s.logout route := by
  unfold SessionContext.logout
  split
  · exact h
  · dsimp only
    rw [SessionRun.emit_of_listening]
    · exact ⟨h.listening, fun _ => .inr (List.mem_append_right _ (List.mem_singleton.mpr rfl))⟩
    · exact h.listening

theorem covers_login (h : Covers s route) (token : Token) (username : String) :
    Covers (s.login token username).2 route := by
  unfold SessionContext.login
  dsimp only
  rw [SessionRun.emit_of_listening]
  · exact ⟨h.listening, fun _ => .inl rfl⟩
  · exact h.listening

theorem covers_receive (h : Covers s route) (bearer : Option String) (reply : Reply) :
    Covers (s.receive bearer reply).2 route := by
  have hclient (client : Client) : Covers { s with client } route := ⟨h.listening, h.covered⟩
  unfold SessionContext.receive SessionContext.reject
  dsimp only
  split
  · split
    · exact hclient _
    · exact hclient _
    · exact covers_logout (hclient _)
  · exact h

theorem covers_orders (h : Covers s route) (orders : List Order) :
    Covers (orders.foldl carryOut s) route := by
  induction orders generalizing s with
  | nil => exact h
  | cons order orders ih =>
    apply ih
    cases order with
    | logout => exact covers_logout h
    | _ => exact h

/-! ### Steps of the console -/

/-- A step that sees a user only if there is one. -/
theorem covers_advance (h : Covers r.context r.console.route) {input : ConsoleInput}
    (hsees : input.seesUser = true → r.context.isAuthenticated = true) :
    Covers (r.advance input).context (r.advance input).console.route := by
  refine covers_orders ⟨h.listening, fun hprotected => ?_⟩ _
  rcases r.console.admits_step input hprotected with hbefore | huser
  · exact h.covered hbefore
  · exact .inl (hsees huser)

theorem context_hear (r : GuardRun) :
    r.hear.context = { r.context with events := r.context.events.tail } := by
  unfold hear
  split
  · rename_i hnone
    rw [hnone, List.tail_nil, ← hnone]
  · rename_i e rest hevents
    rw [hevents, List.tail_cons]
    cases e <;> rfl

/-- After the end of the session the screen to sign in is shown. -/
theorem covers_hear (h : Covers r.context r.console.route) :
    Covers r.hear.context r.hear.console.route := by
  rw [context_hear]
  refine ⟨h.listening, ?_⟩
  unfold hear
  split
  · rename_i hnone
    rw [hnone, List.tail_nil, ← hnone]
    exact h.covered
  · rename_i e rest hevents
    rw [hevents, List.tail_cons]
    cases e with
    | loggedIn user =>
      intro hprotected
      rcases h.covered hprotected with huser | hend
      · exact .inl huser
      · rw [hevents] at hend
        rcases List.mem_cons.mp hend with heq | hrest
        · cases heq
        · exact .inr hrest
    | loggedOut => exact nofun

/-- **Step lemma.** -/
theorem covers_step (h : Covers r.context r.console.route) (input : GuardInput) :
    Covers (r.step input).context (r.step input).console.route := by
  cases input with
  | press k now wall => exact covers_advance h id
  | take o => exact covers_advance h id
  | hear => exact covers_hear h
  | display t => exact covers_advance h nofun
  | tick w wall => exact covers_advance h nofun
  | keep watches => exact covers_advance h nofun
  | ring now => exact covers_advance h nofun
  | login token username => exact covers_login h token username
  | logout => exact covers_logout h
  | receive bearer reply => exact covers_receive h bearer reply

/-! ### Runs of a console and its session -/

/-- Whatever is remembered, the session is asked before it is shown. -/
theorem covers_opened (settings : Settings) (remembered : Remembered) (store : SessionStore) :
    Covers (opened settings remembered store).context
      (opened settings remembered store).console.route := by
  have hroute : (opened settings remembered store).console.route =
      (SessionContext.restore store .endSession).guard (Console.rememberedRoute remembered) :=
    Console.route_navigate _ _ _
  rw [hroute]
  refine covers_orders ⟨rfl, fun hprotected => ?_⟩ _
  exact .inl (SessionContext.isAuthenticated_of_guard hprotected)

/-- **Run lemma.** -/
theorem covers_after (h : Covers r.context r.console.route) (inputs : List GuardInput) :
    Covers (r.after inputs).context (r.after inputs).console.route := by
  induction inputs generalizing r with
  | nil => exact h
  | cons input inputs ih => exact ih (covers_step h input)

theorem events_after_hear (r : GuardRun) (n : Nat) :
    (r.after (List.replicate n .hear)).context.events = r.context.events.drop n := by
  induction n generalizing r with
  | zero => rfl
  | succ n ih =>
    have hrest : (r.hear.after (List.replicate n .hear)).context.events =
        r.hear.context.events.drop n := ih r.hear
    rw [context_hear, List.drop_tail] at hrest
    exact hrest

theorem Covers.secure (h : Covers r.context r.console.route) : r.Secure := by
  have hheard : r.hearAll.context.events = [] := by
    rw [hearAll, events_after_hear, List.drop_length]
  refine ⟨h.covered, hheard, fun hprotected => ?_⟩
  rcases (covers_after h _).covered hprotected with huser | hend
  · exact huser
  · rw [← hearAll, hheard] at hend
    cases hend

/-- Whatever was remembered and stored, and in whatever order keys are pressed, outcomes are
    taken, time passes, users sign in and out, tokens are refused and the console hears of
    it: no screen for users is shown without one, and none takes a key, but for the time
    until the console hears that the session has ended. -/
theorem guard_sound (settings : Settings) (remembered : Remembered) (store : SessionStore)
    (inputs : List GuardInput) : ((opened settings remembered store).after inputs).Secure :=
  (covers_after (covers_opened settings remembered store) inputs).secure

end GuardRun

end CatalogDesk
