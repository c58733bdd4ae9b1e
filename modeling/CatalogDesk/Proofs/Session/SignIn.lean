import CatalogDesk.Proofs.Session.Restored
import CatalogDesk.Proofs.Task.Course
import CatalogDesk.Session.Login
import CatalogDesk.Task.Scheduler

/-! # Attempts to sign in

    An attempt to sign in sends a request like any other.  So it carries the token of the
    session if somebody is signed in already, and its reply is looked at as every reply is:
    one that says 401 refuses the token that was sent along, whosoever's password was wrong.

    An attempt honours the session if a failure leaves everything as it was, and a success
    puts the new token and the new user everywhere.  `signIn` is the whole attempt as the
    scheduler runs it, with any reply after any delay; `attempt` is what it comes to.

    Main result: `honours_iff_not_expels` says that every attempt honours the session but
    one: somebody is signed in, name and password are given, and the reply says 401.  Then
    the session that has nothing to do with the attempt ends (`context_of_expels`). -/

namespace CatalogDesk

/-! ## An attempt and its outcome -/

/-- The token that a reply grants, or why there is none. -/
def Credentials.granted (reply : Reply) : Except AuthError Token :=
  match Work.readReply TokenGrant.decode reply with
  | .error f => .error (refusal f)
  | .ok grant =>
    match Token.ofText? grant.accessToken with
    | none => .error .invalidToken
    | some token => .ok token

/-- How the work that signs in goes on after the reply. -/
def Credentials.proceed (c : Credentials) (reply : Reply) : Work (Except AuthError User) :=
  match granted reply with
  | .error e => .done (.error e)
  | .ok token => .login token c.username fun user => .done (.ok user)

namespace SessionContext

/-- Nothing goes on, and the gateway has this reply for those who sign in. -/
def expecting (c : SessionContext) (reply : PreparedReply) : Scheduler (Except AuthError User) :=
  { context := c, gateway := { routes := [⟨.post, Credentials.loginPath, [reply]⟩] } }

/-- An attempt to sign in, until its reply has arrived. -/
def signIn (c : SessionContext) (typed : Credentials) (reply : PreparedReply) :
    Scheduler (Except AuthError User) :=
  ((c.expecting reply).spawn typed.login).advance reply.delay

/-- The result of an attempt to which the reply has come, and the session after it. -/
def conclude (c : SessionContext) (given : Credentials) (reply : Reply) :
    Except AuthError User × SessionContext :=
  match Credentials.granted reply with
  | .error e => (.error e, c)
  | .ok token =>
    let (user, c) := c.login token given.username
    (.ok user, c)

/-- The result of an attempt with any reply, and the session after it. -/
def attempt (c : SessionContext) (typed : Credentials) (reply : Reply) :
    Except AuthError User × SessionContext :=
  match typed.checked with
  | .error e => (.error e, c)
  | .ok given =>
    let (reply, c) := c.receive c.client.bearer reply
    c.conclude given reply

/-! ## Honour -/

/-- Session, client, store and what the screens were told are as they were. -/
structure Unchanged (before after : SessionContext) : Prop where
  token : after.token = before.token
  user : after.user = before.user
  client : after.client.token = before.client.token
  items : after.store.items = before.store.items
  events : after.events = before.events

/-- The user has been signed in with the token that was received. -/
structure Begun (before : SessionContext) (typed : Credentials) (reply : Reply) (user : User)
    (after : SessionContext) : Prop where
  named : user = { username := Text.trim typed.username }
  shown : after.user = some user
  received : ∃ answer grant, reply = .ok answer ∧ answer.isSuccess = true ∧
    TokenGrant.decode (answer.body.getD .null) = .ok grant ∧
    after.token = some ⟨Text.trim grant.accessToken⟩
  client : after.client.token = after.token
  storedToken : before.store.failsToSet = false →
    after.store.items.get? tokenKey = after.token.map Token.value
  storedUser : before.store.failsToSet = false →
    (after.store.items.get? userKey).bind User.ofText? = some user
  told : after.events = before.events ++ [.loggedIn user]

/-- An attempt comes to an end; if it fails nothing has changed, and if not the user is
    signed in. -/
def Honours (c : SessionContext) (typed : Credentials) (reply : PreparedReply) : Prop :=
  ∃ result, (c.signIn typed reply).events = [.finished result] ∧
    (∀ e, result = .error e → Unchanged c (c.signIn typed reply).context) ∧
    (∀ user, result = .ok user → Begun c typed reply.reply user (c.signIn typed reply).context)

/-- Somebody is signed in, and an attempt with name and password is answered by 401. -/
structure Expels (c : SessionContext) (typed : Credentials) (reply : Reply) : Prop where
  username : Text.trim typed.username ≠ ""
  password : typed.password ≠ ""
  authenticated : c.isAuthenticated = true
  refused : ∃ answer, reply = .ok answer ∧ answer.status = 401

end SessionContext

/-! ## What the scheduler does -/

theorem Credentials.login_eq (typed : Credentials) :
    typed.login = match typed.checked with
      | .error e => .done (.error e)
      | .ok given => .send
          { method := .post, path := loginPath,
            body := .form [("username", given.username), ("password", given.password)] }
          given.proceed := by
  unfold login
  cases typed.checked with
  | error e => rfl
  | ok given =>
    refine congrArg (Work.send _) (funext fun reply => ?_)
    show Work.bind (.done (Work.readReply TokenGrant.decode reply)) _ = given.proceed reply
    unfold Work.bind proceed granted
    cases Work.readReply TokenGrant.decode reply with
    | error f => rfl
    | ok grant =>
      dsimp only
      cases Token.ofText? grant.accessToken <;> rfl

namespace Scheduler

variable (s : Scheduler (Except AuthError User))

theorem run_proceed (given : Credentials) (reply : Reply) :
    s.run (given.proceed reply) =
      { s with
        context := (s.context.conclude given reply).2,
        events := s.events ++ [.finished (s.context.conclude given reply).1] } := by
  unfold Credentials.proceed SessionContext.conclude
  cases Credentials.granted reply <;> rfl

end Scheduler

namespace SessionContext

variable {c : SessionContext} {typed given : Credentials}

/-- A reply that has arrived is heard, and then the attempt is concluded. -/
theorem run_receive (s : Scheduler (Except AuthError User)) (given : Credentials)
    (flight : Flight) :
    (s.receive flight).2.run (given.proceed (s.receive flight).1) =
      { s with
        context := ((s.context.receive flight.bearer flight.reply).2.conclude given
          (s.context.receive flight.bearer flight.reply).1).2,
        events := s.events ++ [.finished ((s.context.receive flight.bearer flight.reply).2.conclude
          given (s.context.receive flight.bearer flight.reply).1).1] } :=
  (s.receive flight).2.run_proceed given (s.receive flight).1

/-- Nothing happens while time passes without timers. -/
theorem advanceWithin_of_no_timers {s : Scheduler (Except AuthError User)} (h : s.timers = [])
    (target fuel : Nat) :
    s.advanceWithin target fuel = { s with now := max s.now target } := by
  cases fuel with
  | zero => rfl
  | succ fuel => simp [Scheduler.advanceWithin, Scheduler.nextDue?, h]

/-- A task that is alone runs on when its reply arrives. -/
theorem advanceWithin_reply {s : Scheduler (Except AuthError User)} {due order : Nat}
    {flight : Flight} {given : Credentials}
    (htimers : s.timers = [⟨due, order, .reply flight given.proceed⟩]) (fuel : Nat) :
    s.advanceWithin due (fuel + 1) =
      (((({ s with now := due, timers := [] }).receive flight).2.run
        (given.proceed ({ s with now := due, timers := [] }.receive flight).1)).beginWatches
          ).advanceWithin due fuel := by
  have hdue : s.nextDue? = some due := by simp [Scheduler.nextDue?, htimers]
  have hwake : s.wakeAt due =
      ((({ s with now := due, timers := [] }).receive flight).2.run
        (given.proceed ({ s with now := due, timers := [] }.receive flight).1)).beginWatches := by
    unfold Scheduler.wakeAt
    rw [htimers]
    simp [Scheduler.wake]
  rw [Scheduler.advanceWithin, hdue]
  dsimp only
  rw [if_pos (Nat.le_refl due), hwake]

/-- The attempt ends with one result, however long the reply takes. -/
theorem signIn_eq (c : SessionContext) (typed : Credentials) (reply : PreparedReply) :
    (c.signIn typed reply).events = [.finished (c.attempt typed reply.reply).1] ∧
      (c.signIn typed reply).context = (c.attempt typed reply.reply).2 := by
  obtain ⟨reply, delay⟩ := reply
  unfold signIn attempt Scheduler.advance
  rw [Credentials.login_eq]
  cases typed.checked with
  | error e =>
    have hdone : ((c.expecting ⟨reply, delay⟩).spawn (.done (.error e))).settle =
        { c.expecting ⟨reply, delay⟩ with events := [.finished (.error e)] } := rfl
    rw [hdone, advanceWithin_of_no_timers rfl]
    exact ⟨rfl, rfl⟩
  | ok given =>
    let request : Request :=
      { method := .post, path := Credentials.loginPath,
        body := .form [("username", given.username), ("password", given.password)] }
    let sent : Scheduler (Except AuthError User) :=
      { c.expecting ⟨reply, delay⟩ with sent := [{ request with bearer := c.client.bearer }] }
    have hsend : (c.expecting ⟨reply, delay⟩).send request =
        (⟨c.client.bearer, reply⟩, delay, sent) := rfl
    have hsettle : ((c.expecting ⟨reply, delay⟩).spawn (.send request given.proceed)).settle =
        ((c.expecting ⟨reply, delay⟩).run (.send request given.proceed)).beginWatches := rfl
    dsimp only
    rw [hsettle, Scheduler.run, hsend]
    dsimp only
    by_cases hdelay : delay = 0
    · rw [if_pos hdelay, run_receive, advanceWithin_of_no_timers rfl]
      exact ⟨rfl, rfl⟩
    · let waiting := sent.setTimer delay (.reply ⟨c.client.bearer, reply⟩ given.proceed)
      have htimers : waiting.beginWatches.timers =
          [⟨delay, 0, .reply ⟨c.client.bearer, reply⟩ given.proceed⟩] := by
        simp [waiting, sent, expecting, Scheduler.setTimer, Scheduler.beginWatches]
      rw [if_neg hdelay]
      show (waiting.beginWatches.advanceWithin delay (delay + 1)).events = _ ∧
        (waiting.beginWatches.advanceWithin delay (delay + 1)).context = _
      rw [advanceWithin_reply htimers, run_receive, advanceWithin_of_no_timers rfl]
      exact ⟨rfl, rfl⟩

/-! ## What an attempt comes to -/

/-- A token is granted by an answer of success that holds one. -/
theorem granted_eq_ok {reply : Reply} {token : Token}
    (h : Credentials.granted (Client.outcome reply) = .ok token) :
    ∃ answer grant, reply = .ok answer ∧ answer.isSuccess = true ∧
      TokenGrant.decode (answer.body.getD .null) = .ok grant ∧
      token = ⟨Text.trim grant.accessToken⟩ := by
  unfold Credentials.granted at h
  cases houtcome : Client.outcome reply with
  | error f =>
    rw [houtcome] at h
    cases h
  | ok answer =>
    obtain ⟨hreply, hsuccess⟩ := Client.outcome_eq_ok_iff.mp houtcome
    rw [houtcome] at h
    have hread : Work.readReply TokenGrant.decode (.ok answer) =
        (TokenGrant.decode (answer.body.getD .null)).mapError fun e =>
          .decode answer.status e.message := rfl
    rw [hread] at h
    cases hdecode : TokenGrant.decode (answer.body.getD .null) with
    | error e =>
      rw [hdecode] at h
      cases h
    | ok grant =>
      rw [hdecode] at h
      dsimp only [Except.mapError] at h
      cases htoken : Token.ofText? grant.accessToken with
      | none =>
        rw [htoken] at h
        cases h
      | some issued =>
        rw [htoken] at h
        cases h
        refine ⟨answer, grant, hreply, hsuccess, hdecode, ?_⟩
        unfold Token.ofText? at htoken
        dsimp only at htoken
        split at htoken
        · cases htoken
        · cases htoken
          rfl

theorem checked_eq_ok {typed given : Credentials} (h : typed.checked = .ok given) :
    given.username = Text.trim typed.username ∧ Text.trim typed.username ≠ "" ∧
      typed.password ≠ "" := by
  unfold Credentials.checked at h
  dsimp only at h
  split at h
  · cases h
  · rename_i husername
    split at h
    · cases h
    · rename_i hpassword
      cases h
      exact ⟨rfl, husername, hpassword⟩

theorem checked_of_given {typed : Credentials} (husername : Text.trim typed.username ≠ "")
    (hpassword : typed.password ≠ "") :
    typed.checked = .ok { typed with username := Text.trim typed.username } := by
  unfold Credentials.checked
  dsimp only
  rw [if_neg husername, if_neg hpassword]

theorem unchanged_self (c : SessionContext) : Unchanged c c := ⟨rfl, rfl, rfl, rfl, rfl⟩

/-- A login puts token and user everywhere. -/
theorem begun_login {c : SessionContext} (hlistening : c.listening = true)
    {typed given : Credentials} (hgiven : given.username = Text.trim typed.username)
    {reply : Reply} {token : Token}
    (hgranted : Credentials.granted (Client.outcome reply) = .ok token) :
    Begun c typed reply (c.login token given.username).1 (c.login token given.username).2 := by
  have hkeys : tokenKey ≠ userKey := by decide
  obtain ⟨answer, grant, hreply, hsuccess, hdecode, htoken⟩ := granted_eq_ok hgranted
  unfold login
  dsimp only
  rw [hgiven, SessionRun.emit_of_listening]
  · constructor
    · rfl
    · rfl
    · exact ⟨answer, grant, hreply, hsuccess, hdecode, congrArg some htoken⟩
    · rfl
    · intro hworks
      simp [SessionStore.set, hworks, Items.get?_set_of_ne hkeys, Items.get?_set_self]
    · intro hworks
      simp [SessionStore.set, hworks, Items.get?_set_self, User.ofText?_compact_encode]
    · rfl
  · exact hlistening

open SessionRun in
/-- The request of an attempt carries the token of the session. -/
theorem refuses_attempt_iff {c : SessionContext} (h : Kept c) (reply : Reply) :
    c.client.refuses c.client.bearer reply = true ↔
      c.isAuthenticated = true ∧ ∃ answer, reply = .ok answer ∧ answer.status = 401 := by
  rw [refuses_iff h.client]
  unfold isAuthenticated Client.bearer
  rw [h.client]
  constructor
  · rintro ⟨answer, token, hreply, hstatus, htoken, -⟩
    exact ⟨by rw [htoken]; rfl, answer, hreply, hstatus⟩
  · rintro ⟨hsome, answer, hreply, hstatus⟩
    obtain ⟨token, htoken⟩ := Option.isSome_iff_exists.mp hsome
    exact ⟨answer, token, hreply, hstatus, htoken, by rw [htoken]; rfl⟩

open SessionRun in
theorem honours_of_not_expels {c : SessionContext} (h : Kept c) {typed : Credentials}
    {reply : PreparedReply} (hspares : ¬ Expels c typed reply.reply) :
    Honours c typed reply := by
  obtain ⟨hevents, hcontext⟩ := c.signIn_eq typed reply
  refine ⟨_, hevents, ?_⟩
  rw [hcontext]
  unfold attempt
  cases hchecked : typed.checked with
  | error e => exact ⟨fun _ _ => c.unchanged_self, nofun⟩
  | ok given =>
    obtain ⟨hgiven, husername, hpassword⟩ := checked_eq_ok hchecked
    have hkeeps : c.client.refuses c.client.bearer reply.reply = false := by
      rw [Bool.eq_false_iff, ne_eq, refuses_attempt_iff h]
      rintro ⟨hsome, hrefused⟩
      exact hspares ⟨husername, hpassword, hsome, hrefused⟩
    have hreceive : c.receive c.client.bearer reply.reply = (Client.outcome reply.reply, c) := by
      unfold receive
      rw [hkeeps]
      rfl
    rw [hreceive]
    dsimp only
    unfold conclude
    cases hgranted : Credentials.granted (Client.outcome reply.reply) with
    | error e => exact ⟨fun _ _ => c.unchanged_self, nofun⟩
    | ok token =>
      refine ⟨nofun, fun user huser => ?_⟩
      cases huser
      exact begun_login h.listening hgiven hgranted

open SessionRun in
/-- Who is signed in is signed out, though it was another attempt that failed. -/
theorem context_of_expels {c : SessionContext} (h : Kept c) {typed : Credentials}
    {reply : PreparedReply} (hexpels : Expels c typed reply.reply) :
    (∃ e, (c.signIn typed reply).events = [.finished (.error e)]) ∧
      (c.signIn typed reply).context = c.reject := by
  obtain ⟨hevents, hcontext⟩ := c.signIn_eq typed reply
  obtain ⟨answer, hreply, hstatus⟩ := hexpels.refused
  have hrefuses : c.client.refuses c.client.bearer reply.reply = true :=
    (refuses_attempt_iff h reply.reply).mpr ⟨hexpels.authenticated, hexpels.refused⟩
  have hfails : Client.outcome reply.reply = .error (.ofAnswer answer.status answer.body) := by
    have hnot : answer.isSuccess = false := by simp [Answer.isSuccess, hstatus]
    rw [hreply]
    simp [Client.outcome, hnot]
  have hattempt : c.attempt typed reply.reply =
      (.error (Credentials.refusal (.ofAnswer answer.status answer.body)), c.reject) := by
    unfold attempt receive
    rw [checked_of_given hexpels.username hexpels.password]
    dsimp only
    rw [hrefuses, hfails]
    rfl
  rw [hevents, hcontext, hattempt]
  exact ⟨⟨_, rfl⟩, rfl⟩

open SessionRun in
theorem not_honours_of_expels {c : SessionContext} (h : Kept c) {typed : Credentials}
    {reply : PreparedReply} (hexpels : Expels c typed reply.reply) : ¬ Honours c typed reply := by
  rintro ⟨result, hevents, hfailure, -⟩
  obtain ⟨⟨e, herror⟩, hcontext⟩ := context_of_expels h hexpels
  rw [herror] at hevents
  cases hevents
  -- the token that was there is gone
  have hsame := (hfailure e rfl).token
  have hauthenticated := hexpels.authenticated
  rw [hcontext, (reject_spec h).1] at hsame
  unfold isAuthenticated at hauthenticated
  rw [← hsame] at hauthenticated
  cases hauthenticated

open SessionRun in
/-- Whatever the store held at first, and whatever happened to sessions and requests since:
    an attempt to sign in honours the session if and only if it does not expel the user.
    That is, if it fails then session, client, store and events are as they were, and if not
    then all of them have the user and the token that was received; except where somebody is
    signed in, name and password are given, and the reply says 401. -/
theorem honours_iff_not_expels (store : SessionStore) (inputs : List SessionInput)
    (typed : Credentials) (reply : PreparedReply) :
    let c := (({ context := .restore store .endSession } : SessionRun).after inputs).context
    Honours c typed reply ↔ ¬ Expels c typed reply.reply := by
  intro c
  have hkept : Kept c := kept_after (kept_restore store) inputs
  constructor
  · intro hhonours hexpels
    exact not_honours_of_expels hkept hexpels hhonours
  · exact honours_of_not_expels hkept

open SessionRun in
/-- Not every attempt honours the session: here a wrong password for one user signs another
    one out. -/
theorem not_honours_wrongPassword :
    let store : SessionStore :=
      { items := [("token", "T1"), ("user", "\x7b\"username\":\"ada\"\x7d")] }
    let reply : PreparedReply :=
      { reply := .ok ⟨401, some (.ofMembers [("detail", .text "Wrong password")])⟩ }
    ¬ Honours (.restore store .endSession) { username := "bob", password := "wrong" } reply := by
  intro store reply
  have hexpels : Expels (.restore store .endSession) { username := "bob", password := "wrong" }
      reply.reply :=
    ⟨by decide, by decide, by decide, _, rfl, rfl⟩
  exact not_honours_of_expels (kept_restore store) hexpels

end SessionContext

end CatalogDesk
