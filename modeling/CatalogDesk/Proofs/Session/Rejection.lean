import CatalogDesk.Proofs.Lists
import CatalogDesk.Session.Context

/-! # What ends a session

    The token stands in the session and in the client, and every request in flight
    carries the one with which it was sent.  Replies arrive in any order, also after the
    session of their request has been left and another one begun.

    Main result: `session_sound` says that `Sound` holds after every run that starts from
    what a store holds: client and session have the same token, a reply ends the session
    if and only if it refuses the token of that very session, and the screens are never
    told twice in a row that the session has ended. -/

namespace CatalogDesk

/-! ## Runs -/

/-- What can happen to a session and its requests.  A reply is told by the place of its
    request among those in flight. -/
inductive SessionInput
  | login (token : Token) (username : String)
  | logout
  | send
  | reply (place : Nat) (reply : Reply)

/-- A session, and the bearers of the requests in flight. -/
structure SessionRun where
  context : SessionContext
  flights : List (Option String) := []

namespace SessionRun

/-- A request that is not in flight gets no reply. -/
def reply (r : SessionRun) (place : Nat) (reply : Reply) : SessionRun :=
  match r.flights[place]? with
  | none => r
  | some bearer =>
    { context := (r.context.receive bearer reply).2, flights := r.flights.eraseIdx place }

def step (r : SessionRun) : SessionInput → SessionRun
  | .login token username => { r with context := (r.context.login token username).2 }
  | .logout => { r with context := r.context.logout }
  | .send => { r with flights := r.flights ++ [r.context.client.bearer] }
  | .reply place reply => r.reply place reply

def after (r : SessionRun) (inputs : List SessionInput) : SessionRun :=
  inputs.foldl step r

/-! ## What holds after a run -/

/-- The reply is a refusal of the token of this session: its status is 401, and its
    request carried that token. -/
def Refused (c : SessionContext) (bearer : Option String) (reply : Reply) : Prop :=
  ∃ answer token, reply = .ok answer ∧ answer.status = 401 ∧
    c.token = some token ∧ bearer = some token.value

/-- Between any two ends of a session there is a beginning. -/
def Alternates (events : List SessionEvent) : Prop :=
  ∀ before between rest, events = before ++ .loggedOut :: between ++ .loggedOut :: rest →
    ∃ user, .loggedIn user ∈ between

/-- What holds of the session, whatever happened before and whichever reply comes next. -/
structure Sound (r : SessionRun) : Prop where
  client : r.context.client.token = r.context.token
  /-- A reply ends the session if and only if it refuses its token. -/
  ends : ∀ place bearer reply, r.flights[place]? = some bearer →
    ((r.context.isAuthenticated = true ∧
        (r.step (.reply place reply)).context.isAuthenticated = false) ↔
      Refused r.context bearer reply)
  /-- Any other reply leaves the session as it is. -/
  keeps : ∀ place bearer reply, r.flights[place]? = some bearer →
    ¬ Refused r.context bearer reply → (r.step (.reply place reply)).context = r.context
  /-- So does a refusal that comes too late, for the token of another session, and one of
      a request without a token. -/
  late : ∀ place bearer reply, r.flights[place]? = some bearer →
    (∀ token, r.context.token = some token → bearer ≠ some token.value) →
    (r.step (.reply place reply)).context = r.context
  alternates : Alternates r.context.events

/-- The last that the screens heard is that the session has ended. -/
def Rests (events : List SessionEvent) : Prop :=
  ∃ before rest, events = before ++ .loggedOut :: rest ∧ ∀ user, .loggedIn user ∉ rest

/-- The invariant that every input preserves.  `rests` is what keeps a session from
    ending twice. -/
structure Kept (c : SessionContext) : Prop where
  client : c.client.token = c.token
  policy : c.client.policy = .endSession
  listening : c.listening = true
  rests : Rests c.events → c.token = none ∧ c.user = none
  alternates : Alternates c.events

/-! ## Events -/

theorem alternates_concat {events : List SessionEvent} {e : SessionEvent}
    (h : Alternates events) (hrests : e = .loggedOut → ¬ Rests events) :
    Alternates (events ++ [e]) := by
  intro before between rest hsplit
  rcases (concat_eq_append_cons_iff _ _ _ _ _).mp hsplit with
    ⟨-, hevents, hend⟩ | ⟨rest', -, hevents⟩
  · -- The new event is the second end, so a beginning stands behind the first one.
    by_cases hsome : ∃ user, SessionEvent.loggedIn user ∈ between
    · exact hsome
    · have hrest : Rests events :=
        ⟨before, between, hevents, fun user hmem => hsome ⟨user, hmem⟩⟩
      exact absurd hrest (hrests hend)
  · exact h before between rest' hevents

theorem not_rests_loggedIn (events : List SessionEvent) (user : User) :
    ¬ Rests (events ++ [.loggedIn user]) := by
  rintro ⟨before, rest, hsplit, hnone⟩
  rcases (concat_eq_append_cons_iff _ _ _ _ _).mp hsplit with
    ⟨-, -, hend⟩ | ⟨rest', hrest, -⟩
  · cases hend
  · refine hnone user ?_
    rw [hrest]
    exact List.mem_append_right _ (List.mem_singleton.mpr rfl)

/-! ## The operations of a session -/

theorem isUnauthorized_ofAnswer (answer : Answer) :
    (Failure.ofAnswer answer.status answer.body).isUnauthorized = true ↔ answer.status = 401 := by
  simp [Failure.ofAnswer, Failure.withStatus, Failure.isUnauthorized]

theorem isCurrent_iff (c : Client) (bearer : Option String) :
    c.isCurrent bearer = true ↔ ∃ token, c.token = some token ∧ bearer = some token.value := by
  unfold Client.isCurrent Client.bearer
  cases c.token with
  | none => cases bearer <;> simp
  | some token => cases bearer <;> simp

theorem refuses_iff {c : SessionContext} (h : c.client.token = c.token)
    (bearer : Option String) (reply : Reply) :
    c.client.refuses bearer reply = true ↔ Refused c bearer reply := by
  cases reply with
  | error f => exact ⟨nofun, fun ⟨_, _, hreply, _⟩ => nomatch hreply⟩
  | ok answer =>
    unfold Client.refuses
    rw [Bool.and_eq_true, Bool.and_eq_true, isUnauthorized_ofAnswer, isCurrent_iff, h]
    constructor
    · rintro ⟨⟨-, hstatus⟩, token, htoken, hbearer⟩
      exact ⟨answer, token, rfl, hstatus, htoken, hbearer⟩
    · rintro ⟨_, token, hreply, hstatus, htoken, hbearer⟩
      cases hreply
      have hfails : answer.isSuccess = false := by simp [Answer.isSuccess, hstatus]
      exact ⟨⟨by rw [hfails]; rfl, hstatus⟩, token, htoken, hbearer⟩

theorem emit_of_listening (c : SessionContext) (e : SessionEvent) (h : c.listening = true) :
    c.emit e = { c with events := c.events ++ [e] } := by
  unfold SessionContext.emit
  rw [if_pos h]

theorem kept_login {c : SessionContext} (h : Kept c) (token : Token) (username : String) :
    Kept (c.login token username).2 := by
  unfold SessionContext.login
  dsimp only
  rw [emit_of_listening]
  · constructor
    · rfl
    · exact h.policy
    · exact h.listening
    · intro hrests
      exact absurd hrests (not_rests_loggedIn _ _)
    · exact alternates_concat h.alternates nofun
  · exact h.listening

/-- To end a session means to end all of it, and to end none means nothing. -/
theorem logout_spec {c : SessionContext} (h : Kept c) :
    c.logout.token = none ∧ c.logout.user = none ∧ Kept c.logout := by
  unfold SessionContext.logout
  split
  · rename_i hnone
    rw [Bool.and_eq_true, Option.isNone_iff_eq_none, Option.isNone_iff_eq_none] at hnone
    exact ⟨hnone.1, hnone.2, h⟩
  · rename_i hsome
    dsimp only
    rw [emit_of_listening]
    · refine ⟨rfl, rfl, rfl, h.policy, h.listening, fun _ => ⟨rfl, rfl⟩, ?_⟩
      -- Somebody is signed in, so the screens heard of it after the last end.
      apply alternates_concat h.alternates
      intro _ hrests
      obtain ⟨htoken, huser⟩ := h.rests hrests
      simp [htoken, huser] at hsome
    · exact h.listening

/-- A refused token ends the session. -/
theorem reject_spec {c : SessionContext} (h : Kept c) :
    c.reject.token = none ∧ Kept c.reject := by
  have hcounted : Kept { c with
      client := { c.client with rejections := c.client.rejections + 1 } } :=
    ⟨h.client, h.policy, h.listening, h.rests, h.alternates⟩
  have hreject : c.reject = SessionContext.logout { c with
      client := { c.client with rejections := c.client.rejections + 1 } } := by
    unfold SessionContext.reject
    dsimp only
    rw [h.policy]
  obtain ⟨htoken, -, hkept⟩ := logout_spec hcounted
  rw [hreject]
  exact ⟨htoken, hkept⟩

theorem kept_receive {c : SessionContext} (h : Kept c) (bearer : Option String)
    (reply : Reply) : Kept (c.receive bearer reply).2 := by
  unfold SessionContext.receive
  dsimp only
  split
  · exact (reject_spec h).2
  · exact h

/-! ## Runs of a session -/

theorem context_reply {r : SessionRun} {place : Nat} {bearer : Option String}
    (hflight : r.flights[place]? = some bearer) (reply : Reply) :
    (r.reply place reply).context = (r.context.receive bearer reply).2 := by
  unfold SessionRun.reply
  rw [hflight]

/-- **Step lemma.** -/
theorem kept_step {r : SessionRun} (h : Kept r.context) (input : SessionInput) :
    Kept (r.step input).context := by
  cases input with
  | login token username => exact kept_login h token username
  | logout => exact (logout_spec h).2.2
  | send => exact h
  | reply place reply =>
    show Kept (r.reply place reply).context
    cases hflight : r.flights[place]? with
    | none =>
      unfold SessionRun.reply
      rwa [hflight]
    | some bearer =>
      rw [context_reply hflight]
      exact kept_receive h bearer reply

theorem kept_restore (store : SessionStore) :
    Kept (SessionContext.restore store .endSession) := by
  constructor
  · rfl
  · rfl
  · rfl
  · rintro ⟨before, rest, hsplit, -⟩
    exact absurd hsplit (by simp [SessionContext.restore])
  · intro before between rest hsplit
    exact absurd hsplit (by simp [SessionContext.restore])

/-- **Run lemma.** -/
theorem kept_after {r : SessionRun} (h : Kept r.context) (inputs : List SessionInput) :
    Kept (r.after inputs).context := by
  induction inputs generalizing r with
  | nil => exact h
  | cons input inputs ih => exact ih (kept_step h input)

theorem ends_iff {r : SessionRun} (h : Kept r.context) {place : Nat} {bearer : Option String}
    (hflight : r.flights[place]? = some bearer) (reply : Reply) :
    (r.context.isAuthenticated = true ∧
        (r.step (.reply place reply)).context.isAuthenticated = false) ↔
      Refused r.context bearer reply := by
  have hstep : (r.step (.reply place reply)).context =
      if r.context.client.refuses bearer reply then r.context.reject else r.context :=
    context_reply hflight reply
  rw [hstep, ← refuses_iff h.client]
  constructor
  · rintro ⟨hbefore, hafter⟩
    by_cases hrefuses : r.context.client.refuses bearer reply = true
    · exact hrefuses
    · rw [if_neg hrefuses, hbefore] at hafter
      cases hafter
  · intro hrefuses
    obtain ⟨_, token, -, -, htoken, -⟩ := (refuses_iff h.client bearer reply).mp hrefuses
    rw [if_pos hrefuses]
    unfold SessionContext.isAuthenticated
    rw [htoken, (reject_spec h).1]
    exact ⟨rfl, rfl⟩

theorem context_of_not_refused {r : SessionRun} (h : Kept r.context) {place : Nat}
    {bearer : Option String} (hflight : r.flights[place]? = some bearer) {reply : Reply}
    (hother : ¬ Refused r.context bearer reply) :
    (r.step (.reply place reply)).context = r.context := by
  have hstep : (r.step (.reply place reply)).context =
      if r.context.client.refuses bearer reply then r.context.reject else r.context :=
    context_reply hflight reply
  rw [hstep, if_neg]
  rwa [refuses_iff h.client]

theorem Kept.sound {r : SessionRun} (h : Kept r.context) : r.Sound where
  client := h.client
  ends _ _ reply hflight := ends_iff h hflight reply
  keeps _ _ _ hflight hother := context_of_not_refused h hflight hother
  late place bearer reply hflight hlate := by
    apply context_of_not_refused h hflight
    rintro ⟨_, token, -, -, htoken, hbearer⟩
    exact hlate token htoken hbearer
  alternates := h.alternates

/-- Whatever a store holds, and in whatever order users sign in and out, requests are
    sent and replies arrive: the client has the token of the session; a reply ends the
    session if and only if it refuses the session's own token, and else leaves it as it
    is; and between any two ends of a session there is a beginning. -/
theorem session_sound (store : SessionStore) (inputs : List SessionInput) :
    (({ context := .restore store .endSession } : SessionRun).after inputs).Sound :=
  (kept_after (kept_restore store) inputs).sound

/-- A refusal for the first session finds the second one, and leaves it alone. -/
example :
    (({ context := .restore {} .endSession } : SessionRun).after
      [.login ⟨"first"⟩ "ada", .send, .logout, .login ⟨"second"⟩ "ada",
        .reply 0 (.ok ⟨401, none⟩)]).context.token = some ⟨"second"⟩ := by
  decide

end SessionRun

end CatalogDesk
