import CatalogDesk.Proofs.Json.Texts
import CatalogDesk.Proofs.Session.Items
import CatalogDesk.Proofs.Session.Rejection
import CatalogDesk.Proofs.Text.Blank

/-! # Restored sessions

    A session is kept in its store as two texts: the token as it is, and the user as a data
    value.  What was written is read back, since a token that was accepted once is accepted
    again (`Token.ofText?_value`) and a user's name may be any text (`User.ofText?_compact_encode`).
    A store may also hold texts that are of no use, or only one of the two; nobody mends
    them before the first login or logout, so they are found again as they were.

    Main result: `restored_same` says that at any time the store of a session holds that
    very session. -/

namespace CatalogDesk

/-! ## What is written is read back -/

/-- A token that was issued for a text is issued for its own text. -/
theorem Token.ofText?_value {text : String} {token : Token} (h : ofText? text = some token) :
    ofText? token.value = some token := by
  unfold ofText? at h
  dsimp only at h
  split at h
  · cases h
  · rename_i husable
    cases h
    unfold ofText?
    dsimp only
    rw [Text.trim_trim, if_neg husable]

namespace User

theorem toList_compact_encode (username : String) :
    (User.encode { username }).compact.toList =
      '\x7b' :: Json.Layout.members {} [("username", username)] := by
  simp [User.encode, Json.ofMembers, Json.Members.insert, Json.compact, Json.compactMembers,
    Json.Layout.members, Json.Layout.member]

theorem take_username (f : UserFields) (username : String) (cs : List Char) :
    f.take "username" ((Json.quote username).toList ++ cs) =
      (if f.username.isSome then none else some { f with username := some username }).map
        (·, cs) := by
  unfold UserFields.take
  rw [if_pos rfl, Json.readQuoted_quote]
  split <;> rfl

/-- A user that is stored after a login is found again, whatever the name is. -/
theorem ofText?_compact_encode (username : String) :
    ofText? (User.encode { username }).compact = some { username } := by
  have hblank : Json.Layout.Blank {} := ⟨nofun, nofun, nofun⟩
  have htake : ∀ f : UserFields, ∀ m ∈ [("username", username)], ∀ cs,
      f.take m.1 ((Json.quote m.2).toList ++ cs) =
        (if f.username.isSome then none else some { f with username := some m.2 }).map
          (·, cs) := by
    intro f m hmem cs
    cases List.mem_singleton.mp hmem
    exact take_username f username cs
  obtain ⟨cs, hfirst⟩ := Json.Layout.skipSpace_members hblank ("username", username) []
  have hread := Json.readFields_members hblank ("username", username) [] htake {}
    (Json.Layout.length_le_members {} [("username", username)])
  unfold ofText?
  rw [toList_compact_encode, Json.skipSpace_cons rfl]
  unfold readObject
  simp only [hfirst, hread]
  rfl

end User

namespace SessionRun

open SessionContext

/-! ## The store of a session -/

/-- The store works, and the session is what it says. -/
structure Stored (c : SessionContext) : Prop where
  reads : c.store.failsToGet = false
  writes : c.store.failsToSet = false
  removes : c.store.failsToRemove = false
  token : (c.store.get? tokenKey).bind Token.ofText? = c.token
  user : (c.store.get? userKey).bind User.ofText? = c.user

theorem stored_restore (items : Items) (policy : RejectionPolicy) :
    Stored (.restore { items } policy) :=
  ⟨rfl, rfl, rfl, rfl, rfl⟩

theorem stored_emit {c : SessionContext} (h : Stored c) (e : SessionEvent) :
    Stored (c.emit e) := by
  unfold emit
  split
  · exact ⟨h.reads, h.writes, h.removes, h.token, h.user⟩
  · exact h

theorem stored_login {c : SessionContext} (h : Stored c) {token : Token}
    (issued : ∃ text, Token.ofText? text = some token) (username : String) :
    Stored (c.login token username).2 := by
  obtain ⟨text, htext⟩ := issued
  have hkeys : tokenKey ≠ userKey := by decide
  apply stored_emit
  constructor
  · simp [SessionStore.set, h.reads, h.writes]
  · simp [SessionStore.set, h.writes]
  · simp [SessionStore.set, h.writes, h.removes]
  · simp [SessionStore.set, SessionStore.get?, h.reads, h.writes, Items.get?_set_of_ne hkeys,
      Items.get?_set_self, Token.ofText?_value htext]
  · simp [SessionStore.set, SessionStore.get?, h.reads, h.writes, Items.get?_set_self,
      User.ofText?_compact_encode]

/-- To end no session leaves in the store what is of no use, and to end one removes all. -/
theorem stored_logout {c : SessionContext} (h : Stored c) : Stored c.logout := by
  have hkeys : tokenKey ≠ userKey := by decide
  unfold logout
  split
  · exact h
  · apply stored_emit
    constructor
    · simp [SessionStore.remove, h.reads, h.removes]
    · simp [SessionStore.remove, h.writes, h.removes]
    · simp [SessionStore.remove, h.removes]
    · simp [SessionStore.remove, SessionStore.get?, h.reads, h.removes,
        Items.get?_remove_of_ne hkeys, Items.get?_remove_self]
    · simp [SessionStore.remove, SessionStore.get?, h.reads, h.removes, Items.get?_remove_self]

theorem stored_receive {c : SessionContext} (h : Stored c) (bearer : Option String)
    (reply : Reply) : Stored (c.receive bearer reply).2 := by
  unfold receive
  dsimp only
  split
  · unfold reject
    dsimp only
    split
    · exact ⟨h.reads, h.writes, h.removes, h.token, h.user⟩
    · exact ⟨h.reads, h.writes, h.removes, h.token, h.user⟩
    · exact stored_logout ⟨h.reads, h.writes, h.removes, h.token, h.user⟩
  · exact h

/-! ## Runs -/

/-- Every token with which a session begins was issued for some text. -/
def Issued (inputs : List SessionInput) : Prop :=
  ∀ token username, .login token username ∈ inputs → ∃ text, Token.ofText? text = some token

/-- **Step lemma.** -/
theorem stored_step {r : SessionRun} (h : Stored r.context) {input : SessionInput}
    (issued : Issued [input]) : Stored (r.step input).context := by
  cases input with
  | login token username =>
    exact stored_login h (issued token username List.mem_cons_self) username
  | logout => exact stored_logout h
  | send => exact h
  | reply place reply =>
    show Stored (r.reply place reply).context
    cases hflight : r.flights[place]? with
    | none =>
      unfold SessionRun.reply
      rwa [hflight]
    | some bearer =>
      rw [context_reply hflight]
      exact stored_receive h bearer reply

/-- **Run lemma.** -/
theorem stored_after {r : SessionRun} (h : Stored r.context) {inputs : List SessionInput}
    (issued : Issued inputs) : Stored (r.after inputs).context := by
  induction inputs generalizing r with
  | nil => exact h
  | cons input inputs ih =>
    have hfirst : Issued [input] := fun token username hmem =>
      issued token username (List.mem_cons.mpr (.inl (List.mem_singleton.mp hmem)))
    have hrest : Issued inputs := fun token username hmem =>
      issued token username (List.mem_cons_of_mem input hmem)
    exact ih (stored_step h hfirst) hrest

/-- The second session is the first one once more. -/
structure SameSession (live restored : SessionContext) : Prop where
  token : restored.token = live.token
  user : restored.user = live.user
  client : restored.client.token = live.client.token

/-- Whatever a working store holds at first, and in whatever order users sign in and out,
    requests are sent and replies arrive, which may end a session: a session that is
    restored from the store afterwards has the token and the user of the live one, and its
    client has the token of the live one's client. -/
theorem restored_same (items : Items) (inputs : List SessionInput) (issued : Issued inputs)
    (policy : RejectionPolicy) :
    let live := (({ context := .restore { items } .endSession } : SessionRun).after inputs).context
    SameSession live (.restore live.store policy) := by
  have hstored := stored_after (r := { context := .restore { items } .endSession })
    (stored_restore items .endSession) issued
  have hkept := kept_after (r := { context := .restore { items } .endSession })
    (kept_restore { items }) inputs
  exact ⟨hstored.token, hstored.user, hstored.token.trans hkept.client.symm⟩

/-- The store holds a token of no use; then a session ends by a refusal, and another begins. -/
theorem restored_same_signedInAgain :
    let items : Items := [("token", "a b"), ("user", "\x7b\"username\":\"ops\"\x7d")]
    let inputs : List SessionInput :=
      [.login ⟨"T1"⟩ "ada", .send, .reply 0 (.ok ⟨401, none⟩), .login ⟨"T2"⟩ "b\"ob"]
    let live := (({ context := .restore { items } .endSession } : SessionRun).after inputs).context
    Issued inputs ∧ SameSession live (.restore live.store .endSession) := by
  intro items inputs
  have issued : Issued inputs := by
    intro token username hmem
    simp only [inputs, List.mem_cons, SessionInput.login.injEq, reduceCtorEq, false_or,
      List.not_mem_nil, or_false] at hmem
    rcases hmem with ⟨rfl, -⟩ | ⟨rfl, -⟩
    · exact ⟨"T1", by decide⟩
    · exact ⟨"T2", by decide⟩
  exact ⟨issued, restored_same items inputs issued .endSession⟩

end SessionRun

end CatalogDesk
