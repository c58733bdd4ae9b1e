import CatalogDesk.Proofs.Publish.TwoWays
import CatalogDesk.Proofs.Text.Blank

/-! # Actions on rows

    A row of a table is deleted, and an offering retired or published.  Each of these actions is
    written on its own, with its own conditions, path and messages, but all go the same way
    (`work_eq`): one that is refused sends nothing, and any other sends one request.

    Main result: `row_action_concludes` says for every record, and whatever the gateway answers,
    what an action sends and shows and whether it has an offering watched. -/

namespace CatalogDesk

/-- An action on a row of a table. -/
inductive RowAction
  | delete (r : CatalogRecord)
  | retire (o : Offering)
  | publish (o : Offering)

namespace RowAction

/-! ## What an action is to do -/

/-- What the action does.  Only a publication comes to a watch. -/
def work : RowAction → Work (Except ActionError (Option Nat))
  | .delete r => r.delete.bind fun result => .done (result.map fun _ => none)
  | .retire o => o.retire.bind fun result => .done (result.map fun _ => none)
  | .publish o => o.publish

/-- The rules of the catalog forbid the action. -/
def Forbidden : RowAction → Prop
  | .delete (.price p) => p.locked = true
  | .delete (.offering o) => o.status = .publishing ∨ o.status = .published
  | .delete _ => False
  | .retire o => o.status ≠ .published
  | .publish o => o.status ≠ .draft ∨ o.specificationIds = [] ∨ o.priceIds = [] ∨ o.channels = []

/-- The request of the action. -/
def request : RowAction → Request
  | .delete r => { method := .delete, path := r.collection.path ++ "/" ++ r.id }
  | .retire o => { method := .post, path := "/offerings/" ++ o.id ++ "/retire" }
  | .publish o => { method := .post, path := "/offerings/" ++ o.id ++ "/publish" }

/-- The offering that is watched after the action. -/
def publishes? : RowAction → Option RecordId
  | .publish o => some o.id
  | _ => none

variable (a : RowAction) (c : Circumstances)

/-- The request is sent, and its answer has a status of success. -/
def Accepted : Prop :=
  ¬ a.Forbidden ∧ ∃ answer, c.reply 0 = .ok answer ∧ 200 ≤ answer.status ∧ answer.status ≤ 299

def deeds : List Deed :=
  (a.work.course c.vetted 0).1

/-- The action comes to its end as it should. -/
structure Concludes : Prop where
  /-- Nothing is sent for an action that is forbidden, and else just its own request. -/
  refused : a.Forbidden → (a.deeds c).flatMap Deed.requests = []
  asked : ¬ a.Forbidden → (a.deeds c).flatMap Deed.requests = [a.request]
  answered : ¬ a.Forbidden → (a.deeds c).head? = some (.send a.request (c.vetted.reply 0))
  /-- There is one notice, with something to read in it. -/
  shown : ∃ level message, (a.deeds c).filterMap Deed.toast? = [⟨level, message⟩] ∧
    Text.isBlankText message = false ∧ (level = .success ↔ a.Accepted c)
  /-- Only an offering whose publication was accepted is watched. -/
  watched : a.Accepted c → (a.deeds c).filterMap Deed.watched? = a.publishes?.toList
  unwatched : ¬ a.Accepted c → (a.deeds c).filterMap Deed.watched? = []
  result : (∃ watch, (a.work.course c.vetted 0).2 = .ok watch) ↔ a.Accepted c

/-! ## The one way of all actions -/

def refusal? : RowAction → Option Refusal
  | .delete r => r.deleteRefusal?
  | .retire o => if o.canRetire then none else some (.notRetirable o.status)
  | .publish o => o.publishRefusal?

/-- What is shown for a failure without a message of its own. -/
def fallback : RowAction → String
  | .delete r => "Failed to delete " ++ Text.toLower r.collection.singular
  | .retire _ => "Failed to retire offering"
  | .publish _ => "Failed to initiate publication"

/-- What is shown after an answer of success. -/
def praise : RowAction → String
  | .delete r => r.collection.singular ++ " deleted successfully!"
  | .retire o => "\"" ++ o.name ++ "\" retired"
  | .publish _ => publishStartedMessage

/-- What is done after an answer of success has been shown. -/
def follow : RowAction → Work (Except ActionError (Option Nat))
  | .publish o => .watch o.id fun handle => .done (.ok handle.toOption)
  | _ => .done (.ok none)

/-- What is done with the reply to the request. -/
def conclude : Reply → Work (Except ActionError (Option Nat))
  | .error failure => CatalogRecord.fail failure a.fallback
  | .ok _ => .toast ⟨.success, a.praise⟩ a.follow

variable {a}

/-! ### What is checked first -/

/-- Just what the rules forbid is refused. -/
theorem refusal?_eq_none_iff : a.refusal? = none ↔ ¬ a.Forbidden := by
  cases a with
  | delete r =>
    cases r with
    | characteristic x => simp [refusal?, CatalogRecord.deleteRefusal?, Forbidden]
    | specification s => simp [refusal?, CatalogRecord.deleteRefusal?, Forbidden]
    | price p => simp [refusal?, CatalogRecord.deleteRefusal?, Forbidden, Price.isEditable]
    | offering o =>
      cases hstatus : o.status <;>
        simp [refusal?, CatalogRecord.deleteRefusal?, Forbidden, Offering.canDelete, hstatus]
  | retire o => simp [refusal?, Forbidden, Offering.canRetire]
  | publish o =>
    simp only [refusal?, Forbidden, publishRefusal?_eq_none_iff, canPublish_iff_complete, not_or,
      ne_eq, not_not]

/-! ### What follows -/

theorem work_of_refused {why : Refusal} (h : a.refusal? = some why) :
    a.work = CatalogRecord.refuse why := by
  cases a with
  | delete r =>
    simp only [refusal?] at h
    simp only [work, CatalogRecord.delete, h]
    rfl
  | retire o =>
    simp only [refusal?, Option.ite_none_left_eq_some, Bool.not_eq_true, Option.some.injEq] at h
    simp only [work, Offering.retire, h.1, ← h.2]
    rfl
  | publish o =>
    simp only [refusal?] at h
    simp only [work, Offering.publish, h]

theorem work_of_allowed (h : a.refusal? = none) : a.work = .send a.request a.conclude := by
  have hsend {r : Request} {k k' : Reply → Work (Except ActionError (Option Nat))}
      (hnext : ∀ reply, k reply = k' reply) : Work.send r k = Work.send r k' :=
    congrArg (Work.send r) (funext hnext)
  cases a with
  | delete r =>
    simp only [refusal?] at h
    simp only [work, CatalogRecord.delete, h]
    exact hsend fun reply => by cases reply <;> rfl
  | retire o =>
    simp only [refusal?, ite_eq_left_iff, reduceCtorEq, imp_false, not_not] at h
    simp only [work, Offering.retire, h, Offering.actionRequest_eq]
    exact hsend fun reply => by cases reply <;> rfl
  | publish o =>
    simp only [refusal?] at h
    simp only [work, Offering.publish, h, Offering.actionRequest_eq]
    exact hsend fun reply => by cases reply <;> rfl

/-! ## The course of an action -/

theorem course_of_refused {why : Refusal} (h : a.refusal? = some why) (n : Nat) :
    a.work.course c n = ([.toast ⟨.error, why.message⟩], .error (.refused why)) := by
  rw [work_of_refused h]
  rfl

theorem course_of_failure (h : a.refusal? = none) {n : Nat} {failure : Failure}
    (hreply : c.reply n = .error failure) :
    a.work.course c n =
      ([.send a.request (.error failure), .toast ⟨.error, failure.messageOr a.fallback⟩],
        .error (.request failure)) := by
  rw [work_of_allowed h, Work.course, hreply]
  rfl

/-- After an answer of success nothing but the watch is left to do. -/
theorem course_of_success (h : a.refusal? = none) {n : Nat} {answer : Answer}
    (hreply : c.reply n = .ok answer) :
    ∃ watch, a.work.course c n =
      (.send a.request (.ok answer) :: .toast ⟨.success, a.praise⟩ ::
        (a.publishes?.map fun id => .watch id (c.watch (n + 2))).toList, .ok watch) := by
  rw [work_of_allowed h, Work.course, hreply]
  cases a with
  | delete r => exact ⟨_, rfl⟩
  | retire o => exact ⟨_, rfl⟩
  | publish o => exact ⟨_, rfl⟩

/-! ### Messages -/

theorem visible_refusal (why : Refusal) : Text.isBlankText why.message = false := by
  cases why with
  | priceLocked =>
    have hlocked : Text.isBlankText "Pricing plan is locked by a published offering" = false := by
      decide
    exact hlocked
  | _ => exact Text.isBlankText_append_of_left (Text.isBlankText_append_of_left (by decide) _) _

theorem visible_fallback (a : RowAction) : Text.isBlankText a.fallback = false := by
  have hfailed (rest : String) : Text.isBlankText ("Failed to " ++ rest) = false :=
    Text.isBlankText_append_of_left (by decide) rest
  cases a with
  | delete r => exact Text.isBlankText_append_of_left (by decide) _
  | retire o => exact hfailed "retire offering"
  | publish o => exact hfailed "initiate publication"

theorem visible_singular (col : Collection) : Text.isBlankText col.singular = false := by
  cases col <;> decide

theorem visible_praise (a : RowAction) : Text.isBlankText a.praise = false := by
  cases a with
  | delete r => exact Text.isBlankText_append_of_left (visible_singular r.collection) _
  | retire o =>
    have hquote : Text.isBlankText "\"" = false := by decide
    exact Text.isBlankText_append_of_left (Text.isBlankText_append_of_left hquote _) _
  | publish o =>
    have hstarted : Text.isBlankText publishStartedMessage = false := by decide
    exact hstarted

theorem visible_messageOr (failure : Failure) {fallback : String}
    (h : Text.isBlankText fallback = false) :
    Text.isBlankText (failure.messageOr fallback) = false := by
  unfold Failure.messageOr
  split
  · exact h
  · rename_i hmessage
    rw [Text.trim_eq_empty_iff, Bool.not_eq_true] at hmessage
    exact hmessage

/-! ### The end of an action -/

/-- What a request that was sent has to be answered with. -/
theorem accepted_iff_of_allowed (h : a.refusal? = none) :
    a.Accepted c ↔ ∃ answer, c.vetted.reply 0 = .ok answer := by
  have hallowed : ¬ a.Forbidden := refusal?_eq_none_iff.mp h
  show (¬ a.Forbidden ∧ _) ↔ ∃ answer, Client.outcome (c.reply 0) = .ok answer
  simp only [Client.outcome_eq_ok_iff, Answer.isSuccess_iff]
  exact and_iff_right hallowed

variable {c}

theorem concludes_of_refused {why : Refusal} (h : a.refusal? = some why) : a.Concludes c := by
  have hforbidden : a.Forbidden := by
    by_contra hallowed
    rw [refusal?_eq_none_iff.mpr hallowed] at h
    cases h
  have hnot : ¬ a.Accepted c := fun haccepted => haccepted.1 hforbidden
  have hcourse := course_of_refused c.vetted h 0
  have hdeeds : a.deeds c = [.toast ⟨.error, why.message⟩] := congrArg Prod.fst hcourse
  exact {
    refused := fun _ => by rw [hdeeds]; rfl
    asked := fun hallowed => absurd hforbidden hallowed
    answered := fun hallowed => absurd hforbidden hallowed
    shown := ⟨.error, why.message, by rw [hdeeds]; rfl, visible_refusal why,
      iff_of_false nofun hnot⟩
    watched := fun haccepted => absurd haccepted hnot
    unwatched := fun _ => by rw [hdeeds]; rfl
    result := by rw [hcourse]; exact iff_of_false nofun hnot }

theorem concludes_of_failure (h : a.refusal? = none) {failure : Failure}
    (hreply : c.vetted.reply 0 = .error failure) : a.Concludes c := by
  have hallowed : ¬ a.Forbidden := refusal?_eq_none_iff.mp h
  have hnot : ¬ a.Accepted c := by
    rw [accepted_iff_of_allowed c h, hreply]
    exact nofun
  have hcourse := course_of_failure c.vetted h hreply
  have hdeeds : a.deeds c = [.send a.request (.error failure),
      .toast ⟨.error, failure.messageOr a.fallback⟩] := congrArg Prod.fst hcourse
  exact {
    refused := fun hforbidden => absurd hforbidden hallowed
    asked := fun _ => by rw [hdeeds]; rfl
    answered := fun _ => by rw [hdeeds, hreply]; rfl
    shown := ⟨.error, failure.messageOr a.fallback, by rw [hdeeds]; rfl,
      visible_messageOr failure a.visible_fallback, iff_of_false nofun hnot⟩
    watched := fun haccepted => absurd haccepted hnot
    unwatched := fun _ => by rw [hdeeds]; rfl
    result := by rw [hcourse]; exact iff_of_false nofun hnot }

theorem concludes_of_success (h : a.refusal? = none) {answer : Answer}
    (hreply : c.vetted.reply 0 = .ok answer) : a.Concludes c := by
  have hallowed : ¬ a.Forbidden := refusal?_eq_none_iff.mp h
  have haccepted : a.Accepted c := (accepted_iff_of_allowed c h).mpr ⟨answer, hreply⟩
  obtain ⟨watch, hcourse⟩ := course_of_success c.vetted h hreply
  have hdeeds : a.deeds c = .send a.request (.ok answer) :: .toast ⟨.success, a.praise⟩ ::
      (a.publishes?.map fun id => .watch id (c.watch 2)).toList := congrArg Prod.fst hcourse
  exact {
    refused := fun hforbidden => absurd hforbidden hallowed
    asked := fun _ => by rw [hdeeds]; cases a.publishes? <;> rfl
    answered := fun _ => by rw [hdeeds, hreply]; rfl
    shown := ⟨.success, a.praise, by rw [hdeeds]; cases a.publishes? <;> rfl, a.visible_praise,
      iff_of_true rfl haccepted⟩
    watched := fun _ => by rw [hdeeds]; cases a.publishes? <;> rfl
    unwatched := fun hnot => absurd haccepted hnot
    result := by rw [hcourse]; exact iff_of_true ⟨watch, rfl⟩ haccepted }

end RowAction

/-- **Every action on a row comes to its end as it should**, for every record and whatever the
    gateway answers. -/
theorem row_action_concludes (a : RowAction) (c : Circumstances) : a.Concludes c := by
  cases hrefusal : a.refusal? with
  | some why => exact RowAction.concludes_of_refused hrefusal
  | none =>
    cases hreply : c.vetted.reply 0 with
    | error failure => exact RowAction.concludes_of_failure hrefusal hreply
    | ok answer => exact RowAction.concludes_of_success hrefusal hreply

end CatalogDesk
