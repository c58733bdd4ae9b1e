import CatalogDesk.Form.OfferingForm
import CatalogDesk.Proofs.Builder.Content
import CatalogDesk.Proofs.Task.Course

/-! # Attempts to save and to publish an offering

    An attempt checks the form, saves it, publishes what was saved if that is wanted, and
    changes the form according to what the backend has answered.

    The deeds of an attempt are classified here: which of its requests save the offering, and
    with which offering a save was answered.  Main result: `passes_course` says that every
    attempt, under all circumstances, is one of six kinds, which say what was sent and how
    the form is left. -/

namespace CatalogDesk

/-! ## Requests that save an offering -/

namespace Request

/-- The request to publish the offering with that id. -/
def publishing (id : RecordId) : Request where
  method := .post
  path := "/offerings/" ++ id ++ "/publish"

/-- Does the request create an offering? -/
def creates (r : Request) : Bool :=
  r.method == .post && r.path == "/offerings"

/-- The request changes the offering with that id. -/
def Updates (r : Request) (id : RecordId) : Prop :=
  r.method = .put ∧ r.path = "/offerings/" ++ id

/-- Does the request save an offering, a new one or one that exists? -/
def saves (r : Request) : Bool :=
  r.creates || r.method == .put

/-- The request saves as a form in that mode does. -/
def SavesIn (r : Request) : FormMode → Prop
  | .create => r.creates = true
  | .edit id => r.Updates id

variable {r : Request}

theorem SavesIn.saves {mode : FormMode} (h : r.SavesIn mode) : r.saves = true := by
  cases mode with
  | create => exact Bool.or_eq_true_iff.mpr (.inl h)
  | edit id => exact Bool.or_eq_true_iff.mpr (.inr (beq_iff_eq.mpr h.1))

/-- To publish an offering is not to save it. -/
theorem not_saves_publishing (id : RecordId) : (publishing id).saves = false := by
  have hpath : "/offerings/" ++ id ++ "/publish" ≠ "/offerings" := by
    intro h
    have hlength := congrArg String.length h
    simp only [String.length_append] at hlength
    have hprefix : ("/offerings/" : String).length = 11 := rfl
    have hwhole : ("/offerings" : String).length = 10 := rfl
    omega
  have hcreates : (publishing id).creates = false := beq_false_of_ne hpath
  unfold saves
  rw [hcreates]
  rfl

end Request

namespace Deed

/-- Does the deed save an offering? -/
def saves : Deed → Bool
  | .send r _ => r.saves
  | _ => false

/-- Does the deed create an offering? -/
def creates : Deed → Bool
  | .send r _ => r.creates
  | _ => false

/-- If the deed saves an offering, it changes the one with that id. -/
def UpdatesOnly (d : Deed) (id : RecordId) : Prop :=
  match d with
  | .send r _ => r.saves = true → r.Updates id
  | _ => True

/-- The offering with which a save was answered. -/
def saved? : Deed → Option Offering
  | .send r reply => if r.saves then (Work.readReply Offering.decode reply).toOption else none
  | _ => none

/-- Whoever changes an offering is answered with that offering, if with any. -/
def isFaithful : Deed → Bool
  | .send r reply =>
    match Work.readReply Offering.decode reply with
    | .ok o => r.method != .put || r.path == "/offerings/" ++ o.id
    | .error _ => true
  | _ => true

end Deed

/-! ## The kinds of attempts -/

/-- What is attempted. -/
inductive AttemptKind
  | saveDraft
  | publish
  deriving DecidableEq

/-- What an attempt does, how it leaves the form, and whether it has emptied it: a draft that
    created a record does, and a publication that has begun. -/
def AttemptKind.course (kind : AttemptKind) (f : OfferingForm) (c : Circumstances) :
    List Deed × OfferingForm × Bool :=
  match kind with
  | .saveDraft =>
    let (deeds, outcome, g) := f.saveDraft.course c 0
    (deeds, g, match outcome with
      | .saved _ => !f.mode.isEdit
      | _ => false)
  | .publish =>
    let (deeds, outcome, g) := f.publish.course c 0
    (deeds, g, match outcome with
      | .started _ _ => true
      | _ => false)

/-- The form is not right for what is attempted. -/
def AttemptKind.isRefused (kind : AttemptKind) (f : OfferingForm) : Bool :=
  match f.validate with
  | .error _ => true
  | .ok draft => kind == .publish &&
      PublishRequirement.missing draft.specificationIds draft.priceIds draft.channels != []

/-- What an attempt does, how it leaves the form, and whether the form was emptied. -/
inductive Passes (f : OfferingForm) : List Deed → OfferingForm → Bool → Prop
  /-- Nothing is sent. -/
  | refused (toasts : List Toast) (errors : FieldErrors) :
      Passes f (toasts.map .toast) { f with errors } false
  /-- The offering is not saved. -/
  | unsaved (toasts : List Toast) {r reply t} (saves : r.SavesIn f.mode)
      (answer : (Work.readReply Offering.decode reply).toOption = none) :
      Passes f (toasts.map .toast ++ [.send r reply, .toast t]) { f with errors := .empty } false
  /-- A draft that exists is saved. -/
  | updated {r reply o t} (saves : r.SavesIn f.mode)
      (answer : Work.readReply Offering.decode reply = .ok o) (edits : f.mode.isEdit = true) :
      Passes f [.send r reply, .toast t] { f with errors := .empty } false
  /-- A new draft is saved. -/
  | created {r reply o t} (saves : r.SavesIn f.mode)
      (answer : Work.readReply Offering.decode reply = .ok o) (creates : f.mode = .create) :
      Passes f [.send r reply, .toast t] f.reset true
  /-- The offering is saved, but not published. -/
  | unpublished (toasts : List Toast) {r reply o failure t} (saves : r.SavesIn f.mode)
      (answer : Work.readReply Offering.decode reply = .ok o) :
      Passes f
        (toasts.map .toast ++ [.send r reply, .send (.publishing o.id) (.error failure), .toast t])
        { f with errors := .empty, mode := .edit o.id } false
  /-- The offering is saved, and its publication has begun. -/
  | published (toasts : List Toast) {r reply o answer t watch} (saves : r.SavesIn f.mode)
      (saved : Work.readReply Offering.decode reply = .ok o) :
      Passes f (toasts.map .toast ++ [.send r reply, .send (.publishing o.id) (.ok answer),
        .toast t, .watch o.id watch]) f.reset true

/-! ## Every attempt is of these kinds -/

theorem Offering.actionRequest_eq (id : RecordId) (action : String) :
    Offering.actionRequest id action =
      { method := .post, path := "/offerings/" ++ id ++ ("/" ++ action) } := by
  have hpath : Offering.actionPath id action = "/offerings/" ++ id ++ ("/" ++ action) :=
    String.append_assoc
  rw [Offering.actionRequest, hpath]

theorem Offering.actionRequest_publish (id : RecordId) :
    Offering.actionRequest id "publish" = .publishing id :=
  Offering.actionRequest_eq id "publish"

namespace OfferingForm

/-- An emptied form has no messages. -/
theorem reset_errors (f : OfferingForm) (errors : FieldErrors) :
    { f with errors }.reset = f.reset :=
  rfl

/-- The request of a checked form. -/
def requestOf (r : SaveRequest OfferingDraft) : Request where
  method := if r.mode.isEdit then .put else .post
  path := r.path
  body := .json (OfferingDraft.encode r.payload)

theorem send_eq (r : SaveRequest OfferingDraft) :
    send r = .send (requestOf r) fun reply => .done (Work.readReply Offering.decode reply) := by
  obtain ⟨mode, collection, payload⟩ := r
  cases mode <;> rfl

theorem savesIn_requestOf (mode : FormMode) (draft : OfferingDraft) :
    (requestOf ⟨mode, .offerings, draft⟩).SavesIn mode := by
  cases mode with
  | create => rfl
  | edit id => exact ⟨rfl, rfl⟩

theorem prepareDraft_of_ok {f : OfferingForm} {draft : OfferingDraft} (h : f.validate = .ok draft) :
    f.prepareDraft = (some ⟨f.mode, .offerings, draft⟩, { f with errors := .empty }) := by
  unfold prepareDraft
  rw [h]

theorem prepareDraft_of_error {f : OfferingForm} {errors : FieldErrors}
    (h : f.validate = .error errors) : f.prepareDraft = (none, { f with errors }) := by
  unfold prepareDraft
  rw [h]

/-- A form that is not right for publishing gives no request. -/
theorem preparePublish_of_isRefused {f : OfferingForm}
    (h : AttemptKind.publish.isRefused f = true) :
    ∃ check toasts errors, f.preparePublish = (check, toasts, { f with errors }) ∧
      ∀ r, check ≠ .ready r := by
  unfold AttemptKind.isRefused at h
  unfold preparePublish
  cases hvalid : f.validate with
  | error errors =>
    rw [prepareDraft_of_error hvalid]
    exact ⟨_, _, errors, rfl, nofun⟩
  | ok draft =>
    rw [hvalid] at h
    rw [prepareDraft_of_ok hvalid]
    dsimp only
    rw [if_neg (bne_iff_ne.mp (Bool.and_eq_true_iff.mp h).2)]
    exact ⟨_, _, .empty, rfl, nofun⟩

theorem preparePublish_of_not_isRefused {f : OfferingForm}
    (h : ¬ AttemptKind.publish.isRefused f = true) :
    ∃ draft toasts, f.preparePublish =
      (.ready ⟨f.mode, .offerings, draft⟩, toasts, { f with errors := .empty }) := by
  unfold AttemptKind.isRefused at h
  unfold preparePublish
  cases hvalid : f.validate with
  | error errors =>
    rw [hvalid] at h
    exact absurd rfl h
  | ok draft =>
    rw [hvalid] at h
    rw [prepareDraft_of_ok hvalid]
    have hnone :
        PublishRequirement.missing draft.specificationIds draft.priceIds draft.channels = [] := by
      simpa using h
    dsimp only
    rw [if_pos hnone]
    exact ⟨draft, _, rfl⟩

theorem saveDraft_of_ok {f : OfferingForm} {draft : OfferingDraft} (h : f.validate = .ok draft) :
    f.saveDraft = .send (requestOf ⟨f.mode, .offerings, draft⟩) fun reply =>
      let p := { f with errors := .empty }.completeDraft (Work.readReply Offering.decode reply)
      .toast p.2.1 (.done (p.1, p.2.2)) := by
  unfold saveDraft
  rw [prepareDraft_of_ok h]
  dsimp only
  rw [send_eq]
  rfl

/-- What is left to do when it is known what the backend has made of an attempt. -/
def concluded (p : PublishOutcome × Toast × OfferingForm) : Work (PublishAttempt × OfferingForm) :=
  .toast p.2.1 <|
    match p.1 with
    | .accepted o => .watch o.id fun watch => .done (.started o watch.toOption, p.2.2)
    | .failed message => .done (.failed message, p.2.2)

theorem publish_of_ready {f g : OfferingForm} {r : SaveRequest OfferingDraft} {toasts : List Toast}
    (h : f.preparePublish = (.ready r, toasts, g)) :
    f.publish = Work.showAll toasts
      ((sendPublish r).bind fun result => concluded (g.completePublish result)) := by
  unfold publish
  rw [h]
  rfl

theorem publish_of_refused {f g : OfferingForm} {check : PublishCheck} {toasts : List Toast}
    (h : f.preparePublish = (check, toasts, g)) (hcheck : ∀ r, check ≠ .ready r) :
    ∃ outcome, f.publish = Work.showAll toasts (.done (outcome, g)) ∧
      ∀ o watch, outcome ≠ .started o watch := by
  unfold publish
  rw [h]
  cases check with
  | ready r => exact absurd rfl (hcheck r)
  | invalid => exact ⟨.invalid, rfl, fun _ _ heq => by cases heq⟩
  | refused why => exact ⟨.refused why, rfl, fun _ _ heq => by cases heq⟩

theorem sendPublish_eq (r : SaveRequest OfferingDraft) :
    sendPublish r = .send (requestOf r) fun reply =>
      match Work.readReply Offering.decode reply with
      | .error failure => .done (.error ⟨none, failure⟩)
      | .ok o => .send (.publishing o.id) fun
        | .ok _ => .done (.ok o)
        | .error failure => .done (.error ⟨some o, failure⟩) := by
  simp only [← Offering.actionRequest_publish]
  unfold sendPublish
  rw [send_eq]
  rfl

/-- The offering is not saved; or it is saved, and its publication asked for. -/
theorem course_sendPublish (r : SaveRequest OfferingDraft) (c : Circumstances) (n : Nat) :
    (∃ failure, Work.readReply Offering.decode (c.reply n) = .error failure ∧
      (sendPublish r).course c n =
        ([.send (requestOf r) (c.reply n)], .error ⟨none, failure⟩)) ∨
    ∃ o, Work.readReply Offering.decode (c.reply n) = .ok o ∧
      ((∃ failure, (sendPublish r).course c n =
          ([.send (requestOf r) (c.reply n), .send (.publishing o.id) (.error failure)],
            .error ⟨some o, failure⟩)) ∨
        ∃ answer, (sendPublish r).course c n =
          ([.send (requestOf r) (c.reply n), .send (.publishing o.id) (.ok answer)], .ok o)) := by
  rw [sendPublish_eq]
  simp only [Work.course]
  cases Work.readReply Offering.decode (c.reply n) with
  | error failure => exact .inl ⟨failure, rfl, rfl⟩
  | ok o =>
    refine .inr ⟨o, rfl, ?_⟩
    simp only [Work.course]
    cases c.reply (n + 1) with
    | error failure => exact .inl ⟨failure, rfl⟩
    | ok answer => exact .inr ⟨answer, rfl⟩

end OfferingForm

open OfferingForm

theorem passes_saveDraft (f : OfferingForm) (c : Circumstances) :
    Passes f (AttemptKind.saveDraft.course f c).1 (AttemptKind.saveDraft.course f c).2.1
      (AttemptKind.saveDraft.course f c).2.2 := by
  unfold AttemptKind.course
  dsimp only
  cases hvalid : f.validate with
  | error errors =>
    unfold saveDraft
    rw [prepareDraft_of_error hvalid]
    exact .refused [] errors
  | ok draft =>
    have hsaves := savesIn_requestOf f.mode draft
    rw [saveDraft_of_ok hvalid]
    simp only [Work.course]
    cases hanswer : Work.readReply Offering.decode (c.reply 0) with
    | error failure => exact .unsaved [] hsaves (congrArg Except.toOption hanswer)
    | ok o =>
      simp only [completeDraft, reset_errors]
      cases hedit : f.mode.isEdit with
      | true => exact .updated hsaves hanswer hedit
      | false => exact .created hsaves hanswer (FormMode.eq_create (Bool.eq_false_iff.mp hedit))

/-- What the outcome leaves to do is to tell of it, and to watch what was accepted. -/
theorem course_concluded (c : Circumstances) (n : Nat)
    (p : PublishOutcome × Toast × OfferingForm) :
    (concluded p).course c n = match p.1 with
      | .accepted o => ([.toast p.2.1, .watch o.id (c.watch (n + 1))],
          .started o (c.watch (n + 1)).toOption, p.2.2)
      | .failed message => ([.toast p.2.1], .failed message, p.2.2) := by
  obtain ⟨outcome, toast, g⟩ := p
  cases outcome <;> rfl

theorem passes_publish (f : OfferingForm) (c : Circumstances) :
    Passes f (AttemptKind.publish.course f c).1 (AttemptKind.publish.course f c).2.1
      (AttemptKind.publish.course f c).2.2 := by
  unfold AttemptKind.course
  dsimp only
  by_cases hrefused : AttemptKind.publish.isRefused f = true
  · obtain ⟨check, toasts, errors, h, hcheck⟩ := preparePublish_of_isRefused hrefused
    obtain ⟨outcome, hpublish, hstarted⟩ := publish_of_refused h hcheck
    rw [hpublish, Work.course_showAll]
    simp only [Work.course, List.append_nil]
    cases outcome with
    | started o watch => exact absurd rfl (hstarted o watch)
    | _ => exact .refused toasts errors
  · obtain ⟨draft, toasts, h⟩ := preparePublish_of_not_isRefused hrefused
    have hsaves := savesIn_requestOf f.mode draft
    rw [publish_of_ready h, Work.course_showAll, Work.course_bind, course_concluded]
    obtain ⟨failure, hanswer, hsend⟩ | ⟨o, hanswer, ⟨failure, hsend⟩ | ⟨answer, hsend⟩⟩ :=
      course_sendPublish ⟨f.mode, .offerings, draft⟩ c (0 + toasts.length)
    · rw [hsend]
      exact .unsaved toasts hsaves (congrArg Except.toOption hanswer)
    · rw [hsend]
      exact .unpublished toasts hsaves hanswer
    · rw [hsend]
      simp only [completePublish, reset_errors]
      exact .published toasts hsaves hanswer

/-- **Every attempt** is of one of the kinds, under all circumstances. -/
theorem passes_course (kind : AttemptKind) (f : OfferingForm) (c : Circumstances) :
    Passes f (kind.course f c).1 (kind.course f c).2.1 (kind.course f c).2.2 := by
  cases kind with
  | saveDraft => exact passes_saveDraft f c
  | publish => exact passes_publish f c

/-- An attempt with a form that is not right for it only tells so. -/
theorem toasts_of_isRefused {kind : AttemptKind} {f : OfferingForm}
    (h : kind.isRefused f = true) (c : Circumstances) :
    ∃ toasts : List Toast, (kind.course f c).1 = toasts.map .toast := by
  cases kind with
  | saveDraft =>
    unfold AttemptKind.isRefused at h
    cases hvalid : f.validate with
    | error errors =>
      refine ⟨[], ?_⟩
      unfold AttemptKind.course saveDraft
      rw [prepareDraft_of_error hvalid]
      rfl
    | ok draft =>
      rw [hvalid] at h
      cases h
  | publish =>
    obtain ⟨check, toasts, errors, hcheck, hready⟩ := preparePublish_of_isRefused h
    obtain ⟨outcome, hpublish, -⟩ := publish_of_refused hcheck hready
    refine ⟨toasts, ?_⟩
    unfold AttemptKind.course
    dsimp only
    rw [hpublish, Work.course_showAll]
    exact List.append_nil _

end CatalogDesk
