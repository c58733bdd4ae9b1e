import CatalogDesk.Proofs.Form.Attempts

/-! # Two ways to publish

    An offering is published from its form, which saves it first, or from the table, as it
    is.  The two are written on their own, and both check what publishing asks for before
    they send anything.

    Main result: `publishes_alike` says that they agree for every offering with a name.  The
    form that is opened with the offering has a request ready just if the offering may be
    published, and just then the table sends one; a draft that lacks something is refused by
    both with the same list and nothing but one notice.  From the request to publish on both
    do the same (`Publishes`): the form for the offering that the save was answered with, the
    table for its own. -/

namespace CatalogDesk

/-! ## From the request on -/

/-- What is done from the request to publish an offering on.  It is watched only after an
    answer with a status of success. -/
inductive Publishes (id : RecordId) : List Deed → Prop
  | declined (failure : Failure) :
      Publishes id [.send (.publishing id) (.error failure),
        .toast ⟨.error, failure.messageOr "Failed to initiate publication"⟩]
  | accepted (watch : Except WatchError Nat) {answer : Answer}
      (success : 200 ≤ answer.status ∧ answer.status ≤ 299) :
      Publishes id [.send (.publishing id) (.ok answer),
        .toast ⟨.success, publishStartedMessage⟩, .watch id watch]

/-- What a form does with the offering of which it was opened: it saves that one, and
    publishes the one of the answer. -/
inductive SavesAndPublishes (id : RecordId) : List Deed → Prop
  | unsaved {r : Request} {reply : Reply} {failure : Failure} (saves : r.Updates id)
      (answer : Work.readReply Offering.decode reply = .error failure) :
      SavesAndPublishes id [.toast ⟨.info, "Initiating publication saga..."⟩, .send r reply,
        .toast ⟨.error, failure.messageOr "Failed to initiate publication"⟩]
  | saved {r : Request} {reply : Reply} {o : Offering} {rest : List Deed} (saves : r.Updates id)
      (answer : Work.readReply Offering.decode reply = .ok o) (publishes : Publishes o.id rest) :
      SavesAndPublishes id
        (.toast ⟨.info, "Initiating publication saga..."⟩ :: .send r reply :: rest)

/-- The form that is opened with the offering, and left as it is, and the table publish
    alike. -/
structure PublishesAlike (o : Offering) : Prop where
  ready : (∃ f r, OfferingForm.edit o = .ok f ∧ f.preparePublish.1 = .ready r) ↔
    o.canPublish = true
  asks : ∀ c : Circumstances,
    (∃ reply, .send (.publishing o.id) reply ∈ (o.publish.course c 0).1) ↔ o.canPublish = true
  /-- A draft may be published that has a specification, a price and a channel. -/
  allowed : o.canPublish = true ↔
    o.status = .draft ∧ o.specificationIds ≠ [] ∧ o.priceIds ≠ [] ∧ o.channels ≠ []
  /-- A draft that lacks something is refused with one notice, and nothing is sent. -/
  refused : o.status = .draft → o.canPublish = false →
    let why := Refusal.publishRequirements o.missingRequirements
    ∃ f, OfferingForm.edit o = .ok f ∧ f.preparePublish.1 = .refused why ∧
      ∀ c : Circumstances,
        f.publish.course c 0 = ([.toast ⟨.error, why.message⟩], .refused why, f) ∧
          o.publish.course c 0 = ([.toast ⟨.error, why.message⟩], .error (.refused why))
  form : o.canPublish = true → ∀ f, OfferingForm.edit o = .ok f → ∀ c : Circumstances,
    SavesAndPublishes o.id (f.publish.course c.vetted 0).1
  table : o.canPublish = true → ∀ c : Circumstances,
    Publishes o.id (o.publish.course c.vetted 0).1
  /-- Where the requests of the form are sent in the background, and their outcome applied to
      what the form is by then, an offering is accepted, which is to be watched, only after
      it was saved and an answer of success. -/
  background : ∀ f r, OfferingForm.edit o = .ok f → f.preparePublish.1 = .ready r →
    ∀ (c : Circumstances) (g : OfferingForm) (accepted : Offering),
      (g.completePublish ((OfferingForm.sendPublish r).course c.vetted 0).2).1 =
          .accepted accepted →
        ∃ save reply answer, save.Updates o.id ∧
          Work.readReply Offering.decode reply = .ok accepted ∧
          (200 ≤ answer.status ∧ answer.status ≤ 299) ∧
          ((OfferingForm.sendPublish r).course c.vetted 0).1 = [.send save reply,
            .send (.publishing accepted.id) (.ok answer)]

variable {o : Offering}

/-! ## What is checked -/

theorem canPublish_iff : o.canPublish = true ↔ o.status = .draft ∧ o.missingRequirements = [] := by
  rw [Offering.canPublish, Bool.and_eq_true, decide_eq_true_eq, List.isEmpty_iff]

/-- A draft may be published that has all that is asked for. -/
theorem canPublish_iff_complete : o.canPublish = true ↔
    o.status = .draft ∧ o.specificationIds ≠ [] ∧ o.priceIds ≠ [] ∧ o.channels ≠ [] := by
  rw [canPublish_iff]
  simp [Offering.missingRequirements, PublishRequirement.missing]

/-- The table refuses just what may not be published. -/
theorem publishRefusal?_eq_none_iff : o.publishRefusal? = none ↔ o.canPublish = true := by
  rw [canPublish_iff, Offering.publishRefusal?]
  by_cases hstatus : o.status = .draft
  · by_cases hmissing : o.missingRequirements = []
    · simp [hstatus, hmissing]
    · simp [hstatus, hmissing]
  · simp [hstatus]

namespace OfferingForm

/-- The form as it is opened with an offering. -/
def opened (o : Offering) : OfferingForm where
  name := o.name
  description := o.description.getD ""
  specificationIds := o.specificationIds
  priceIds := o.priceIds
  channels := o.channels
  mode := .edit o.id

/-- Only drafts are opened. -/
theorem edit_eq_ok_iff {f : OfferingForm} : edit o = .ok f ↔ o.status = .draft ∧ f = opened o := by
  unfold edit Offering.isEditable
  by_cases hstatus : o.status = .draft
  · rw [if_pos (decide_eq_true hstatus)]
    constructor
    · intro h
      cases h
      exact ⟨hstatus, rfl⟩
    · rintro ⟨-, rfl⟩
      rfl
  · rw [if_neg (by simpa using hstatus)]
    exact ⟨nofun, fun h => absurd h.1 hstatus⟩

/-- What the form checks is what the offering has. -/
theorem validate_opened (hname : Text.trim o.name ≠ "") :
    ∃ draft, (opened o).validate = .ok draft ∧
      PublishRequirement.missing draft.specificationIds draft.priceIds draft.channels =
        o.missingRequirements := by
  have hfilled : Text.trim (opened o).name ≠ "" := hname
  unfold validate FieldErrors.requireText FieldErrors.require
  rw [if_pos (decide_eq_true hfilled)]
  exact ⟨_, rfl, rfl⟩

/-- The form has a request ready just if nothing is missing, and it stays as it was opened. -/
theorem preparePublish_opened (hname : Text.trim o.name ≠ "") :
    ∃ draft, (opened o).preparePublish =
      if o.missingRequirements = [] then
        (.ready ⟨.edit o.id, .offerings, draft⟩, [⟨.info, "Initiating publication saga..."⟩],
          opened o)
      else
        (.refused (.publishRequirements o.missingRequirements),
          [⟨.error, (Refusal.publishRequirements o.missingRequirements).message⟩], opened o) := by
  obtain ⟨draft, hvalid, hmissing⟩ := validate_opened hname
  refine ⟨draft, ?_⟩
  unfold preparePublish
  rw [prepareDraft_of_ok hvalid]
  dsimp only
  rw [hmissing]
  rfl

/-- What is answered when an offering is saved and published, as the client vets it. -/
theorem course_sendPublish_vetted (r : SaveRequest OfferingDraft) (c : Circumstances) (n : Nat) :
    (∃ reply failure, Work.readReply Offering.decode reply = .error failure ∧
      (sendPublish r).course c.vetted n =
        ([.send (requestOf r) reply], .error ⟨none, failure⟩)) ∨
    ∃ reply saved, Work.readReply Offering.decode reply = .ok saved ∧
      ((∃ failure, (sendPublish r).course c.vetted n =
          ([.send (requestOf r) reply, .send (.publishing saved.id) (.error failure)],
            .error ⟨some saved, failure⟩)) ∨
        ∃ answer, (200 ≤ answer.status ∧ answer.status ≤ 299) ∧ (sendPublish r).course c.vetted n =
          ([.send (requestOf r) reply, .send (.publishing saved.id) (.ok answer)],
            .ok saved)) := by
  obtain ⟨failure, hanswer, hsend⟩ | ⟨saved, hanswer, ⟨failure, hsend⟩ | ⟨answer, hsend⟩⟩ :=
    course_sendPublish r c.vetted n
  · exact .inl ⟨_, failure, hanswer, hsend⟩
  · exact .inr ⟨_, saved, hanswer, .inl ⟨failure, hsend⟩⟩
  · have hmem : .send (.publishing saved.id) (.ok answer) ∈
        ((sendPublish r).course c.vetted n).1 := by
      rw [hsend]
      exact List.mem_cons_of_mem _ List.mem_cons_self
    exact .inr ⟨_, saved, hanswer, .inr ⟨answer, Work.status_of_mem_course hmem, hsend⟩⟩

end OfferingForm

open OfferingForm

/-! ## From the form -/

/-- The form has a request ready just if the offering may be published. -/
theorem ready_iff (hname : Text.trim o.name ≠ "") :
    (∃ f r, edit o = .ok f ∧ f.preparePublish.1 = .ready r) ↔ o.canPublish = true := by
  obtain ⟨draft, hprepare⟩ := preparePublish_opened hname
  rw [canPublish_iff]
  constructor
  · rintro ⟨f, r, hedit, hready⟩
    obtain ⟨hstatus, rfl⟩ := edit_eq_ok_iff.mp hedit
    by_cases hmissing : o.missingRequirements = []
    · exact ⟨hstatus, hmissing⟩
    · rw [hprepare, if_neg hmissing] at hready
      cases hready
  · rintro ⟨hstatus, hmissing⟩
    rw [if_pos hmissing] at hprepare
    exact ⟨opened o, _, edit_eq_ok_iff.mpr ⟨hstatus, rfl⟩, by rw [hprepare]⟩

/-- A draft that lacks something is refused. -/
theorem course_publish_of_missing (hname : Text.trim o.name ≠ "")
    (hmissing : o.missingRequirements ≠ []) :
    let why := Refusal.publishRequirements o.missingRequirements
    (opened o).preparePublish.1 = .refused why ∧ ∀ c : Circumstances,
      (opened o).publish.course c 0 =
        ([.toast ⟨.error, why.message⟩], .refused why, opened o) := by
  obtain ⟨draft, hprepare⟩ := preparePublish_opened hname
  rw [if_neg hmissing] at hprepare
  unfold OfferingForm.publish
  rw [hprepare]
  exact ⟨rfl, fun c => rfl⟩

/-- A draft that lacks nothing is saved, and published as the one with which the save was
    answered. -/
theorem course_publish_of_complete (hname : Text.trim o.name ≠ "")
    (hmissing : o.missingRequirements = []) (c : Circumstances) :
    SavesAndPublishes o.id ((opened o).publish.course c.vetted 0).1 := by
  obtain ⟨draft, hprepare⟩ := preparePublish_opened hname
  rw [if_pos hmissing] at hprepare
  have hsaves : (requestOf ⟨.edit o.id, .offerings, draft⟩).Updates o.id := ⟨rfl, rfl⟩
  -- a notice goes first, so the save is the step with number one
  rw [publish_of_ready hprepare, Work.course_showAll, Work.course_bind, course_concluded]
  obtain ⟨reply, failure, hanswer, hsend⟩ |
      ⟨reply, saved, hanswer, ⟨failure, hsend⟩ | ⟨answer, hsuccess, hsend⟩⟩ :=
    course_sendPublish_vetted ⟨.edit o.id, .offerings, draft⟩ c 1
  · rw [List.length_singleton, Nat.zero_add, hsend]
    exact .unsaved hsaves hanswer
  · rw [List.length_singleton, Nat.zero_add, hsend]
    exact .saved hsaves hanswer (.declined failure)
  · rw [List.length_singleton, Nat.zero_add, hsend]
    exact .saved hsaves hanswer (.accepted _ hsuccess)

/-- An offering that is accepted was saved, and its publication answered with success. -/
theorem accepted_of_ready (hname : Text.trim o.name ≠ "") {r : SaveRequest OfferingDraft}
    (hready : (opened o).preparePublish.1 = .ready r) (c : Circumstances) {g : OfferingForm}
    {accepted : Offering}
    (haccepted : (g.completePublish ((sendPublish r).course c.vetted 0).2).1 =
      .accepted accepted) :
    ∃ save reply answer, save.Updates o.id ∧
      Work.readReply Offering.decode reply = .ok accepted ∧
      (200 ≤ answer.status ∧ answer.status ≤ 299) ∧
      ((sendPublish r).course c.vetted 0).1 = [.send save reply,
        .send (.publishing accepted.id) (.ok answer)] := by
  obtain ⟨draft, hprepare⟩ := preparePublish_opened hname
  rw [hprepare] at hready
  split at hready
  · obtain rfl := PublishCheck.ready.inj hready
    obtain ⟨reply, failure, hanswer, hsend⟩ |
        ⟨reply, saved, hanswer, ⟨failure, hsend⟩ | ⟨answer, hsuccess, hsend⟩⟩ :=
      course_sendPublish_vetted ⟨.edit o.id, .offerings, draft⟩ c 0
    · rw [hsend] at haccepted
      cases haccepted
    · rw [hsend] at haccepted
      cases haccepted
    · rw [hsend] at haccepted ⊢
      cases haccepted
      exact ⟨_, reply, answer, ⟨rfl, rfl⟩, hanswer, hsuccess, rfl⟩
  · cases hready

/-! ## From the table -/

/-- What the table does with an offering that may not be published. -/
theorem course_publish_of_refused {why : Refusal} (h : o.publishRefusal? = some why)
    (c : Circumstances) (n : Nat) :
    o.publish.course c n = ([.toast ⟨.error, why.message⟩], .error (.refused why)) := by
  unfold Offering.publish
  rw [h]
  rfl

/-- What the table does with an offering that may be published. -/
theorem course_publish_of_canPublish (h : o.publishRefusal? = none) (c : Circumstances) (n : Nat) :
    (∃ failure, (o.publish.course c n).1 = [.send (.publishing o.id) (.error failure),
        .toast ⟨.error, failure.messageOr "Failed to initiate publication"⟩]) ∨
    ∃ answer watch, (o.publish.course c n).1 = [.send (.publishing o.id) (.ok answer),
        .toast ⟨.success, publishStartedMessage⟩, .watch o.id watch] := by
  unfold Offering.publish
  rw [h, Offering.actionRequest_publish]
  show (∃ failure, (Work.course c n (.send _ _)).1 = _) ∨
    ∃ answer watch, (Work.course c n (.send _ _)).1 = _
  simp only [Work.course]
  cases c.reply n with
  | error failure => exact .inl ⟨failure, rfl⟩
  | ok answer => exact .inr ⟨answer, _, rfl⟩

theorem publishes_of_canPublish (h : o.canPublish = true) (c : Circumstances) :
    Publishes o.id (o.publish.course c.vetted 0).1 := by
  obtain ⟨failure, hdeeds⟩ | ⟨answer, watch, hdeeds⟩ :=
    course_publish_of_canPublish (publishRefusal?_eq_none_iff.mpr h) c.vetted 0
  · rw [hdeeds]
    exact .declined failure
  · have hmem : .send (.publishing o.id) (.ok answer) ∈ (o.publish.course c.vetted 0).1 := by
      rw [hdeeds]
      exact List.mem_cons_self
    rw [hdeeds]
    exact .accepted watch (Work.status_of_mem_course hmem)

/-- The table sends the request just if the offering may be published. -/
theorem asks_iff (c : Circumstances) :
    (∃ reply, .send (.publishing o.id) reply ∈ (o.publish.course c 0).1) ↔ o.canPublish = true := by
  constructor
  · rintro ⟨reply, hmem⟩
    cases hwhy : o.publishRefusal? with
    | none => exact publishRefusal?_eq_none_iff.mp hwhy
    | some why =>
      rw [course_publish_of_refused hwhy] at hmem
      cases List.mem_singleton.mp hmem
  · intro h
    obtain ⟨failure, hdeeds⟩ | ⟨answer, watch, hdeeds⟩ :=
      course_publish_of_canPublish (publishRefusal?_eq_none_iff.mpr h) c 0
    · exact ⟨.error failure, hdeeds ▸ List.mem_cons_self⟩
    · exact ⟨.ok answer, hdeeds ▸ List.mem_cons_self⟩

/-! ## Both ways -/

/-- **The two ways to publish agree**, for every offering with a name and whatever the backend
    answers. -/
theorem publishes_alike (o : Offering) (hname : Text.trim o.name ≠ "") : PublishesAlike o where
  ready := ready_iff hname
  asks := asks_iff
  allowed := canPublish_iff_complete
  refused hstatus hcannot := by
    have hmissing : o.missingRequirements ≠ [] := by
      intro hnone
      rw [canPublish_iff.mpr ⟨hstatus, hnone⟩] at hcannot
      cases hcannot
    have hwhy : o.publishRefusal? = some (.publishRequirements o.missingRequirements) := by
      unfold Offering.publishRefusal?
      rw [if_neg (not_not_intro hstatus), if_pos hmissing]
    obtain ⟨hcheck, hcourse⟩ := course_publish_of_missing hname hmissing
    exact ⟨opened o, edit_eq_ok_iff.mpr ⟨hstatus, rfl⟩, hcheck,
      fun c => ⟨hcourse c, course_publish_of_refused hwhy c 0⟩⟩
  form h f hedit c := by
    obtain ⟨-, rfl⟩ := edit_eq_ok_iff.mp hedit
    exact course_publish_of_complete hname (canPublish_iff.mp h).2 c
  table h c := publishes_of_canPublish h c
  background f r hedit hready c g accepted haccepted := by
    obtain ⟨-, rfl⟩ := edit_eq_ok_iff.mp hedit
    exact accepted_of_ready hname hready c haccepted

/-- A draft without a price is refused on both ways with one notice.  With a price the form has
    a request ready, and the table has the backend publish the draft. -/
theorem publishes_alike_priced :
    let o : Offering := { (default : Offering) with
      id := "o1", name := "Fibre", specificationIds := ["s1"], channels := [.online] }
    let priced : Offering := { o with priceIds := ["p1"] }
    Text.trim o.name ≠ "" ∧ PublishesAlike o ∧ PublishesAlike priced ∧
      (∀ c : Circumstances, o.publish.course c 0 =
        ([.toast ⟨.error, "Cannot publish: Needs at least 1 price."⟩],
          .error (.refused (.publishRequirements [.price])))) ∧
      (∃ f r, OfferingForm.edit priced = .ok f ∧ f.preparePublish.1 = .ready r) ∧
      ∀ c : Circumstances, ∃ reply,
        .send { method := .post, path := "/offerings/o1/publish" } reply ∈
          (priced.publish.course c 0).1 := by
  intro o priced
  have hname : Text.trim o.name ≠ "" := by decide
  have halike := publishes_alike o hname
  have halike' := publishes_alike priced hname
  have hpublish : priced.canPublish = true := by decide
  obtain ⟨f, -, -, hboth⟩ := halike.refused rfl (by decide)
  exact ⟨hname, halike, halike', fun c => (hboth c).2, halike'.ready.mpr hpublish,
    fun c => (halike'.asks c).mpr hpublish⟩

end CatalogDesk
