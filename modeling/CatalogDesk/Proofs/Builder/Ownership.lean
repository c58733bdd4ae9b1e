import CatalogDesk.Proofs.Builder.Outcome

/-! # Whose record a form changes

    A submission leaves a panel, and when its outcome comes back the panel may show
    another form.  The panel remembers only that something is going on, so the outcome
    acts on the form that is shown, whether that form asked for it or not.

    A *ledger* follows a run of the builder and notes what the builder does not: which
    form made each submission that is in flight, and which records each form may change.
    These are the record with which the form was opened, and those that were saved at
    its own request.

    A run honours its forms if every outcome leaves the forms alone that did not ask for
    it, and every submission that changes a record changes one of its own form.  Main
    result: `honours_iff_spares` says that this is so if and only if every outcome that
    comes too late happens to show what is shown anyhow. -/

namespace CatalogDesk

/-! ## The ledger -/

/-- What can happen to the builder.  The outcome of a submission is told by the place of
    the submission among those in flight. -/
inductive BuilderEvent
  | press (k : Key)
  | showTab (tab : BuilderTab)
  | edit (r : CatalogRecord)
  | specificationOptions (result : Except Failure (List Characteristic))
  | offeringOptions (result : Except Failure OfferingOptions)
  | complete (place : Nat) (o : FormOutcome)

/-- A submission in flight, with the number of the form that made it. -/
structure Submission where
  kind : SubmissionKind
  form : Nat
  deriving DecidableEq

/-- The builder, and what there is to know of its forms. -/
structure FormLedger where
  builder : Builder := .new
  /-- The number of the form that a panel shows, among the forms of the panel. -/
  form : BuilderTab → Nat := fun _ => 0
  /-- The records that the form of a panel may change. -/
  own : BuilderTab → List RecordId := fun _ => []
  inFlight : List Submission := []

namespace FormLedger

/-- A panel shows a new form, which may change these records. -/
def openForm (l : FormLedger) (tab : BuilderTab) (ids : List RecordId) : FormLedger :=
  { l with
    form := fun t => if t = tab then l.form t + 1 else l.form t
    own := fun t => if t = tab then ids else l.own t }

/-- Notes the submission that an action makes, if it makes one. -/
def note (l : FormLedger) (a : BuilderAction) : FormLedger :=
  match a.submission? with
  | some (kind, _) => { l with inFlight := l.inFlight ++ [⟨kind, l.form kind.panel⟩] }
  | none => l

/-- The form of a panel hears of its own submission.  If the outcome empties it, a new
    form takes its place; a record that was saved is its own from now on. -/
def credit (l : FormLedger) (tab : BuilderTab) (mode : FormMode) (o : FormOutcome) :
    FormLedger :=
  if o.empties mode then l.openForm tab []
  else { l with own := fun t => if t = tab then o.saved?.toList ++ l.own t else l.own t }

/-- A key is pressed. -/
def press (l : FormLedger) (k : Key) : BuilderAction × FormLedger :=
  let (action, _, builder) := l.builder.press k
  let tab := l.builder.tab
  let next := { l with builder }
  (action, (if l.builder.opensBlank k tab then next.openForm tab [] else next).note action)

/-- A record is opened, unless it cannot be changed. -/
def edit (l : FormLedger) (r : CatalogRecord) : BuilderAction × FormLedger :=
  match l.builder.edit r with
  | .error _ => (.none, l)
  | .ok (action, builder) => (action, { l with builder }.openForm r.tab [r.id])

/-- The outcome of a submission arrives. -/
def settle (l : FormLedger) (place : Nat) (s : Submission) (o : FormOutcome) : FormLedger :=
  let tab := s.kind.panel
  let next := { l with builder := l.builder.settle o, inFlight := l.inFlight.eraseIdx place }
  if s.form = l.form tab then next.credit tab (l.builder.content tab).mode o else next

/-- An outcome for which nothing is in flight does not arrive. -/
def complete (l : FormLedger) (place : Nat) (o : FormOutcome) : FormLedger :=
  match l.inFlight[place]? with
  | none => l
  | some s => if s.kind = o.kind then l.settle place s o else l

/-- One event: the action that the builder asks for, and the ledger after it. -/
def step (l : FormLedger) : BuilderEvent → BuilderAction × FormLedger
  | .press k => l.press k
  | .showTab tab =>
    let (action, builder) := l.builder.showTab tab
    (action, { l with builder })
  | .edit r => l.edit r
  | .specificationOptions result =>
    (.none, { l with builder := (l.builder.applySpecificationOptions result).2 })
  | .offeringOptions result =>
    (.none, { l with builder := (l.builder.applyOfferingOptions result).2 })
  | .complete place o => (.none, l.complete place o)

/-- Something holds of every event of a run, at the ledger where it happens. -/
def Along (P : FormLedger → BuilderEvent → Prop) : FormLedger → List BuilderEvent → Prop
  | _, [] => True
  | l, e :: events => P l e ∧ Along P (l.step e).2 events

/-! ## Honour -/

/-- The event brings the outcome of a submission. -/
def Brings (l : FormLedger) (e : BuilderEvent) (s : Submission) (o : FormOutcome) : Prop :=
  ∃ place, e = .complete place o ∧ l.inFlight[place]? = some s ∧ s.kind = o.kind

/-- An outcome changes no form but the one that asked for it, and a submission that
    changes a record changes one of the form that makes it. -/
structure Honours (l : FormLedger) (e : BuilderEvent) : Prop where
  outcome : ∀ s o, l.Brings e s o → ∀ tab, (tab = s.kind.panel → s.form ≠ l.form tab) →
    (l.step e).2.builder.content tab = l.builder.content tab
  target : ∀ kind id, (l.step e).1.submission? = some (kind, .edit id) → id ∈ l.own kind.panel

/-- An outcome that comes too late, since its form was replaced, does no harm to the form
    that is shown. -/
def Spares (l : FormLedger) (e : BuilderEvent) : Prop :=
  ∀ s o, l.Brings e s o → s.form ≠ l.form s.kind.panel →
    o.Spares (l.builder.content s.kind.panel) (l.builder.held s.kind.panel)

/-- Every form that changes a record changes one of its own.  This is the invariant that
    carries the targets of submissions. -/
def Owned (l : FormLedger) : Prop :=
  ∀ tab id, (l.builder.content tab).mode = .edit id → id ∈ l.own tab

/-! ## One event -/

@[simp] theorem builder_settle (l : FormLedger) (place : Nat) (s : Submission)
    (o : FormOutcome) : (l.settle place s o).builder = l.builder.settle o := by
  unfold settle
  dsimp only
  split
  · unfold credit
    split <;> rfl
  · rfl

@[simp] theorem builder_note (l : FormLedger) (a : BuilderAction) :
    (l.note a).builder = l.builder := by
  unfold note
  split <;> rfl

@[simp] theorem own_note (l : FormLedger) (a : BuilderAction) : (l.note a).own = l.own := by
  unfold note
  split <;> rfl

/-- An outcome that the event brings is taken. -/
theorem step_of_brings {l : FormLedger} {e : BuilderEvent} {s : Submission} {o : FormOutcome}
    (h : l.Brings e s o) : (l.step e).2.builder = l.builder.settle o ∧ s.kind = o.kind := by
  obtain ⟨place, rfl, hs, hkind⟩ := h
  refine ⟨?_, hkind⟩
  simp only [step, complete, hs, hkind, if_true, builder_settle]

theorem edit_quiet (l : FormLedger) (r : CatalogRecord) :
    (l.edit r).1.submission? = none := by
  unfold edit
  split
  · rfl
  · rename_i h
    exact (Builder.edit_spec h).1

/-- What a submission that comes out of an event may be about. -/
theorem target_of_owned {l : FormLedger} (h : l.Owned) (e : BuilderEvent)
    (kind : SubmissionKind) (id : RecordId)
    (hsub : (l.step e).1.submission? = some (kind, .edit id)) : id ∈ l.own kind.panel := by
  cases e with
  | press k =>
    obtain ⟨htab, hmode⟩ := l.builder.press_submitsOnly k _ hsub
    rw [htab]
    exact h l.builder.tab id hmode.symm
  | showTab tab =>
    have hquiet := l.builder.showTab_quiet tab
    exact absurd (hquiet.symm.trans hsub) nofun
  | edit r => exact absurd ((l.edit_quiet r).symm.trans hsub) nofun
  | specificationOptions result => cases hsub
  | offeringOptions result => cases hsub
  | complete place o => cases hsub

/-- An event leaves the forms alone that did not ask for the outcome that it brings, if
    and only if the outcome spares the one among them that it meets. -/
theorem outcome_iff_spares (l : FormLedger) (e : BuilderEvent) :
    (∀ s o, l.Brings e s o → ∀ tab, (tab = s.kind.panel → s.form ≠ l.form tab) →
      (l.step e).2.builder.content tab = l.builder.content tab) ↔ l.Spares e := by
  constructor
  · intro h s o hb hlate
    obtain ⟨hstep, hkind⟩ := step_of_brings hb
    have hsame := h s o hb s.kind.panel (fun _ => hlate)
    rw [hstep, Builder.content_settle, hkind, if_pos rfl] at hsame
    rw [hkind]
    exact (o.shows_eq_iff (l.builder.held_mode _)).mp hsame
  · intro h s o hb tab hlate
    obtain ⟨hstep, hkind⟩ := step_of_brings hb
    rw [hstep, Builder.content_settle]
    by_cases htab : tab = s.kind.panel
    · have hspares := h s o hb (htab ▸ hlate htab)
      rw [← htab] at hspares
      rw [← hkind, if_pos htab]
      exact (o.shows_eq_iff (l.builder.held_mode _)).mpr hspares
    · rw [← hkind, if_neg htab]

/-- **Step lemma.** While every form changes its own record, an event honours the forms if
    and only if it spares them. -/
theorem honours_iff_spares_step {l : FormLedger} (h : l.Owned) (e : BuilderEvent) :
    l.Honours e ↔ l.Spares e :=
  ⟨fun hh => (l.outcome_iff_spares e).mp hh.outcome,
    fun hs => ⟨(l.outcome_iff_spares e).mpr hs, target_of_owned h e⟩⟩

theorem owned_of_content {l l' : FormLedger} (h : l.Owned) (hown : l'.own = l.own)
    (hcontent : ∀ tab, l'.builder.content tab = l.builder.content tab) : l'.Owned := by
  intro tab id hmode
  rw [hcontent] at hmode
  rw [hown]
  exact h tab id hmode

/-- A form that hears of its own submission still changes its own record. -/
theorem owned_settle_own {l : FormLedger} (h : l.Owned) (place : Nat) {s : Submission}
    {o : FormOutcome} (hkind : s.kind = o.kind) (hform : s.form = l.form s.kind.panel) :
    (l.settle place s o).Owned := by
  intro tab id hmode
  rw [builder_settle, Builder.content_settle] at hmode
  simp only [settle, hform, if_true, credit]
  by_cases htab : tab = o.kind.panel
  · rw [if_pos htab, FormOutcome.shows_mode (l.builder.held_mode _)] at hmode
    have hpanel : s.kind.panel = tab := by rw [hkind]; exact htab.symm
    rw [hpanel]
    -- A form that was emptied changes no record; else the record that was saved is
    -- noted as its own in the same step in which the form moves to it.
    by_cases hempties : o.empties (l.builder.content tab).mode = true
    · rw [if_pos hempties] at hmode
      cases hmode
    · rw [if_neg hempties] at hmode ⊢
      simp only [if_true, List.mem_append]
      cases hsaved : o.saved? with
      | none =>
        rw [hsaved] at hmode
        exact .inr (h tab id hmode)
      | some saved =>
        rw [hsaved] at hmode
        cases hmode
        exact .inl (by simp)
  · rw [if_neg htab] at hmode
    have hpanel : tab ≠ s.kind.panel := by rw [hkind]; exact htab
    have hown := h tab id hmode
    split
    · simp [openForm, hpanel, hown]
    · simp [hpanel, hown]

/-- An outcome that spares the form it meets leaves every form with its own record. -/
theorem owned_settle_late {l : FormLedger} (h : l.Owned) (place : Nat) {s : Submission}
    {o : FormOutcome} (hkind : s.kind = o.kind) (hform : s.form ≠ l.form s.kind.panel)
    (hspares : o.Spares (l.builder.content s.kind.panel) (l.builder.held s.kind.panel)) :
    (l.settle place s o).Owned := by
  apply owned_of_content h
  · simp only [settle, hform, if_false]
  · intro tab
    rw [builder_settle, Builder.content_settle]
    split
    · rename_i htab
      rw [hkind, ← htab] at hspares
      exact (o.shows_eq_iff (l.builder.held_mode tab)).mpr hspares
    · rfl

theorem owned_openForm {l : FormLedger} {tab : BuilderTab} {ids : List RecordId}
    (htab : ∀ id, (l.builder.content tab).mode = .edit id → id ∈ ids)
    (h : ∀ t id, t ≠ tab → (l.builder.content t).mode = .edit id → id ∈ l.own t) :
    (l.openForm tab ids).Owned := by
  intro t id hmode
  show id ∈ if t = tab then ids else l.own t
  split
  · rename_i ht
    rw [ht] at hmode
    exact htab id hmode
  · rename_i ht
    exact h t id ht hmode

theorem owned_note {l : FormLedger} (h : l.Owned) (a : BuilderAction) : (l.note a).Owned :=
  owned_of_content h (own_note l a) fun tab => by rw [builder_note]

theorem owned_press {l : FormLedger} (h : l.Owned) (k : Key) : (l.press k).2.Owned := by
  have hmode := l.builder.press_mode k
  unfold press
  generalize l.builder.press k = pressed at hmode ⊢
  apply owned_note
  -- A key that opens an empty form sets its mode; any other key keeps all modes.
  split
  · rename_i hopens
    apply owned_openForm
    · intro id hid
      have hcreate := (hmode l.builder.tab).symm.trans hid
      rw [if_pos hopens] at hcreate
      cases hcreate
    · intro t id ht hid
      have hkept := (hmode t).symm.trans hid
      rw [if_neg (fun hb => ht hb.2.2)] at hkept
      exact h t id hkept
  · rename_i hopens
    intro t id hid
    have hkept := (hmode t).symm.trans hid
    rw [if_neg] at hkept
    · exact h t id hkept
    · rintro ⟨htab, hn, rfl⟩
      exact hopens ⟨htab, hn, rfl⟩

theorem owned_edit {l : FormLedger} (h : l.Owned) (r : CatalogRecord) : (l.edit r).2.Owned := by
  unfold edit
  split
  · exact h
  · rename_i action builder hedit
    obtain ⟨_, hmode⟩ := Builder.edit_spec hedit
    apply owned_openForm
    · intro id hid
      rw [hmode, if_pos rfl] at hid
      cases hid
      exact List.mem_singleton.mpr rfl
    · intro t id ht hid
      rw [hmode, if_neg ht] at hid
      exact h t id hid

theorem owned_complete {l : FormLedger} (h : l.Owned) {place : Nat} {o : FormOutcome}
    (hspares : l.Spares (.complete place o)) : (l.complete place o).Owned := by
  unfold complete
  split
  · exact h
  · rename_i s hs
    split
    · rename_i hkind
      by_cases hform : s.form = l.form s.kind.panel
      · exact owned_settle_own h place hkind hform
      · have hb : l.Brings (.complete place o) s o := ⟨place, rfl, hs, hkind⟩
        exact owned_settle_late h place hkind hform (hspares s o hb hform)
    · exact h

/-- **Step lemma.** An event that spares the forms keeps every form with its own record. -/
theorem owned_step {l : FormLedger} (h : l.Owned) {e : BuilderEvent} (hs : l.Spares e) :
    (l.step e).2.Owned := by
  cases e with
  | press k => exact owned_press h k
  | showTab tab => exact owned_of_content h rfl (l.builder.content_showTab tab)
  | edit r => exact owned_edit h r
  | specificationOptions result =>
    exact owned_of_content h rfl (l.builder.content_specificationOptions result)
  | offeringOptions result =>
    exact owned_of_content h rfl (l.builder.content_offeringOptions result)
  | complete place o => exact owned_complete h hs

/-! ## Runs -/

theorem owned_start : ({} : FormLedger).Owned := by
  intro tab id hmode
  cases tab <;> cases hmode

/-- **Run lemma**, from any ledger whose forms change their own records. -/
theorem along_honours_iff {l : FormLedger} (h : l.Owned) (events : List BuilderEvent) :
    Along Honours l events ↔ Along Spares l events := by
  induction events generalizing l with
  | nil => exact Iff.rfl
  | cons e events ih =>
    -- Either way the event spares the forms, and that is what keeps them with their own
    -- records for the rest of the run.
    constructor
    · rintro ⟨he, hrest⟩
      have hs := (honours_iff_spares_step h e).mp he
      exact ⟨hs, (ih (owned_step h hs)).mp hrest⟩
    · rintro ⟨hs, hrest⟩
      exact ⟨(honours_iff_spares_step h e).mpr hs, (ih (owned_step h hs)).mpr hrest⟩

/-- A run of the builder honours its forms if and only if no outcome that comes too late
    does harm: outcomes act on the forms that asked for them, and submissions change the
    records of their own forms, as long as every outcome that finds its form replaced
    shows what the form in its place shows anyhow. -/
theorem honours_iff_spares (events : List BuilderEvent) :
    Along Honours {} events ↔ Along Spares {} events :=
  along_honours_iff owned_start events

/-! ## A late failure -/

/-- A draft that can be published. -/
def bundle (id name : String) : Offering where
  id := id
  name := name
  description := none
  specificationIds := ["s1"]
  priceIds := ["p1"]
  channels := [.online]
  status := .draft
  createdAt := none
  updatedAt := none
  publishedAt := none
  retiredAt := none

/-- While an offering is being published another one is opened; then the publication
    fails after the first one was saved, and the second one is saved as a draft. -/
def lateFailure : List BuilderEvent :=
  [.edit (.offering (bundle "o1" "Fiber 500")),
    .press { code := .char 'p', control := true },
    .edit (.offering (bundle "o2" "Cable 100")),
    .complete 0 (.publish (.error ⟨some (bundle "o1" "Fiber 500"), .withStatus 503 "Busy"⟩)),
    .press { code := .char 's', control := true }]

/-- Not every run honours its forms: here the content of one offering is written over
    another. -/
theorem not_honours_lateFailure : ¬ Along Honours {} lateFailure := by
  intro h
  have htarget : "o1" ∈ _ := h.2.2.2.2.1.target .draft "o1" rfl
  exact absurd htarget (by decide)

end FormLedger

end CatalogDesk
