import CatalogDesk.Proofs.Builder.Content

/-! # What keys, records and outcomes do to the forms

    The outcome of a submission meets the form that its panel shows when it arrives.
    `FormOutcome.shows` says what the panel shows then, and `FormOutcome.Spares` when
    that is what it showed before.

    The other lemmas are about the builder as a whole: what a key submits, which modes a
    key or an opened record sets, and that all else is left as it was. -/

namespace CatalogDesk

/-! ## Outcomes -/

/-- The outcome of a submission. -/
inductive FormOutcome
  | characteristic (result : Except Failure Characteristic)
  | specification (result : Except Failure Specification)
  | pricing (result : Except Failure Price)
  | draft (result : Except Failure Offering)
  | publish (result : Except PublishFailure Offering)

namespace FormOutcome

/-- The kind of the submission that has this outcome. -/
def kind : FormOutcome → SubmissionKind
  | characteristic _ => .characteristic
  | specification _ => .specification
  | pricing _ => .pricing
  | draft _ => .draft
  | publish _ => .publish

/-- Does the outcome leave an empty form, if it meets a form in this mode? -/
def empties (mode : FormMode) : FormOutcome → Bool
  | characteristic (.ok _) => !mode.isEdit
  | specification (.ok _) => !mode.isEdit
  | pricing (.ok _) => !mode.isEdit
  | draft (.ok _) => !mode.isEdit
  | publish (.ok _) => true
  | _ => false

/-- The record that was saved before publishing failed. -/
def saved? : FormOutcome → Option RecordId
  | publish (.error e) => e.saved.map (·.id)
  | _ => none

/-- What a panel shows after the outcome, if it showed `typed` and its form held `held`
    apart from text typed since. -/
def shows (typed held : FormContent) : FormOutcome → FormContent
  | characteristic (.ok _) => if held.mode.isEdit then held else .blank .characteristic
  | characteristic (.error _) => typed
  | specification (.ok _) => if held.mode.isEdit then held else .blank .specification
  | specification (.error _) => held
  | pricing (.ok _) => if held.mode.isEdit then held else .blank .pricing
  | pricing (.error _) => typed
  | draft (.ok _) => if held.mode.isEdit then held else .blank .offering
  | draft (.error _) => held
  | publish (.ok _) => .blank .offering
  | publish (.error e) =>
    match e.saved with
    | some o => held.withMode (.edit o.id)
    | none => held

/-- The outcome does no harm to a form that shows `typed` and holds `held`.  After a
    success the form must be empty, or change a record and have nothing typed since it
    was opened; a failure does no harm to characteristics and pricing plans, and none to
    the others as long as nothing was typed, unless it moves the form to another record. -/
def Spares (typed held : FormContent) : FormOutcome → Prop
  | characteristic (.ok _) =>
    if typed.mode.isEdit then typed = held else typed = .blank .characteristic
  | characteristic (.error _) => True
  | specification (.ok _) =>
    if typed.mode.isEdit then typed = held else typed = .blank .specification
  | specification (.error _) => typed = held
  | pricing (.ok _) => if typed.mode.isEdit then typed = held else typed = .blank .pricing
  | pricing (.error _) => True
  | draft (.ok _) => if typed.mode.isEdit then typed = held else typed = .blank .offering
  | draft (.error _) => typed = held
  | publish (.ok _) => typed = .blank .offering
  | publish (.error e) => typed = held ∧ ∀ o ∈ e.saved, typed.mode = .edit o.id

end FormOutcome

namespace FormContent

@[simp] theorem withMode_mode (c : FormContent) : c.withMode c.mode = c := by
  cases c <;> rfl

@[simp] theorem mode_withMode (c : FormContent) (m : FormMode) : (c.withMode m).mode = m := by
  cases c <;> rfl

theorem withMode_injective {c d : FormContent} (hmode : c.mode = d.mode) {m : FormMode}
    (h : c.withMode m = d) : c = d ∧ d.mode = m := by
  have hm : d.mode = m := by rw [← h, mode_withMode]
  refine ⟨?_, hm⟩
  rw [← hm, ← hmode, withMode_mode] at h
  exact h

end FormContent

/-- `Spares` says when an outcome shows what was shown before. -/
theorem FormOutcome.shows_eq_iff {typed held : FormContent} (hmode : held.mode = typed.mode)
    (o : FormOutcome) : o.shows typed held = typed ↔ o.Spares typed held := by
  have success (tab : BuilderTab) :
      (if held.mode.isEdit then held else .blank tab) = typed ↔
        if typed.mode.isEdit then typed = held else typed = .blank tab := by
    rw [hmode]
    split <;> exact eq_comm
  cases o with
  | characteristic r => cases r with
    | ok c => exact success .characteristic
    | error e => exact iff_of_true rfl trivial
  | specification r => cases r with
    | ok s => exact success .specification
    | error e => exact eq_comm
  | pricing r => cases r with
    | ok p => exact success .pricing
    | error e => exact iff_of_true rfl trivial
  | draft r => cases r with
    | ok o => exact success .offering
    | error e => exact eq_comm
  | publish r => cases r with
    | ok o => exact eq_comm
    | error e =>
      obtain ⟨saved, failure⟩ := e
      cases saved with
      | none => simp [shows, Spares, eq_comm]
      | some o =>
        simp only [shows, Spares, Option.mem_some_iff, forall_eq']
        constructor
        · intro h
          obtain ⟨heq, hm⟩ := FormContent.withMode_injective hmode h
          exact ⟨heq.symm, hm⟩
        · rintro ⟨rfl, hm⟩
          rw [← hm, FormContent.withMode_mode]

/-- The mode of a form after an outcome. -/
theorem FormOutcome.shows_mode {typed held : FormContent} (hmode : held.mode = typed.mode)
    (o : FormOutcome) :
    (o.shows typed held).mode =
      if o.empties typed.mode then .create
      else match o.saved? with
        | some id => .edit id
        | none => typed.mode := by
  have success (tab : BuilderTab) (hblank : (FormContent.blank tab).mode = .create) :
      (if held.mode.isEdit then held else .blank tab).mode =
        if (!typed.mode.isEdit) = true then .create else typed.mode := by
    rw [hmode]
    cases h : typed.mode with
    | create => exact hblank
    | edit id => exact hmode.trans h
  cases o with
  | characteristic r => cases r with
    | ok c => exact success .characteristic rfl
    | error e => rfl
  | specification r => cases r with
    | ok s => exact success .specification rfl
    | error e => exact hmode
  | pricing r => cases r with
    | ok p => exact success .pricing rfl
    | error e => rfl
  | draft r => cases r with
    | ok o => exact success .offering rfl
    | error e => exact hmode
  | publish r => cases r with
    | ok o => rfl
    | error e =>
      obtain ⟨saved, failure⟩ := e
      cases saved with
      | none => exact hmode
      | some o => exact FormContent.mode_withMode held _

/-! ## The builder under events -/

namespace Builder

/-- The builder after an outcome, without the notice. -/
def settle (b : Builder) : FormOutcome → Builder
  | .characteristic r => (b.completeCharacteristic r).2
  | .specification r => (b.completeSpecification r).2
  | .pricing r => (b.completePricing r).2
  | .draft r => (b.completeDraft r).2
  | .publish r => (b.completePublish r).2.2

theorem held_mode (b : Builder) (tab : BuilderTab) :
    (b.held tab).mode = (b.content tab).mode := by
  cases tab <;> rfl

@[simp] theorem content_refocus (b : Builder) (tab : BuilderTab) :
    b.refocus.content tab = b.content tab := by
  cases tab <;> rfl

@[simp] theorem content_showTab (b : Builder) (shown tab : BuilderTab) :
    (b.showTab shown).2.content tab = b.content tab := by
  cases shown <;> cases tab <;> rfl

theorem showTab_quiet (b : Builder) (shown : BuilderTab) :
    (b.showTab shown).1.submission? = none := by
  cases shown <;> rfl

theorem content_specificationOptions (b : Builder)
    (result : Except Failure (List Characteristic)) (tab : BuilderTab) :
    (b.applySpecificationOptions result).2.content tab = b.content tab := by
  cases tab with
  | specification => exact b.specification.content_applyOptions result
  | _ => rfl

theorem content_offeringOptions (b : Builder) (result : Except Failure OfferingOptions)
    (tab : BuilderTab) : (b.applyOfferingOptions result).2.content tab = b.content tab := by
  cases tab with
  | offering => exact b.offering.content_applyOptions result
  | _ => rfl

/-- An outcome changes the content of the panel that it belongs to and of no other. -/
theorem content_settle (b : Builder) (o : FormOutcome) (tab : BuilderTab) :
    (b.settle o).content tab =
      if tab = o.kind.panel then o.shows (b.content tab) (b.held tab) else b.content tab := by
  split
  · rename_i htab
    subst htab
    cases o with
    | characteristic r =>
      refine Eq.trans (b.characteristic.content_complete r) ?_
      cases r <;> rfl
    | specification r =>
      refine Eq.trans (b.specification.content_complete r) ?_
      cases r <;> rfl
    | pricing r =>
      refine Eq.trans (b.pricing.content_complete r) ?_
      cases r <;> rfl
    | draft r =>
      refine Eq.trans (b.offering.content_completeDraft r) ?_
      cases r <;> rfl
    | publish r =>
      refine Eq.trans (b.offering.content_completePublish r) ?_
      cases r <;> rfl
  · rename_i htab
    cases o <;> cases tab <;> first | rfl | exact absurd rfl htab

/-- Does the key replace the form behind the tab by an empty one? -/
def opensBlank (b : Builder) (k : Key) (tab : BuilderTab) : Prop :=
  tabOf? k = none ∧ k.isControl 'n' = true ∧ tab = b.tab

instance (b : Builder) (k : Key) (tab : BuilderTab) : Decidable (b.opensBlank k tab) :=
  inferInstanceAs (Decidable (_ ∧ _ ∧ _))

theorem pressPanel_spec (b : Builder) (k : Key) :
    (b.pressPanel k).1.SubmitsOnly b.tab (b.content b.tab).mode ∧
      ((b.pressPanel k).2.2.content b.tab).mode =
        if k.isControl 'n' then .create else (b.content b.tab).mode := by
  unfold pressPanel
  split <;> rename_i h <;> rw [h]
  · exact b.characteristic.press_spec k
  · exact b.specification.press_spec k
  · exact b.pricing.press_spec k
  · exact b.offering.press_spec k

theorem content_pressPanel_of_ne (b : Builder) (k : Key) {tab : BuilderTab}
    (hne : tab ≠ b.tab) : (b.pressPanel k).2.2.content tab = b.content tab := by
  unfold pressPanel
  split <;> rename_i h <;> rw [h] at hne <;> cases tab <;> first | rfl | exact absurd rfl hne

/-- A key submits the form that is shown, in its mode, or nothing. -/
theorem press_submitsOnly (b : Builder) (k : Key) :
    (b.press k).1.SubmitsOnly b.tab (b.content b.tab).mode := by
  unfold press
  split
  · exact .of_quiet (b.showTab_quiet _)
  · exact (b.pressPanel_spec k).1

/-- A key changes no mode but by opening an empty form. -/
theorem press_mode (b : Builder) (k : Key) (tab : BuilderTab) :
    ((b.press k).2.2.content tab).mode =
      if b.opensBlank k tab then .create else (b.content tab).mode := by
  unfold press opensBlank
  split
  · rename_i shown h
    simp [h]
  · rename_i h
    show ((b.pressPanel k).2.2.refocus.content tab).mode = _
    rw [content_refocus]
    by_cases htab : tab = b.tab
    · rw [htab, (b.pressPanel_spec k).2]
      simp [h]
    · rw [b.content_pressPanel_of_ne k htab]
      simp [htab]

end Builder

/-- The panel in which a record is edited. -/
def CatalogRecord.tab : CatalogRecord → BuilderTab
  | .characteristic _ => .characteristic
  | .specification _ => .specification
  | .price _ => .pricing
  | .offering _ => .offering

/-- Opening a record submits nothing, and sets the mode of one form. -/
theorem Builder.edit_spec {b b' : Builder} {r : CatalogRecord} {a : BuilderAction}
    (h : b.edit r = .ok (a, b')) :
    a.submission? = none ∧ ∀ tab,
      (b'.content tab).mode = if tab = r.tab then .edit r.id else (b.content tab).mode := by
  cases r with
  | characteristic c =>
    cases h
    exact ⟨rfl, fun tab => by cases tab <;> rfl⟩
  | specification s =>
    cases h
    exact ⟨rfl, fun tab => by cases tab <;> rfl⟩
  | price p =>
    simp only [edit, PricingForm.edit] at h
    split at h
    · cases h
      exact ⟨rfl, fun tab => by cases tab <;> rfl⟩
    · cases h
  | offering o =>
    simp only [edit, OfferingForm.edit] at h
    split at h
    · cases h
      exact ⟨rfl, fun tab => by cases tab <;> rfl⟩
    · cases h

end CatalogDesk
