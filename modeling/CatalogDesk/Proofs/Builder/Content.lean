import CatalogDesk.Proofs.Screen.Fields
import CatalogDesk.Screen.Builder

/-! # What the forms of the builder hold

    A form holds for its user the text in its fields, what is selected, and whether it
    creates a record or changes one: its *content*.  Focus, messages, options and the
    work that is going on are no part of it.

    The lemmas say what the operations of the panels and of the builder do to the
    content, or to the mode alone where the rest of it does not matter.  Later modules
    use these lemmas and do not look into the panels any more. -/

namespace CatalogDesk

/-! ## Content -/

theorem FormMode.eq_create {m : FormMode} (h : ¬ m.isEdit = true) : m = .create := by
  cases m with
  | create => rfl
  | edit id => exact absurd rfl h

/-- What a form holds for its user. -/
inductive FormContent
  | characteristic (name value : String) (unit : UnitOfMeasure) (mode : FormMode)
  | specification (name : String) (characteristics : List RecordId) (mode : FormMode)
  | pricing (name value unit : String) (currency : Currency) (mode : FormMode)
  | offering (name description : String) (specifications prices : List RecordId)
      (channels : List SalesChannel) (mode : FormMode)
  deriving DecidableEq

namespace FormContent

/-- Does the form create a record or change one? -/
def mode : FormContent → FormMode
  | characteristic _ _ _ mode => mode
  | specification _ _ mode => mode
  | pricing _ _ _ _ mode => mode
  | offering _ _ _ _ _ mode => mode

/-- The same content in another mode. -/
def withMode (c : FormContent) (m : FormMode) : FormContent :=
  match c with
  | characteristic name value unit _ => .characteristic name value unit m
  | specification name characteristics _ => .specification name characteristics m
  | pricing name value unit currency _ => .pricing name value unit currency m
  | offering name description specifications prices channels _ =>
    .offering name description specifications prices channels m

/-- The content of an empty form. -/
def blank : BuilderTab → FormContent
  | .characteristic => .characteristic "" "" .none .create
  | .specification => .specification "" [] .create
  | .pricing => .pricing "" "" "per month" .usd .create
  | .offering => .offering "" "" [] [] [.online] .create

end FormContent

/-- The content of a panel as its fields show it. -/
def CharacteristicPanel.content (p : CharacteristicPanel) : FormContent :=
  .characteristic p.name.value p.value.value p.form.unit p.form.mode

def SpecificationPanel.content (p : SpecificationPanel) : FormContent :=
  .specification p.name.value p.form.characteristicIds p.form.mode

def PricingPanel.content (p : PricingPanel) : FormContent :=
  .pricing p.name.value p.value.value p.unit.value p.form.currency p.form.mode

def OfferingPanel.content (p : OfferingPanel) : FormContent :=
  .offering p.name.value p.description.value p.form.specificationIds p.form.priceIds
    p.form.channels p.form.mode

/-- The content of the form behind a tab. -/
def Builder.content (b : Builder) : BuilderTab → FormContent
  | .characteristic => b.characteristic.content
  | .specification => b.specification.content
  | .pricing => b.pricing.content
  | .offering => b.offering.content

/-! The text that is typed lies in the fields, and goes into the form when the form is
    checked.  What the form holds by itself is therefore the content as it was when the
    form was opened, emptied or last checked. -/

def CharacteristicPanel.held (p : CharacteristicPanel) : FormContent :=
  .characteristic p.form.name p.form.value p.form.unit p.form.mode

def SpecificationPanel.held (p : SpecificationPanel) : FormContent :=
  .specification p.form.name p.form.characteristicIds p.form.mode

def PricingPanel.held (p : PricingPanel) : FormContent :=
  .pricing p.form.name p.form.value p.form.unit p.form.currency p.form.mode

def OfferingPanel.held (p : OfferingPanel) : FormContent :=
  .offering p.form.name p.form.description p.form.specificationIds p.form.priceIds
    p.form.channels p.form.mode

/-- What the form behind a tab holds apart from text typed since. -/
def Builder.held (b : Builder) : BuilderTab → FormContent
  | .characteristic => b.characteristic.held
  | .specification => b.specification.held
  | .pricing => b.pricing.held
  | .offering => b.offering.held

/-! ## Text fields -/

/-- A key with control held down is at most one of two characters. -/
theorem Key.isControl_unique {k : Key} {c d : Char} (hne : c ≠ d)
    (h : k.isControl c = true) : k.isControl d = false := by
  simp only [isControl, Bool.and_eq_true, beq_iff_eq] at h
  simp [isControl, h.2, hne]

/-! ## Submissions

    A submission is a request that saves or publishes what a form holds. -/

/-- What a submission asks for. -/
inductive SubmissionKind
  | characteristic
  | specification
  | pricing
  | draft
  | publish
  deriving DecidableEq, Repr

/-- The panel whose form makes submissions of this kind. -/
def SubmissionKind.panel : SubmissionKind → BuilderTab
  | characteristic => .characteristic
  | specification => .specification
  | pricing => .pricing
  | draft => .offering
  | publish => .offering

/-- The submission that an action makes, and the mode in which it makes it. -/
def BuilderAction.submission? : BuilderAction → Option (SubmissionKind × FormMode)
  | none => Option.none
  | saveCharacteristic r => some (.characteristic, r.mode)
  | saveSpecification r => some (.specification, r.mode)
  | savePricing r => some (.pricing, r.mode)
  | saveDraft r => some (.draft, r.mode)
  | publish r => some (.publish, r.mode)
  | loadSpecificationOptions => Option.none
  | loadOfferingOptions => Option.none

/-- The action makes no submission but one of this panel, in this mode. -/
def BuilderAction.SubmitsOnly (a : BuilderAction) (tab : BuilderTab) (mode : FormMode) : Prop :=
  ∀ s, a.submission? = some s → s.1.panel = tab ∧ s.2 = mode

theorem BuilderAction.SubmitsOnly.of_quiet {a : BuilderAction} {tab : BuilderTab}
    {mode : FormMode} (h : a.submission? = Option.none) : a.SubmitsOnly tab mode := by
  intro s hs
  rw [h] at hs
  cases hs

theorem BuilderAction.SubmitsOnly.of_request {a : BuilderAction} {kind : SubmissionKind}
    {tab : BuilderTab} {mode mode' : FormMode} (h : a.submission? = some (kind, mode))
    (htab : kind.panel = tab) (hmode : mode = mode') : a.SubmitsOnly tab mode' := by
  intro s hs
  rw [h] at hs
  cases hs
  exact ⟨htab, hmode⟩

/-! ## Characteristics -/

namespace CharacteristicForm

/-- Checking a form changes its messages only, and makes a request in its mode if at
    all. -/
theorem prepare_cases (f : CharacteristicForm) :
    (∃ r errors, f.prepare = (some r, { f with errors }) ∧ r.mode = f.mode) ∨
      ∃ errors, f.prepare = (none, { f with errors }) := by
  unfold prepare
  split
  · exact .inl ⟨_, _, rfl, rfl⟩
  · exact .inr ⟨_, rfl⟩

end CharacteristicForm

namespace CharacteristicPanel

@[simp] theorem content_setFocused (p : CharacteristicPanel) (on : Bool) :
    (p.setFocused on).content = p.content := rfl

theorem content_showForm (p : CharacteristicPanel) : p.showForm.content = p.held := by
  simp [showForm, showErrors, content, held]

theorem submit_spec (p : CharacteristicPanel) :
    p.submit.1.SubmitsOnly .characteristic p.form.mode ∧ p.submit.2.form.mode = p.form.mode := by
  unfold submit
  split
  · exact ⟨.of_quiet rfl, rfl⟩
  · obtain ⟨r, errors, h, hr⟩ | ⟨errors, h⟩ := CharacteristicForm.prepare_cases
      { p.form with name := p.name.value, value := p.value.value }
    · dsimp only at h hr ⊢
      rw [h]
      exact ⟨.of_request rfl rfl hr, rfl⟩
    · dsimp only at h ⊢
      rw [h]
      exact ⟨.of_quiet rfl, rfl⟩

theorem pressField_mode (p : CharacteristicPanel) (k : Key) :
    (p.pressField k).form.mode = p.form.mode := by
  unfold pressField
  split
  · rfl
  · rfl
  · split <;> rfl

/-- A key submits the form in its mode, and changes the mode only by opening an empty
    form. -/
theorem press_spec (p : CharacteristicPanel) (k : Key) :
    (p.press k).1.SubmitsOnly .characteristic p.form.mode ∧
      (p.press k).2.form.mode = if k.isControl 'n' then .create else p.form.mode := by
  unfold press
  split
  · rename_i hs
    rw [Key.isControl_unique (by decide) hs]
    exact submit_spec p
  · split
    · exact ⟨.of_quiet rfl, rfl⟩
    · split
      · exact ⟨.of_quiet rfl, rfl⟩
      · exact ⟨.of_quiet rfl, rfl⟩
      · split
        · exact submit_spec p
        · exact ⟨.of_quiet rfl, pressField_mode p k⟩
      · exact ⟨.of_quiet rfl, pressField_mode p k⟩

/-- A record that was saved leaves an empty form, or the form as it was checked; a
    failure leaves what is typed. -/
theorem content_complete (p : CharacteristicPanel) (result : Except Failure Characteristic) :
    (p.complete result).2.content =
      match result with
      | .ok _ => if p.form.mode.isEdit then p.held else .blank .characteristic
      | .error _ => p.content := by
  cases result with
  | error e => rfl
  | ok c =>
    by_cases hedit : p.form.mode.isEdit = true
    · simp only [complete, CharacteristicForm.complete, hedit, if_true]
      exact content_showForm _
    · simp only [complete, CharacteristicForm.complete, hedit]
      exact content_showForm _

end CharacteristicPanel

/-! ## Specifications -/

namespace SpecificationForm

theorem prepare_cases (f : SpecificationForm) :
    (∃ r errors, f.prepare = (some r, { f with errors }) ∧ r.mode = f.mode) ∨
      ∃ errors, f.prepare = (none, { f with errors }) := by
  unfold prepare
  split
  · exact .inl ⟨_, _, rfl, rfl⟩
  · exact .inr ⟨_, rfl⟩

end SpecificationForm

namespace SpecificationPanel

@[simp] theorem content_setFocused (p : SpecificationPanel) (on : Bool) :
    (p.setFocused on).content = p.content := rfl

@[simp] theorem content_reloadOptions (p : SpecificationPanel) :
    p.reloadOptions.2.content = p.content := rfl

@[simp] theorem content_applyOptions (p : SpecificationPanel)
    (result : Except Failure (List Characteristic)) :
    (p.applyOptions result).2.content = p.content := by
  cases result <;> rfl

theorem content_showForm (p : SpecificationPanel) : p.showForm.content = p.held := by
  simp [showForm, content, held]

theorem submit_spec (p : SpecificationPanel) :
    p.submit.1.SubmitsOnly .specification p.form.mode ∧ p.submit.2.form.mode = p.form.mode := by
  unfold submit
  split
  · exact ⟨.of_quiet rfl, rfl⟩
  · obtain ⟨r, errors, h, hr⟩ | ⟨errors, h⟩ := SpecificationForm.prepare_cases
      { p.form with name := p.name.value }
    · dsimp only at h hr ⊢
      rw [h]
      exact ⟨.of_request rfl rfl hr, rfl⟩
    · dsimp only at h ⊢
      rw [h]
      exact ⟨.of_quiet rfl, rfl⟩

theorem pressField_mode (p : SpecificationPanel) (k : Key) :
    (p.pressField k).form.mode = p.form.mode := by
  unfold pressField
  split
  · rfl
  · split <;> rfl

theorem press_spec (p : SpecificationPanel) (k : Key) :
    (p.press k).1.SubmitsOnly .specification p.form.mode ∧
      (p.press k).2.form.mode = if k.isControl 'n' then .create else p.form.mode := by
  unfold press
  split
  · rename_i hs
    rw [Key.isControl_unique (by decide) hs]
    exact submit_spec p
  · split
    · rename_i hr
      rw [Key.isControl_unique (by decide) hr]
      exact ⟨.of_quiet rfl, rfl⟩
    · split
      · exact ⟨.of_quiet rfl, rfl⟩
      · split
        · exact ⟨.of_quiet rfl, rfl⟩
        · exact ⟨.of_quiet rfl, rfl⟩
        · split
          · exact submit_spec p
          · exact ⟨.of_quiet rfl, pressField_mode p k⟩
        · exact ⟨.of_quiet rfl, pressField_mode p k⟩

theorem content_complete (p : SpecificationPanel) (result : Except Failure Specification) :
    (p.complete result).2.content =
      match result with
      | .ok _ => if p.form.mode.isEdit then p.held else .blank .specification
      | .error _ => p.held := by
  cases result with
  | error e => exact content_showForm _
  | ok s =>
    by_cases hedit : p.form.mode.isEdit = true
    · simp only [complete, SpecificationForm.complete, hedit, if_true]
      exact content_showForm _
    · simp only [complete, SpecificationForm.complete, hedit]
      rw [content_showForm]
      exact congrArg (FormContent.specification "" []) (FormMode.eq_create hedit)

end SpecificationPanel

/-! ## Pricing plans -/

namespace PricingForm

theorem prepare_cases (f : PricingForm) :
    (∃ r errors, f.prepare = (some r, { f with errors }) ∧ r.mode = f.mode) ∨
      ∃ errors, f.prepare = (none, { f with errors }) := by
  unfold prepare
  split
  · exact .inl ⟨_, _, rfl, rfl⟩
  · exact .inr ⟨_, rfl⟩

end PricingForm

namespace PricingPanel

@[simp] theorem content_setFocused (p : PricingPanel) (on : Bool) :
    (p.setFocused on).content = p.content := rfl

theorem content_showForm (p : PricingPanel) : p.showForm.content = p.held := by
  simp [showForm, showErrors, content, held]

theorem submit_spec (p : PricingPanel) :
    p.submit.1.SubmitsOnly .pricing p.form.mode ∧ p.submit.2.form.mode = p.form.mode := by
  unfold submit
  split
  · exact ⟨.of_quiet rfl, rfl⟩
  · obtain ⟨r, errors, h, hr⟩ | ⟨errors, h⟩ := PricingForm.prepare_cases
      { p.form with name := p.name.value, value := p.value.value, unit := p.unit.value }
    · dsimp only at h hr ⊢
      rw [h]
      exact ⟨.of_request rfl rfl hr, rfl⟩
    · dsimp only at h ⊢
      rw [h]
      exact ⟨.of_quiet rfl, rfl⟩

theorem pressField_mode (p : PricingPanel) (k : Key) :
    (p.pressField k).form.mode = p.form.mode := by
  unfold pressField
  split
  · rfl
  · rfl
  · rfl
  · split <;> rfl

theorem press_spec (p : PricingPanel) (k : Key) :
    (p.press k).1.SubmitsOnly .pricing p.form.mode ∧
      (p.press k).2.form.mode = if k.isControl 'n' then .create else p.form.mode := by
  unfold press
  split
  · rename_i hs
    rw [Key.isControl_unique (by decide) hs]
    exact submit_spec p
  · split
    · exact ⟨.of_quiet rfl, rfl⟩
    · split
      · exact ⟨.of_quiet rfl, rfl⟩
      · exact ⟨.of_quiet rfl, rfl⟩
      · split
        · exact submit_spec p
        · exact ⟨.of_quiet rfl, pressField_mode p k⟩
      · exact ⟨.of_quiet rfl, pressField_mode p k⟩

theorem content_complete (p : PricingPanel) (result : Except Failure Price) :
    (p.complete result).2.content =
      match result with
      | .ok _ => if p.form.mode.isEdit then p.held else .blank .pricing
      | .error _ => p.content := by
  cases result with
  | error e => rfl
  | ok x =>
    by_cases hedit : p.form.mode.isEdit = true
    · simp only [complete, PricingForm.complete, hedit, if_true]
      exact content_showForm _
    · simp only [complete, PricingForm.complete, hedit]
      exact content_showForm _

end PricingPanel

/-! ## Offerings -/

namespace OfferingForm

theorem prepareDraft_cases (f : OfferingForm) :
    (∃ r errors, f.prepareDraft = (some r, { f with errors }) ∧ r.mode = f.mode) ∨
      ∃ errors, f.prepareDraft = (none, { f with errors }) := by
  unfold prepareDraft
  split
  · exact .inl ⟨_, _, rfl, rfl⟩
  · exact .inr ⟨_, rfl⟩

/-- Checking before publishing, too, changes the messages only; a request that is ready
    carries the mode of the form. -/
theorem preparePublish_cases (f : OfferingForm) :
    (∃ r toasts errors, f.preparePublish = (.ready r, toasts, { f with errors }) ∧
      r.mode = f.mode) ∨
      ∃ check toasts errors, f.preparePublish = (check, toasts, { f with errors }) ∧
        ∀ r, check ≠ .ready r := by
  unfold preparePublish
  obtain ⟨r, errors, h, hr⟩ | ⟨errors, h⟩ := prepareDraft_cases f
  · rw [h]
    dsimp only
    split
    · exact .inl ⟨_, _, _, rfl, hr⟩
    · exact .inr ⟨_, _, _, rfl, nofun⟩
  · rw [h]
    exact .inr ⟨_, _, _, rfl, nofun⟩

end OfferingForm

namespace OfferingPanel

@[simp] theorem content_setFocused (p : OfferingPanel) (on : Bool) :
    (p.setFocused on).content = p.content := rfl

@[simp] theorem content_reloadOptions (p : OfferingPanel) :
    p.reloadOptions.2.content = p.content := rfl

@[simp] theorem content_applyOptions (p : OfferingPanel)
    (result : Except Failure OfferingOptions) :
    (p.applyOptions result).2.content = p.content := by
  cases result <;> rfl

theorem content_showForm (p : OfferingPanel) : p.showForm.content = p.held := by
  simp [showForm, content, held]

theorem saveDraft_spec (p : OfferingPanel) :
    p.saveDraft.1.SubmitsOnly .offering p.form.mode ∧
      p.saveDraft.2.form.mode = p.form.mode := by
  unfold saveDraft
  split
  · exact ⟨.of_quiet rfl, rfl⟩
  · obtain ⟨r, errors, h, hr⟩ | ⟨errors, h⟩ := OfferingForm.prepareDraft_cases p.typed
    · rw [h]
      exact ⟨.of_request rfl rfl hr, rfl⟩
    · rw [h]
      exact ⟨.of_quiet rfl, rfl⟩

theorem publish_spec (p : OfferingPanel) :
    p.publish.1.SubmitsOnly .offering p.form.mode ∧
      p.publish.2.2.form.mode = p.form.mode := by
  unfold publish
  split
  · exact ⟨.of_quiet rfl, rfl⟩
  · obtain ⟨r, toasts, errors, h, hr⟩ | ⟨check, toasts, errors, h, hcheck⟩ :=
      OfferingForm.preparePublish_cases p.typed
    · rw [h]
      exact ⟨.of_request rfl rfl hr, rfl⟩
    · rw [h]
      cases check with
      | ready r => exact absurd rfl (hcheck r)
      | invalid => exact ⟨.of_quiet rfl, rfl⟩
      | refused why => exact ⟨.of_quiet rfl, rfl⟩

theorem pressField_mode (p : OfferingPanel) (k : Key) :
    (p.pressField k).form.mode = p.form.mode := by
  unfold pressField
  split
  · rfl
  · rfl
  · split <;> rfl
  · split <;> rfl
  · dsimp only
    split <;> rfl

theorem press_spec (p : OfferingPanel) (k : Key) :
    (p.press k).1.SubmitsOnly .offering p.form.mode ∧
      (p.press k).2.2.form.mode = if k.isControl 'n' then .create else p.form.mode := by
  unfold press
  dsimp only
  split
  · rename_i hs
    rw [Key.isControl_unique (by decide) hs]
    exact saveDraft_spec p
  · split
    · rename_i hp
      rw [Key.isControl_unique (by decide) hp]
      exact publish_spec p
    · split
      · rename_i hr
        rw [Key.isControl_unique (by decide) hr]
        exact ⟨.of_quiet rfl, rfl⟩
      · split
        · exact ⟨.of_quiet rfl, rfl⟩
        · split
          · exact ⟨.of_quiet rfl, rfl⟩
          · exact ⟨.of_quiet rfl, rfl⟩
          · exact ⟨.of_quiet rfl, pressField_mode p k⟩

theorem content_completeDraft (p : OfferingPanel) (result : Except Failure Offering) :
    (p.completeDraft result).2.content =
      match result with
      | .ok _ => if p.form.mode.isEdit then p.held else .blank .offering
      | .error _ => p.held := by
  cases result with
  | error e => exact content_showForm _
  | ok o =>
    by_cases hedit : p.form.mode.isEdit = true
    · simp only [completeDraft, OfferingForm.completeDraft, hedit, if_true]
      exact content_showForm _
    · simp only [completeDraft, OfferingForm.completeDraft, hedit]
      exact content_showForm _

/-- A publication that was accepted leaves an empty form.  One that failed after the
    record was saved leaves the form as it was checked, set to change that record. -/
theorem content_completePublish (p : OfferingPanel)
    (result : Except PublishFailure Offering) :
    (p.completePublish result).2.2.content =
      match result with
      | .ok _ => .blank .offering
      | .error e =>
        match e.saved with
        | some o => p.held.withMode (.edit o.id)
        | none => p.held := by
  cases result with
  | ok o => exact content_showForm _
  | error e =>
    obtain ⟨saved, failure⟩ := e
    cases saved with
    | none => exact content_showForm _
    | some o => exact content_showForm _

end OfferingPanel

end CatalogDesk
