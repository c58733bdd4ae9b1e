import CatalogDesk.Form.CharacteristicForm
import CatalogDesk.Form.OfferingForm
import CatalogDesk.Form.PricingForm
import CatalogDesk.Form.SpecificationForm
import CatalogDesk.Proofs.Task.Course
import Mathlib.Data.List.Nodup

/-! # Checks of forms

    Each of the four forms checks its own fields, one rule after another, and notes a message
    for every rule that does not hold.  What they have in common is a *kind* of forms: its rules,
    what it sends, and where.

    Main result: `forms_check_well` says of every form, however it was filled in and whatever
    messages earlier attempts have left, that its check gives a request just if all rules hold;
    which request that is; and otherwise which messages are noted, and that nothing is sent. -/

namespace CatalogDesk

/-! ## Rules -/

/-- What a field has to be like, and what is said where it is not. -/
structure FieldRule where
  field : String
  holds : Bool
  message : String

namespace FieldRule

/-- There is something in the text but blanks. -/
def text (field value message : String) : FieldRule :=
  ⟨field, Text.trim value ≠ "", message⟩

/-- The text stands for a finite amount above zero. -/
def amount (value : String) : FieldRule :=
  match Binary64.ofText (Text.trim value) with
  | .ok x => ⟨"value", x.isFinite && x.isPositive, "Price must be positive"⟩
  | .error _ => ⟨"value", false, "Price must be a number"⟩

/-- The messages of the rules that do not hold. -/
def messages (rules : List FieldRule) : List (String × String) :=
  (rules.filter fun rule => !rule.holds).map fun rule => (rule.field, rule.message)

theorem messages_eq_nil_iff (rules : List FieldRule) :
    messages rules = [] ↔ ∀ rule ∈ rules, rule.holds = true := by
  simp [messages]

theorem field_amount (value : String) : (amount value).field = "value" := by
  unfold amount
  split <;> rfl

/-- An amount that follows its rule is the one that is sent. -/
theorem amountOf_of_holds {value : String} (h : (amount value).holds = true) :
    ∃ x, Binary64.ofText (Text.trim value) = .ok x ∧ PricingForm.amountOf value = .ok x := by
  simp only [amount] at h
  cases hread : Binary64.ofText (Text.trim value) with
  | error e =>
    rw [hread] at h
    cases h
  | ok x =>
    rw [hread] at h
    have hamount : PricingForm.amountOf value = .ok x := by
      simp only [PricingForm.amountOf, hread]
      exact if_pos h
    exact ⟨x, rfl, hamount⟩

end FieldRule

namespace FieldErrors

/-- Notes the message of a rule that does not hold. -/
def check (e : FieldErrors) (rule : FieldRule) : FieldErrors :=
  e.require rule.holds rule.field rule.message

theorem insertNew_perm {field : String} (message : String) {entries : List (String × String)}
    (hnew : field ∉ entries.map Prod.fst) :
    (insertNew field message entries).Perm ((field, message) :: entries) := by
  induction entries with
  | nil => exact .refl _
  | cons entry entries ih =>
    obtain ⟨hne, hnew⟩ := not_or.mp (mt List.mem_cons.mpr hnew)
    unfold insertNew
    split
    · exact .refl _
    · exact ((ih hnew).cons entry).trans (.swap _ _ _)

/-- Rules of different fields, none of which has a message yet, add just the messages of those
    that do not hold. -/
theorem entries_foldl_check {e : FieldErrors} {rules : List FieldRule}
    (hdistinct : (e.entries.map Prod.fst ++ rules.map FieldRule.field).Nodup) :
    (rules.foldl check e).entries.Perm (e.entries ++ FieldRule.messages rules) := by
  induction rules generalizing e with
  | nil => simp [FieldRule.messages]
  | cons rule rules ih =>
    by_cases hholds : rule.holds = true
    · have hsame : e.check rule = e := if_pos hholds
      have hmessages : FieldRule.messages (rule :: rules) = FieldRule.messages rules := by
        simp [FieldRule.messages, hholds]
      rw [List.foldl_cons, hsame, hmessages]
      exact ih (hdistinct.sublist ((List.sublist_cons_self _ _).append_left _))
    · have hadd : e.check rule = e.add rule.field rule.message := if_neg hholds
      have hmessages : FieldRule.messages (rule :: rules) =
          (rule.field, rule.message) :: FieldRule.messages rules := by
        simp [FieldRule.messages, hholds]
      rw [List.map_cons] at hdistinct
      have hdistinct' := List.nodup_middle.mp hdistinct
      have hnew : rule.field ∉ e.entries.map Prod.fst := fun h =>
        (List.nodup_cons.mp hdistinct').1 (List.mem_append_left _ h)
      have hperm := insertNew_perm rule.message hnew
      rw [List.foldl_cons, hadd, hmessages]
      refine (ih ?_).trans ?_
      · exact (((hperm.map Prod.fst).append_right _).nodup_iff).mpr hdistinct'
      · exact (hperm.append_right _).trans List.perm_middle.symm

theorem entries_check {rules : List FieldRule} (hdistinct : (rules.map FieldRule.field).Nodup) :
    (rules.foldl check .empty).entries.Perm (FieldRule.messages rules) :=
  @entries_foldl_check .empty rules hdistinct

/-- What all rules make of a value. -/
theorem toExcept_check (rules : List FieldRule) (value : α)
    (hdistinct : (rules.map FieldRule.field).Nodup) :
    ((∀ rule ∈ rules, rule.holds = true) ∧
        (rules.foldl check .empty).toExcept value = .ok value) ∨
      (¬ ∀ rule ∈ rules, rule.holds = true) ∧
        (rules.foldl check .empty).toExcept value = .error (rules.foldl check .empty) := by
  have hperm := entries_check hdistinct
  by_cases hall : ∀ rule ∈ rules, rule.holds = true
  · rw [(FieldRule.messages_eq_nil_iff rules).mpr hall] at hperm
    exact .inl ⟨hall, if_pos (List.isEmpty_iff.mpr hperm.eq_nil)⟩
  · refine .inr ⟨hall, if_neg fun hempty => hall ?_⟩
    rw [isEmpty, List.isEmpty_iff] at hempty
    rw [hempty] at hperm
    exact (FieldRule.messages_eq_nil_iff rules).mp hperm.nil_eq.symm

/-- What would be sent matters only where all rules hold. -/
theorem toExcept_check_congr {rules : List FieldRule} {value value' : α}
    (hdistinct : (rules.map FieldRule.field).Nodup)
    (h : (∀ rule ∈ rules, rule.holds = true) → value = value') :
    (rules.foldl check .empty).toExcept value = (rules.foldl check .empty).toExcept value' := by
  obtain ⟨hall, -⟩ | ⟨hnot, herror⟩ := toExcept_check rules value hdistinct
  · rw [h hall]
  · obtain ⟨hall, -⟩ | ⟨-, herror'⟩ := toExcept_check rules value' hdistinct
    · exact absurd hall hnot
    · rw [herror, herror']

end FieldErrors

/-! ## Kinds of forms -/

/-- What a kind of forms checks and sends, and how. -/
structure FormKind (φ π α : Type) where
  collection : Collection
  path : String
  mode : φ → FormMode
  rules : φ → List FieldRule
  /-- What is sent of a form that is right. -/
  draft : φ → π
  encode : π → Json
  /-- The members in which it is written, in the order of their keys. -/
  members : φ → List (String × Json)
  withErrors : φ → FieldErrors → φ
  prepare : φ → Option (SaveRequest π) × φ
  send : SaveRequest π → Work (Except Failure α)
  submit : φ → Work (SaveOutcome α × φ)

namespace FormKind

def characteristic : FormKind CharacteristicForm CharacteristicDraft Characteristic where
  collection := .characteristics
  path := "/characteristics"
  mode f := f.mode
  rules f := [.text "name" f.name "Name is required", .text "value" f.value "Value is required"]
  draft f := { name := Text.trim f.name, value := Text.trim f.value, unit := f.unit }
  encode := CharacteristicDraft.encode
  members f := [("name", .text (Text.trim f.name)), ("unit_of_measure", .text f.unit.label),
    ("value", .text (Text.trim f.value))]
  withErrors f errors := { f with errors }
  prepare := CharacteristicForm.prepare
  send := CharacteristicForm.send
  submit := CharacteristicForm.submit

def specification : FormKind SpecificationForm SpecificationDraft Specification where
  collection := .specifications
  path := "/specifications"
  mode f := f.mode
  rules f := [.text "name" f.name "Name is required",
    ⟨"characteristic_ids", !f.characteristicIds.isEmpty, "Select at least one characteristic"⟩]
  draft f := { name := Text.trim f.name, characteristicIds := f.characteristicIds }
  encode := SpecificationDraft.encode
  members f := [("characteristic_ids", .list (f.characteristicIds.map .text)),
    ("name", .text (Text.trim f.name))]
  withErrors f errors := { f with errors }
  prepare := SpecificationForm.prepare
  send := SpecificationForm.send
  submit := SpecificationForm.submit

def pricing : FormKind PricingForm PriceDraft Price where
  collection := .prices
  path := "/prices"
  mode f := f.mode
  rules f := [.text "name" f.name "Name is required", .amount f.value,
    .text "unit" f.unit "Unit is required"]
  draft f := {
    name := Text.trim f.name
    value := (Binary64.ofText (Text.trim f.value)).toOption.getD .zero
    unit := Text.trim f.unit
    currency := f.currency }
  encode := PriceDraft.encode
  members f := [("currency", .text f.currency.label), ("name", .text (Text.trim f.name)),
    ("unit", .text (Text.trim f.unit)),
    ("value", .real ((Binary64.ofText (Text.trim f.value)).toOption.getD .zero))]
  withErrors f errors := { f with errors }
  prepare := PricingForm.prepare
  send := PricingForm.send
  submit := PricingForm.submit

/-- Offerings are saved as drafts. -/
def offering : FormKind OfferingForm OfferingDraft Offering where
  collection := .offerings
  path := "/offerings"
  mode f := f.mode
  rules f := [.text "name" f.name "Name is required"]
  draft f := {
    name := Text.trim f.name
    description := if Text.trim f.description = "" then none else some (Text.trim f.description)
    specificationIds := f.specificationIds
    priceIds := f.priceIds
    channels := f.channels }
  encode := OfferingDraft.encode
  members f :=
    (if Text.trim f.description = "" then []
      else [("description", .text (Text.trim f.description))]) ++
    [("name", .text (Text.trim f.name)), ("price_ids", .list (f.priceIds.map .text)),
      ("sales_channels", .list (f.channels.map fun c => .text c.label)),
      ("specification_ids", .list (f.specificationIds.map .text))]
  withErrors f errors := { f with errors }
  prepare := OfferingForm.prepareDraft
  send := OfferingForm.send
  submit := OfferingForm.saveDraft

variable {φ π α : Type} (K : FormKind φ π α)

/-- The request that saves a form. -/
def request (f : φ) : Request :=
  match K.mode f with
  | .create =>
    { method := .post, path := K.path, body := .json (.object (K.members f)) }
  | .edit id =>
    { method := .put, path := K.path ++ "/" ++ id, body := .json (.object (K.members f)) }

/-- The form is checked, and sent if it is right. -/
structure ChecksWell (f : φ) : Prop where
  /-- No two rules are about the same field. -/
  distinct : ((K.rules f).map FieldRule.field).Nodup
  ready : (K.prepare f).1.isSome = true ↔ ∀ rule ∈ K.rules f, rule.holds = true
  passed : ∀ r, (K.prepare f).1 = some r →
    r = ⟨K.mode f, K.collection, K.draft f⟩ ∧ (K.prepare f).2 = K.withErrors f .empty
  /-- Each field that is not right has one message, and no other field has any. -/
  failed : (K.prepare f).1 = none →
    ∃ errors, (K.prepare f).2 = K.withErrors f errors ∧
      errors.entries.Perm (FieldRule.messages (K.rules f))
  sent : ∀ r, (K.prepare f).1 = some r → ∀ (c : Circumstances) (n : Nat),
    ((K.send r).course c n).1 = [.send (K.request f) (c.reply n)]
  submitted : (K.prepare f).1.isSome = true → ∀ (c : Circumstances) (n : Nat),
    ∃ t, ((K.submit f).course c n).1 = [.send (K.request f) (c.reply n), .toast t]
  unsubmitted : (K.prepare f).1 = none → ∀ (c : Circumstances) (n : Nat),
    (K.submit f).course c n = ([], .invalid, (K.prepare f).2)
  /-- Messages of earlier attempts make no difference. -/
  fresh : ∀ errors, K.prepare (K.withErrors f errors) = K.prepare f

/-- The kind is checked and sent as all of them are. -/
structure IsRegular : Prop where
  path : K.collection.path = K.path
  distinct : ∀ f, ((K.rules f).map FieldRule.field).Nodup
  prepare : ∀ f, K.prepare f =
    match ((K.rules f).foldl FieldErrors.check .empty).toExcept (K.draft f) with
    | .ok draft => (some ⟨K.mode f, K.collection, draft⟩, K.withErrors f .empty)
    | .error errors => (none, K.withErrors f errors)
  encode : ∀ f, K.encode (K.draft f) = .object (K.members f)
  send : ∃ read, ∀ r, K.send r = r.send K.encode read
  submit : ∃ complete, ∀ f, K.submit f = submitForm (K.prepare f) K.send complete
  withErrors : ∀ f errors,
    K.mode (K.withErrors f errors) = K.mode f ∧ K.rules (K.withErrors f errors) = K.rules f ∧
      K.draft (K.withErrors f errors) = K.draft f ∧
      ∀ errors', K.withErrors (K.withErrors f errors) errors' = K.withErrors f errors'

variable {K}

/-- What the check of a form comes to. -/
theorem IsRegular.prepare_cases (h : K.IsRegular) (f : φ) :
    ((∀ rule ∈ K.rules f, rule.holds = true) ∧
        K.prepare f = (some ⟨K.mode f, K.collection, K.draft f⟩, K.withErrors f .empty)) ∨
      (¬ ∀ rule ∈ K.rules f, rule.holds = true) ∧
        K.prepare f = (none, K.withErrors f ((K.rules f).foldl FieldErrors.check .empty)) := by
  rw [h.prepare f]
  obtain ⟨hall, hvalid⟩ | ⟨hnot, hvalid⟩ :=
    FieldErrors.toExcept_check (K.rules f) (K.draft f) (h.distinct f)
  · exact .inl ⟨hall, by rw [hvalid]⟩
  · exact .inr ⟨hnot, by rw [hvalid]⟩

theorem IsRegular.course_send (h : K.IsRegular) (f : φ) (c : Circumstances) (n : Nat) :
    ((K.send ⟨K.mode f, K.collection, K.draft f⟩).course c n).1 =
      [.send (K.request f) (c.reply n)] := by
  obtain ⟨read, hsend⟩ := h.send
  rw [hsend, request, SaveRequest.send, ← h.encode, ← h.path]
  cases K.mode f with
  | create => rfl
  | edit id => rfl

theorem IsRegular.prepare_withErrors (h : K.IsRegular) (f : φ) (errors : FieldErrors) :
    K.prepare (K.withErrors f errors) = K.prepare f := by
  obtain ⟨hmode, hrules, hdraft, hagain⟩ := h.withErrors f errors
  simp only [h.prepare, hmode, hrules, hdraft, hagain]

/-- **What one kind of forms has to be like.** -/
theorem IsRegular.checksWell (h : K.IsRegular) (f : φ) : K.ChecksWell f := by
  obtain ⟨complete, hsubmit⟩ := h.submit
  obtain ⟨hall, hprepare⟩ | ⟨hnot, hprepare⟩ := h.prepare_cases f
  · exact {
      distinct := h.distinct f
      ready := by rw [hprepare]; exact iff_of_true rfl hall
      passed := fun r hr => by
        rw [hprepare] at hr ⊢
        exact ⟨(Option.some.inj hr).symm, rfl⟩
      failed := fun hnone => by rw [hprepare] at hnone; cases hnone
      sent := fun r hr c n => by
        rw [hprepare] at hr
        obtain rfl := Option.some.inj hr
        exact h.course_send f c n
      submitted := fun _ c n => by
        rw [hsubmit, hprepare]
        -- the outcome is applied and shown only after the request
        show ∃ t, ((Work.bind _ _).course c n).1 = _
        rw [Work.course_bind, h.course_send]
        exact ⟨_, rfl⟩
      unsubmitted := fun hnone => by rw [hprepare] at hnone; cases hnone
      fresh := h.prepare_withErrors f }
  · exact {
      distinct := h.distinct f
      ready := by rw [hprepare]; exact iff_of_false Bool.false_ne_true hnot
      passed := fun r hr => by rw [hprepare] at hr; cases hr
      failed := fun _ => ⟨_, by rw [hprepare], FieldErrors.entries_check (h.distinct f)⟩
      sent := fun r hr => by rw [hprepare] at hr; cases hr
      submitted := fun hsome => by rw [hprepare] at hsome; cases hsome
      unsubmitted := fun _ c n => by rw [hsubmit, hprepare]; rfl
      fresh := h.prepare_withErrors f }

/-! ### Each kind -/

theorem distinct_characteristic (f : CharacteristicForm) :
    ((characteristic.rules f).map FieldRule.field).Nodup := by
  simp [characteristic, FieldRule.text]

theorem distinct_specification (f : SpecificationForm) :
    ((specification.rules f).map FieldRule.field).Nodup := by
  simp [specification, FieldRule.text]

theorem distinct_pricing (f : PricingForm) :
    ((pricing.rules f).map FieldRule.field).Nodup := by
  simp [pricing, FieldRule.text, FieldRule.field_amount]

theorem distinct_offering (f : OfferingForm) :
    ((offering.rules f).map FieldRule.field).Nodup := by
  simp [offering, FieldRule.text]

theorem validate_characteristic (f : CharacteristicForm) :
    f.validate =
      ((characteristic.rules f).foldl FieldErrors.check .empty).toExcept
        (characteristic.draft f) := by
  simp only [characteristic, List.foldl_cons, List.foldl_nil, FieldErrors.check, FieldRule.text,
    CharacteristicForm.validate, FieldErrors.requireText]

theorem validate_specification (f : SpecificationForm) :
    f.validate =
      ((specification.rules f).foldl FieldErrors.check .empty).toExcept
        (specification.draft f) := by
  simp only [specification, List.foldl_cons, List.foldl_nil, FieldErrors.check, FieldRule.text,
    SpecificationForm.validate, FieldErrors.requireText]

theorem validate_offering (f : OfferingForm) :
    f.validate =
      ((offering.rules f).foldl FieldErrors.check .empty).toExcept (offering.draft f) := by
  simp only [offering, List.foldl_cons, List.foldl_nil, FieldErrors.check, FieldRule.text,
    OfferingForm.validate, FieldErrors.requireText]

/-- An amount that is not right is taken for zero. -/
theorem validate_pricing_amountOf (f : PricingForm) :
    f.validate = ((pricing.rules f).foldl FieldErrors.check .empty).toExcept
      { pricing.draft f with value := (PricingForm.amountOf f.value).toOption.getD .zero } := by
  simp only [pricing, List.foldl_cons, List.foldl_nil, FieldErrors.check, FieldRule.text,
    FieldRule.amount, PricingForm.validate, PricingForm.amountOf, FieldErrors.requireText]
  cases hread : Binary64.ofText (Text.trim f.value) with
  | error e => rfl
  | ok x =>
    cases hpositive : (x.isFinite && x.isPositive) with
    | true => simp only [FieldErrors.require, hpositive, if_true, Except.toOption, Option.getD_some]
    | false =>
      simp only [FieldErrors.require, hpositive, Bool.false_eq_true, if_false, Except.toOption,
        Option.getD_none]

theorem validate_pricing (f : PricingForm) :
    f.validate = ((pricing.rules f).foldl FieldErrors.check .empty).toExcept (pricing.draft f) := by
  rw [validate_pricing_amountOf]
  refine FieldErrors.toExcept_check_congr (distinct_pricing f) fun hall => ?_
  have hamount : (FieldRule.amount f.value).holds = true := hall _ (by simp [pricing])
  obtain ⟨x, hread, hamountOf⟩ := FieldRule.amountOf_of_holds hamount
  simp only [pricing, hread, hamountOf, Except.toOption]

theorem encode_characteristic (f : CharacteristicForm) :
    characteristic.encode (characteristic.draft f) = .object (characteristic.members f) := by
  simp only [characteristic, CharacteristicDraft.encode, UnitOfMeasure.encode, Json.ofMembers,
    Json.Members.insert, List.foldl_cons, List.foldl_nil, String.reduceLT, String.reduceEq,
    ↓reduceIte]

theorem encode_specification (f : SpecificationForm) :
    specification.encode (specification.draft f) = .object (specification.members f) := by
  simp only [specification, SpecificationDraft.encode, encodeTexts, Json.ofMembers,
    Json.Members.insert, List.foldl_cons, List.foldl_nil, String.reduceLT, ↓reduceIte]

theorem encode_pricing (f : PricingForm) :
    pricing.encode (pricing.draft f) = .object (pricing.members f) := by
  simp only [pricing, PriceDraft.encode, Currency.encode, Json.ofMembers, Json.Members.insert,
    List.foldl_cons, List.foldl_nil, String.reduceLT, String.reduceEq, ↓reduceIte]

/-- A description is written only where there is one. -/
theorem encode_offering (f : OfferingForm) :
    offering.encode (offering.draft f) = .object (offering.members f) := by
  have hchannels : f.channels.map SalesChannel.encode = f.channels.map fun c => .text c.label := rfl
  dsimp only [offering, OfferingDraft.encode]
  by_cases hblank : Text.trim f.description = ""
  · rw [if_pos hblank, if_pos hblank, hchannels]
    simp only [encodeTexts, Json.ofMembers, Json.Members.insert, List.cons_append, List.nil_append,
      List.append_nil, List.foldl_cons, List.foldl_nil, String.reduceLT, String.reduceEq,
      ↓reduceIte]
  · rw [if_neg hblank, if_neg hblank, hchannels]
    simp only [encodeTexts, Json.ofMembers, Json.Members.insert, List.cons_append, List.nil_append,
      List.foldl_cons, List.foldl_nil, String.reduceLT, String.reduceEq, ↓reduceIte]

theorem isRegular_characteristic : characteristic.IsRegular where
  path := rfl
  distinct := distinct_characteristic
  prepare f := by
    rw [← validate_characteristic]
    dsimp only [characteristic]
    unfold CharacteristicForm.prepare
    cases f.validate <;> rfl
  encode := encode_characteristic
  send := ⟨Characteristic.decode, fun r => by dsimp only [characteristic, CharacteristicForm.send]⟩
  submit := ⟨CharacteristicForm.complete, fun f => by
    dsimp only [characteristic, CharacteristicForm.submit]⟩
  withErrors f errors := by
    dsimp only [characteristic]
    exact ⟨rfl, rfl, rfl, fun _ => rfl⟩

theorem isRegular_specification : specification.IsRegular where
  path := rfl
  distinct := distinct_specification
  prepare f := by
    rw [← validate_specification]
    dsimp only [specification]
    unfold SpecificationForm.prepare
    cases f.validate <;> rfl
  encode := encode_specification
  send := ⟨Specification.decode, fun r => by dsimp only [specification, SpecificationForm.send]⟩
  submit := ⟨SpecificationForm.complete, fun f => by
    dsimp only [specification, SpecificationForm.submit]⟩
  withErrors f errors := by
    dsimp only [specification]
    exact ⟨rfl, rfl, rfl, fun _ => rfl⟩

theorem isRegular_pricing : pricing.IsRegular where
  path := rfl
  distinct := distinct_pricing
  prepare f := by
    rw [← validate_pricing]
    dsimp only [pricing]
    unfold PricingForm.prepare
    cases f.validate <;> rfl
  encode := encode_pricing
  send := ⟨Price.decode, fun r => by dsimp only [pricing, PricingForm.send]⟩
  submit := ⟨PricingForm.complete, fun f => by dsimp only [pricing, PricingForm.submit]⟩
  withErrors f errors := by
    dsimp only [pricing]
    exact ⟨rfl, rfl, rfl, fun _ => rfl⟩

theorem isRegular_offering : offering.IsRegular where
  path := rfl
  distinct := distinct_offering
  prepare f := by
    rw [← validate_offering]
    dsimp only [offering]
    unfold OfferingForm.prepareDraft
    cases f.validate <;> rfl
  encode := encode_offering
  send := ⟨Offering.decode, fun r => by dsimp only [offering, OfferingForm.send]⟩
  submit := ⟨OfferingForm.completeDraft, fun f => by
    dsimp only [offering]
    unfold OfferingForm.saveDraft submitForm
    rcases f.prepareDraft with ⟨_ | request, g⟩ <;> rfl⟩
  withErrors f errors := by
    dsimp only [offering]
    exact ⟨rfl, rfl, rfl, fun _ => rfl⟩

end FormKind

/-- **All forms check well**, whatever they are filled in with and whatever was attempted with
    them before. -/
theorem forms_check_well :
    (∀ f, FormKind.characteristic.ChecksWell f) ∧ (∀ f, FormKind.specification.ChecksWell f) ∧
      (∀ f, FormKind.pricing.ChecksWell f) ∧ ∀ f, FormKind.offering.ChecksWell f :=
  ⟨FormKind.isRegular_characteristic.checksWell, FormKind.isRegular_specification.checksWell,
    FormKind.isRegular_pricing.checksWell, FormKind.isRegular_offering.checksWell⟩

end CatalogDesk
