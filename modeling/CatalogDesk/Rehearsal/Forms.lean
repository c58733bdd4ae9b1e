import CatalogDesk.Rehearsal.Seen.Values
import CatalogDesk.Rehearsal.Steps

/-! # Rehearsing forms

    The four forms are rehearsed in the same way: fields are set, the form is checked,
    saved over a prepared gateway, and its options are loaded.  What differs from form to
    form is collected in a `Subject`. -/

namespace CatalogDesk.Rehearsal

/-- What the outcome of a request does to a form. -/
structure Applied (φ : Type) where
  form : φ
  toasts : List Toast := []
  result : Json := .null
  /-- The number of the watch that was started. -/
  watch : Option Nat := none

/-- What a step does to a form: at once, or when its work has been done. -/
inductive Effect (φ : Type) where
  | now (a : Applied φ)
  | later (a : Applied φ) (w : Work (φ → Applied φ))

/-- A kind of forms. -/
structure Subject (φ : Type) where
  blank : φ
  /-- Opens a record. -/
  edit : Json → Answered φ
  seen : φ → Json
  set : φ → String → Json → Answered φ
  /-- All other steps. -/
  act : φ → Json → String → Answered (Effect φ)

/-- A form with the work around it. -/
structure FormRun (φ : Type) where
  form : φ
  sched : Scheduler (φ → Applied φ)
  /-- Numbers of the watches that were started. -/
  handles : List Nat := []

namespace FormRun

variable {φ : Type}

/-- Applies what a step did. -/
def apply (r : FormRun φ) (a : Applied φ) : FormRun φ × Json :=
  ({ form := a.form
     sched := { r.sched with toasts := r.sched.toasts ++ a.toasts }
     handles := r.handles ++ a.watch.toList }, a.result)

/-- Carries a step out to the end. -/
def carryOut (r : FormRun φ) : Effect φ → FormRun φ × Json
  | .now a => r.apply a
  | .later a w =>
    let (r, _) := r.apply a
    match complete r.sched w with
    | (none, sched) => ({ r with sched }, .null)
    | (some f, sched) => apply { r with sched } (f r.form)

/-- The entry of a step. -/
def see (s : Subject φ) (r : FormRun φ) (result : Json) : FormRun φ × Json :=
  let sched := r.sched.settle
  ({ r with sched := lookedAt sched }, .ofMembers [("result", result), ("form", s.seen r.form),
    ("requests", requestsJson sched), ("toasts", toastsJson sched),
    ("watches", .list (r.handles.map (stateJson sched.watcher))),
    ("published", publishedJson sched)])

def step (s : Subject φ) : Play (FormRun φ) := fun r j name => do
  match name with
  | "set" =>
    return ({ r with form := (← s.set r.form (j.textAt "field") (j.valueAt "value")) }, .null)
  | "edit" =>
    match j.present? "record" with
    | none => return ({ r with form := s.blank }, .null)
    | some record => return ({ r with form := (← s.edit record) }, .null)
  | "sleep" => return ({ r with sched := slept r.sched j }, .null)
  | _ => return r.carryOut (← s.act r.form j name)

/-- Rehearses a form, from the record that it is opened with or from a blank form. -/
def rehearse (s : Subject φ) (j : Json) : Answered Json := do
  let form ← match j.present? "edit" with
    | none => .ok s.blank
    | some record => s.edit record
  playFrom j (s.seen form) { form, sched := schedulerOf j } (see s) (step s)

end FormRun

/-! ## The kinds of forms -/

/-- The text that a field is set to. -/
def fieldText (v : Json) : String := (v.asText?).getD ""

/-- The texts that a field is set to. -/
def fieldTexts : Json → List String
  | .list xs => xs.filterMap Json.asText?
  | _ => []

def unknownField (name : String) : Answered α := .error (.unknownField name)

/-- An effect that only shows something. -/
def shown (form : φ) (result : Json) : Answered (Effect φ) := .ok (.now { form, result })

/-- An effect that only changes the form. -/
def changed (form : φ) : Answered (Effect φ) := .ok (.now { form })

/-- Shows a checked request. -/
def prepared (encode : π → Json) (p : Option (SaveRequest π) × φ) : Answered (Effect φ) :=
  shown p.2 (.ofOption (saveRequestJson encode) p.1)

/-- Applies the outcome of saving. -/
def savedAs (encode : α → Json) (p : SaveOutcome α × Toast × φ) : Applied φ :=
  { form := p.2.2, toasts := [p.2.1], result := saveOutcomeJson encode p.1 }

/-- Saves a form; `form` is what is shown until then. -/
def submitted (encode : α → Json) (form : φ) (w : Work (SaveOutcome α × φ)) :
    Answered (Effect φ) :=
  .ok (.later { form } (w.bind fun (outcome, form) =>
    .done fun _ => { form, result := saveOutcomeJson encode outcome }))

namespace Subject

def characteristic : Subject CharacteristicForm where
  blank := .new
  edit v := return .edit (← decoded (Characteristic.decode v))
  seen := characteristicFormJson
  set f field v :=
    match field with
    | "name" => .ok { f with name := fieldText v }
    | "value" => .ok { f with value := fieldText v }
    | "unit_of_measure" => return { f with unit := (← decoded (UnitOfMeasure.decode v)) }
    | _ => unknownField field
  act f s name :=
    let apply (f : CharacteristicForm) (r : Except Failure Characteristic) :=
      savedAs Characteristic.encode (f.complete r)
    match name with
    | "validate" => shown f (checkedJson CharacteristicDraft.encode f.validate)
    | "prepare" => prepared CharacteristicDraft.encode f.prepare
    | "submit" => submitted Characteristic.encode f.prepare.2 f.submit
    | "complete" => return .now (apply f (← decoded (outcomeOf Characteristic.decode s)))
    | _ => unknownStep name

def specification : Subject SpecificationForm where
  blank := .new
  edit v := return .edit (← decoded (Specification.decode v))
  seen := specificationFormJson
  set f field v :=
    match field with
    | "name" => .ok { f with name := fieldText v }
    | "characteristic_ids" => .ok { f with characteristicIds := fieldTexts v }
    | _ => unknownField field
  act f s name :=
    let apply (f : SpecificationForm) (r : Except Failure Specification) :=
      savedAs Specification.encode (f.complete r)
    match name with
    | "validate" => shown f (checkedJson SpecificationDraft.encode f.validate)
    | "prepare" => prepared SpecificationDraft.encode f.prepare
    | "submit" => submitted Specification.encode f.prepare.2 f.submit
    | "complete" => return .now (apply f (← decoded (outcomeOf Specification.decode s)))
    | "toggle" => changed (f.toggleCharacteristic (s.textAt "id"))
    | "begin_refresh" => changed f.beginOptions
    | "load_options" =>
      .ok (.later { form := f.beginOptions } (SpecificationForm.fetchOptions.bind fun r =>
        .done fun f => { form := (f.applyOptions r).2, toasts := (f.applyOptions r).1 }))
    | _ => unknownStep name

def pricing : Subject PricingForm where
  blank := .new
  edit v := do permitted (PricingForm.edit (← decoded (Price.decode v)))
  seen := pricingFormJson
  set f field v :=
    match field with
    | "name" => .ok { f with name := fieldText v }
    | "value" => .ok { f with value := fieldText v }
    | "unit" => .ok { f with unit := fieldText v }
    | "currency" => return { f with currency := (← decoded (Currency.decode v)) }
    | _ => unknownField field
  act f s name :=
    let apply (f : PricingForm) (r : Except Failure Price) := savedAs Price.encode (f.complete r)
    match name with
    | "validate" => shown f (checkedJson PriceDraft.encode f.validate)
    | "prepare" => prepared PriceDraft.encode f.prepare
    | "submit" => submitted Price.encode f.prepare.2 f.submit
    | "complete" => return .now (apply f (← decoded (outcomeOf Price.decode s)))
    | _ => unknownStep name

/-- What came of an attempt to publish. -/
def publishedAs (attempt : PublishAttempt) (form : OfferingForm) : Applied OfferingForm :=
  match attempt with
  | .invalid => { form, result := .text "invalid" }
  | .refused why => { form, result := .ofMembers [("rejected", .text why.message)] }
  | .failed m => { form, result := .ofMembers [("failed", .text m)] }
  | .started o watch =>
    { form, watch
      result := .ofMembers [("started", o.encode), ("is_started", .bool true),
        ("watched", .ofOption (fun _ => .bool true) watch)] }

def offering : Subject OfferingForm where
  blank := .new
  edit v := do permitted (OfferingForm.edit (← decoded (Offering.decode v)))
  seen := offeringFormJson
  set f field v :=
    match field with
    | "name" => .ok { f with name := fieldText v }
    | "description" => .ok { f with description := fieldText v }
    | "specification_ids" => .ok { f with specificationIds := fieldTexts v }
    | "price_ids" => .ok { f with priceIds := fieldTexts v }
    | "sales_channels" =>
      .ok { f with channels := (fieldTexts v).filterMap SalesChannel.ofLabel? }
    | _ => unknownField field
  act f s name :=
    let apply (f : OfferingForm) (r : Except Failure Offering) :=
      savedAs Offering.encode (f.completeDraft r)
    match name with
    | "validate" => shown f (checkedJson OfferingDraft.encode f.validate)
    | "prepare" => prepared OfferingDraft.encode f.prepareDraft
    | "submit" => submitted Offering.encode f.prepareDraft.2 f.saveDraft
    | "complete" => return .now (apply f (← decoded (outcomeOf Offering.decode s)))
    | "publish" =>
      .ok (.later { form := f.prepareDraft.2 } (f.publish.bind fun (attempt, form) =>
        .done fun _ => publishedAs attempt form))
    | "toggle_specification" => changed (f.toggleSpecification (s.textAt "id"))
    | "toggle_price" => changed (f.togglePrice (s.textAt "id"))
    | "toggle_channel" =>
      match SalesChannel.ofLabel? (s.textAt "id") with
      | some c => changed (f.toggleChannel c)
      | none => changed f
    | "begin_refresh" => changed f.beginOptions
    | "load_options" =>
      .ok (.later { form := f.beginOptions } (OfferingForm.fetchOptions.bind fun r =>
        .done fun f => { form := (f.applyOptions r).2, toasts := (f.applyOptions r).1 }))
    | _ => unknownStep name

end Subject

/-- Rehearses the form of the named kind. -/
def rehearseForm (j : Json) : Answered Json :=
  match j.textAt "form" with
  | "characteristic" => FormRun.rehearse Subject.characteristic j
  | "specification" => FormRun.rehearse Subject.specification j
  | "pricing" => FormRun.rehearse Subject.pricing j
  | "offering" => FormRun.rehearse Subject.offering j
  | kind => .error (.unknownForm kind)

end CatalogDesk.Rehearsal
