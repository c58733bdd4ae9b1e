import CatalogDesk.Proofs.Builder.Content
import CatalogDesk.Proofs.Console.Listings
import CatalogDesk.Proofs.Task.Course

/-! # Jobs and what they come to

    A job comes to one outcome, which depends on the circumstances.  The lemmas here say
    that it is an outcome of its own kind: `Job.Answers` lists the kinds, and `answers_outcome`
    says that there are no others.  Two kinds of outcomes come without a job. -/

namespace CatalogDesk

/-! ## Kinds of jobs -/

namespace Job

/-- The panel whose form the job saves or publishes. -/
def panel? : Job → Option BuilderTab
  | .saveCharacteristic _ => some .characteristic
  | .saveSpecification _ => some .specification
  | .savePrice _ => some .pricing
  | .saveDraft _ => some .offering
  | .submitOffering _ => some .offering
  | _ => none

/-- The panel for which the job fetches options. -/
def fetches? : Job → Option BuilderTab
  | .fetchCharacteristics => some .specification
  | .fetchOptions => some .offering
  | _ => none

def ticket? : Job → Option SearchTicket
  | .search t => some t
  | _ => none

def isSignIn : Job → Bool
  | .signIn _ => true
  | _ => false

/-- Does the job make the search with that number? -/
def searches (generation : Nat) (j : Job) : Bool :=
  j.ticket?.any fun t => t.generation == generation

/-- What the job comes to. -/
def outcome (j : Job) (c : Circumstances) : Outcome :=
  (j.work.course c 0).2

/-- The outcome is one to which the job can come. -/
inductive Answers : Job → Outcome → Prop
  | signIn c result : Answers (.signIn c) (.signedIn result)
  | saveCharacteristic r result : Answers (.saveCharacteristic r) (.characteristicSaved result)
  | saveSpecification r result : Answers (.saveSpecification r) (.specificationSaved result)
  | savePrice r result : Answers (.savePrice r) (.priceSaved result)
  | saveDraft r result : Answers (.saveDraft r) (.draftSaved result)
  | submitOffering r result : Answers (.submitOffering r) (.offeringSubmitted result)
  | fetchCharacteristics result : Answers .fetchCharacteristics (.characteristicsFetched result)
  | fetchOptions result : Answers .fetchOptions (.optionsFetched result)
  | list c result (h : ∀ records, result = .ok records → records.collection = c) :
      Answers (.list c) (.listed c result)
  | delete r result : Answers (.delete r) (.recordDone r.collection result)
  | publish o result : Answers (.publish o) (.recordDone .offerings result)
  | retire o result : Answers (.retire o) (.recordDone .offerings result)
  | search t result : Answers (.search t) (.searched t result)

theorem answers_of_work {α : Type} {j : Job} {w : Work α} {f : α → Outcome}
    (hanswers : ∀ result, j.Answers (f result)) (h : j.work = w.bind fun a => .done (f a))
    (c : Circumstances) : j.Answers (j.outcome c) := by
  rw [outcome, h, Work.course_bind_done]
  exact hanswers _

theorem answers_list (collection : Collection) (c : Circumstances) :
    Answers (.list collection) ((Job.list collection).outcome c) := by
  have hcourse : (Job.list collection).outcome c =
      .listed collection (collection.readListing (c.reply 0)) := by
    rw [outcome, work_list]
    simp only [Work.course]
    cases collection.readListing (c.reply 0) <;> rfl
  rw [hcourse]
  exact .list collection _ fun _ => ListingLedger.collection_readListing

/-- A job comes to an outcome of its own. -/
theorem answers_outcome (j : Job) (c : Circumstances) : j.Answers (j.outcome c) := by
  cases j with
  | list collection => exact answers_list collection c
  | signIn r => exact answers_of_work (.signIn r) rfl c
  | saveCharacteristic r => exact answers_of_work (.saveCharacteristic r) rfl c
  | saveSpecification r => exact answers_of_work (.saveSpecification r) rfl c
  | savePrice r => exact answers_of_work (.savePrice r) rfl c
  | saveDraft r => exact answers_of_work (.saveDraft r) rfl c
  | submitOffering r => exact answers_of_work (.submitOffering r) rfl c
  | fetchCharacteristics => exact answers_of_work .fetchCharacteristics rfl c
  | fetchOptions => exact answers_of_work .fetchOptions rfl c
  | delete r => exact answers_of_work (fun result => .delete r (unwatched result)) rfl c
  | publish o => exact answers_of_work (.publish o) rfl c
  | retire o => exact answers_of_work (fun result => .retire o (unwatched result)) rfl c
  | search t => exact answers_of_work (.search t) rfl c

end Job

/-- Does the outcome come without a job, from a watch or from the filters? -/
def Outcome.isUnasked : Outcome → Bool
  | .published _ => true
  | .settled _ => true
  | _ => false

/-! ## Orders -/

/-- The job that an order asks for, if it does. -/
def Order.job? : Order → Option Job
  | .job j => some j
  | _ => none

/-- The jobs that the orders ask for. -/
def jobs (orders : List Order) : List Job :=
  orders.filterMap Order.job?

@[simp] theorem jobs_map_toast (toasts : List Toast) : jobs (toasts.map .toast) = [] := by
  simp [jobs, List.filterMap_map, Function.comp_def, Order.job?]

@[simp] theorem jobs_map_job (ordered : List Job) : jobs (ordered.map .job) = ordered := by
  simp [jobs, List.filterMap_map, Function.comp_def, Order.job?]

theorem mem_asked_iff {c : Collection} {orders : List Order} :
    c ∈ asked orders ↔ .list c ∈ jobs orders := by
  simp only [asked, jobs, List.mem_filterMap]
  constructor
  · rintro ⟨order, horder, hc⟩
    refine ⟨order, horder, ?_⟩
    unfold Order.asked? at hc
    split at hc
    · cases hc
      rfl
    · cases hc
  · rintro ⟨order, horder, hc⟩
    refine ⟨order, horder, ?_⟩
    cases order with
    | job j =>
      cases hc
      rfl
    | _ => cases hc

end CatalogDesk
