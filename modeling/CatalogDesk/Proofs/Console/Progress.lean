import CatalogDesk.Proofs.Console.Gauge
import Mathlib.Data.List.Perm.Basic

/-! # Progress that is shown

    The screens show that something is going on by flags of their own, which are set where a
    job is ordered and reset where its outcome is taken, in other steps and often on other
    screens.

    A *ledger* follows a run of the console with the jobs that are in flight, each from its
    order until its outcome has been taken.  Main result: `progress_sound` says that no flag
    can be stuck: each of them is set only while a job of its own is in flight, and those of
    the panels and of the store exactly then. -/

namespace CatalogDesk

/-! ## The ledger -/

/-- What can happen: anything to the console, and the end of a job in flight, which is told
    by its place. -/
inductive JobEvent
  | console (input : ConsoleInput)
  | finish (place : Nat) (s : SessionContext) (c : Circumstances)

/-- The console, and the jobs that it has ordered whose outcome it has not taken yet. -/
structure JobLedger where
  console : Console
  inFlight : List Job := []

namespace JobLedger

/-- A step of the console, with the jobs that it orders. -/
def follow (l : JobLedger) (input : ConsoleInput) : JobLedger where
  console := (l.console.step input).2
  inFlight := l.inFlight ++ jobs (l.console.step input).1

/-- The outcome of a job is taken. -/
def finish (l : JobLedger) (place : Nat) (s : SessionContext) (c : Circumstances) : JobLedger :=
  match l.inFlight[place]? with
  | none => l
  | some j =>
    { l with inFlight := l.inFlight.eraseIdx place }.follow (.take s (j.outcome c))

/-- One event; the console takes the outcome of a job from the job only. -/
def step (l : JobLedger) : JobEvent → JobLedger
  | .console (.take s o) => if o.isUnasked then l.follow (.take s o) else l
  | .console input => l.follow input
  | .finish place s c => l.finish place s c

def after (l : JobLedger) (events : List JobEvent) : JobLedger :=
  events.foldl step l

/-- No flag is stuck. -/
structure Sound (l : JobLedger) : Prop where
  table : ∀ c, l.console.viewer.isLoading c = true → .list c ∈ l.inFlight
  /-- A panel is busy exactly while a job of its own is in flight, and never with two. -/
  panel : ∀ tab, (l.inFlight.countP fun j => j.panel? == some tab) =
    if (l.console.builder.lights tab).busy then 1 else 0
  specificationOptions : l.console.builder.specification.form.loadingOptions = true →
    .fetchCharacteristics ∈ l.inFlight
  offeringOptions : l.console.builder.offering.form.loadingOptions = true →
    .fetchOptions ∈ l.inFlight
  /-- The store is loading exactly while the search with the newest number is in flight. -/
  store : l.inFlight.countP (Job.searches l.console.shop.browser.generation) =
    if l.console.shop.browser.loading then 1 else 0
  newest : ∀ t, .search t ∈ l.inFlight → t.generation ≤ l.console.shop.browser.generation
  signIn : l.console.signIn.phase = .validating → ∃ c, .signIn c ∈ l.inFlight

/-- The part of the invariant that is read off the gauge. -/
structure Covers (inFlight : List Job) (g : Gauge) : Prop where
  busy : ∀ tab, (inFlight.countP fun j => j.panel? == some tab) = (g.lights tab).busy.toNat
  loading : ∀ tab, (g.lights tab).loading = true → ∃ j ∈ inFlight, j.fetches? = some tab
  validating : g.validating = true → ∃ c, .signIn c ∈ inFlight
  searching : inFlight.countP (Job.searches g.generation) = g.searching.toNat
  newest : ∀ t, .search t ∈ inFlight → t.generation ≤ g.generation

/-- The invariant that every event preserves. -/
structure Kept (l : JobLedger) : Prop where
  tables : ∀ c, l.console.viewer.isLoading c = true → .list c ∈ l.inFlight
  gauge : Covers l.inFlight l.console.gauge

variable {inFlight ordered : List Job} {g g' : Gauge} {l : JobLedger}

/-! ### Jobs that are ordered -/

theorem countP_searches_eq_zero {generation : Nat}
    (h : ∀ t, .search t ∈ inFlight → t.generation ≠ generation) :
    inFlight.countP (Job.searches generation) = 0 := by
  refine List.countP_eq_zero.mpr fun j hj => ?_
  cases j with
  | search t =>
    intro hsearches
    exact h t hj (beq_iff_eq.mp hsearches)
  | _ => exact Bool.false_ne_true

theorem mem_search_iff {t : SearchTicket} :
    .search t ∈ ordered ↔ t ∈ ordered.filterMap Job.ticket? := by
  rw [List.mem_filterMap]
  constructor
  · intro hmem
    exact ⟨.search t, hmem, rfl⟩
  · rintro ⟨j, hmem, hticket⟩
    cases j with
    | search u =>
      cases hticket
      exact hmem
    | _ => cases hticket

theorem countP_searches_eq (ordered : List Job) (generation : Nat) :
    ordered.countP (Job.searches generation) =
      (ordered.filterMap Job.ticket?).countP fun t => t.generation == generation := by
  rw [List.countP_filterMap]
  refine List.countP_congr fun j _ => ?_
  unfold Job.searches
  cases j.ticket? <;> rfl

theorem covers_searching (h : Covers inFlight g) (hpaces : g.Paces ordered g') :
    (inFlight ++ ordered).countP (Job.searches g'.generation) = g'.searching.toNat ∧
      ∀ t, .search t ∈ inFlight ++ ordered → t.generation ≤ g'.generation := by
  rw [List.countP_append, countP_searches_eq ordered]
  obtain ⟨hnone, hsearching, hgeneration⟩ | ⟨t, hsome, hticket, hsearching, hgeneration⟩ :=
    hpaces.searching
  · rw [hnone, hsearching, hgeneration]
    refine ⟨h.searching, fun u hu => ?_⟩
    rcases List.mem_append.mp hu with hold | hnew
    · exact h.newest u hold
    · rw [mem_search_iff, hnone] at hnew
      cases hnew
  · -- the searches that were in flight before are out of date from now on
    have hold : inFlight.countP (Job.searches g'.generation) = 0 := by
      refine countP_searches_eq_zero fun u hu heq => ?_
      have hle := h.newest u hu
      omega
    have hnew : ([t].countP fun u => u.generation == g'.generation) = 1 := by
      rw [List.countP_singleton, if_pos (beq_iff_eq.mpr (hticket.trans hgeneration.symm))]
    rw [hsome, hold, hnew, hsearching]
    refine ⟨rfl, fun u hu => ?_⟩
    rcases List.mem_append.mp hu with hbefore | hordered
    · have hle := h.newest u hbefore
      omega
    · rw [mem_search_iff, hsome, List.mem_singleton] at hordered
      subst hordered
      omega

/-- **Step lemma** for the jobs that are ordered. -/
theorem covers_paces (h : Covers inFlight g) (hpaces : g.Paces ordered g') :
    Covers (inFlight ++ ordered) g' where
  busy tab := by rw [List.countP_append, h.busy, hpaces.busy]
  loading tab hon := by
    rcases hpaces.loading tab hon with hbefore | ⟨j, hj, hfetches⟩
    · obtain ⟨j, hj, hfetches⟩ := h.loading tab hbefore
      exact ⟨j, List.mem_append_left _ hj, hfetches⟩
    · exact ⟨j, List.mem_append_right _ hj, hfetches⟩
  validating hon := by
    rcases hpaces.validating hon with hbefore | ⟨c, hc⟩
    · obtain ⟨c, hc⟩ := h.validating hbefore
      exact ⟨c, List.mem_append_left _ hc⟩
    · exact ⟨c, List.mem_append_right _ hc⟩
  searching := (covers_searching h hpaces).1
  newest := (covers_searching h hpaces).2

/-! ### Jobs that end -/

/-- If a job with the flag was in flight it was the only one. -/
theorem countP_off {p : Job → Bool} {j : Job} {flag : Bool} {rest : List Job}
    (h : (j :: rest).countP p = flag.toNat) : rest.countP p = (!p j && flag).toNat := by
  rw [List.countP_cons] at h
  cases hp : p j with
  | false =>
    rw [hp] at h
    exact h
  | true =>
    rw [hp, if_pos rfl] at h
    have hle := flag.toNat_le
    have hzero : rest.countP p = 0 := by omega
    rw [hzero]
    rfl

/-- **Step lemma** for a job that ends. -/
theorem covers_off {j : Job} {rest : List Job} (h : Covers (j :: rest) g) :
    Covers rest (g.off j) where
  busy tab := countP_off (h.busy tab)
  loading tab hon := by
    obtain ⟨hother, hbefore⟩ := Bool.and_eq_true_iff.mp hon
    obtain ⟨k, hk, hfetches⟩ := h.loading tab hbefore
    rcases List.mem_cons.mp hk with rfl | hrest
    · exact absurd hfetches (bne_iff_ne.mp hother)
    · exact ⟨k, hrest, hfetches⟩
  validating hon := by
    obtain ⟨hother, hbefore⟩ := Bool.and_eq_true_iff.mp hon
    obtain ⟨c, hc⟩ := h.validating hbefore
    rcases List.mem_cons.mp hc with rfl | hrest
    · cases hother
    · exact ⟨c, hrest⟩
  searching := countP_off h.searching
  newest t ht := h.newest t (List.mem_cons_of_mem j ht)

theorem Covers.perm {others : List Job} (h : Covers inFlight g) (hperm : inFlight.Perm others) :
    Covers others g where
  busy tab := by rw [← hperm.countP_eq, h.busy]
  loading tab hon := by
    obtain ⟨j, hj, hfetches⟩ := h.loading tab hon
    exact ⟨j, hperm.mem_iff.mp hj, hfetches⟩
  validating hon := by
    obtain ⟨c, hc⟩ := h.validating hon
    exact ⟨c, hperm.mem_iff.mp hc⟩
  searching := by rw [← hperm.countP_eq, h.searching]
  newest t ht := h.newest t (hperm.mem_iff.mpr ht)

/-! ### Events -/

/-- The table of a listing that has ended is no longer loading. -/
theorem isLoading_apply (v : Viewer) {c : Collection} {result : Except Failure CatalogRecords}
    (h : ∀ records, result = .ok records → records.collection = c) (d : Collection) :
    (v.apply c result).isLoading d = if d = c then false else v.isLoading d := by
  cases result with
  | error f => cases c <;> cases d <;> rfl
  | ok records =>
    have hc := h records rfl
    subst hc
    cases records <;> cases d <;> rfl

theorem kept_follow (h : l.Kept) {input : ConsoleInput}
    (hinput : ∀ s o, input = .take s o → o.isUnasked = true) : (l.follow input).Kept where
  tables c hon := by
    have hlists : l.console.Lists (l.console.step input) :=
      l.console.lists_step fun s collection result heq => Bool.false_ne_true (hinput s _ heq)
    rw [follow, (hlists c).2, Bool.or_eq_true, List.contains_iff_mem] at hon
    rcases hon with hasked | hbefore
    · exact List.mem_append_right _ (mem_asked_iff.mp hasked)
    · exact List.mem_append_left _ (h.tables c hbefore)
  gauge := covers_paces h.gauge (l.console.paces_step hinput)

/-- A table whose listing has ended is not loading, and one that is loading still waits for
    another job than the one that has ended. -/
theorem tables_take {j : Job} {o : Outcome} {rest : List Job} {console : Console}
    (s : SessionContext) (h : j.Answers o)
    (htables : ∀ c, console.viewer.isLoading c = true → .list c ∈ j :: rest) (c : Collection)
    (hon : (console.take s o).2.viewer.isLoading c = true) :
    .list c ∈ rest ++ jobs (console.take s o).1 := by
  have hother (hne : j ≠ .list c) (hbefore : console.viewer.isLoading c = true) :
      .list c ∈ rest ++ jobs (console.take s o).1 := by
    rcases List.mem_cons.mp (htables c hbefore) with heq | hrest
    · exact absurd heq.symm hne
    · exact List.mem_append_left _ hrest
  by_cases hlisted : ∃ collection result, o = .listed collection result
  · obtain ⟨collection, result, rfl⟩ := hlisted
    cases h with
    | list _ _ hcollection =>
      have happly : true = if c = collection then false else console.viewer.isLoading c :=
        hon.symm.trans (isLoading_apply console.viewer hcollection c)
      by_cases hc : c = collection
      · rw [if_pos hc] at happly
        cases happly
      · rw [if_neg hc] at happly
        refine hother ?_ happly.symm
        rintro heq
        exact hc (Job.list.inj heq).symm
  · have hlists : console.Lists (console.take s o) :=
      console.lists_take s fun collection result heq => hlisted ⟨collection, result, heq⟩
    rw [(hlists c).2, Bool.or_eq_true, List.contains_iff_mem] at hon
    rcases hon with hasked | hbefore
    · exact List.mem_append_right _ (mem_asked_iff.mp hasked)
    · refine hother ?_ hbefore
      rintro rfl
      cases h with
      | list _ result _ => exact hlisted ⟨c, result, rfl⟩

theorem kept_finish (h : l.Kept) (place : Nat) (s : SessionContext) (c : Circumstances) :
    (l.finish place s c).Kept := by
  unfold finish
  split
  · exact h
  · rename_i j hj
    obtain ⟨hlt, hget⟩ := List.getElem?_eq_some_iff.mp hj
    have hperm : l.inFlight.Perm (j :: l.inFlight.eraseIdx place) :=
      hget ▸ (List.getElem_cons_eraseIdx_perm hlt).symm
    have hanswers := j.answers_outcome c
    constructor
    · exact tables_take s hanswers fun collection hon => hperm.mem_iff.mp (h.tables collection hon)
    · exact covers_paces (covers_off (h.gauge.perm hperm)) (l.console.paces_take s hanswers)

/-- **Step lemma.** -/
theorem kept_step (h : l.Kept) (e : JobEvent) : (l.step e).Kept := by
  unfold step
  split
  · split
    · rename_i s o hunasked
      refine kept_follow h fun s' o' heq => ?_
      cases heq
      exact hunasked
    · exact h
  · rename_i input hinput
    exact kept_follow h fun s o heq => absurd heq (hinput s o)
  · exact kept_finish h _ _ _

/-! ### Runs of the console with its jobs -/

theorem kept_start (settings : Settings) (remembered : Remembered) :
    Kept { console := .new settings remembered } where
  tables c hon := by
    cases c <;> cases hon
  gauge := by
    constructor
    · intro tab
      cases tab <;> rfl
    · intro tab hon
      cases tab <;> cases hon
    · exact nofun
    · rfl
    · exact nofun

/-- **Run lemma.** -/
theorem kept_after (h : l.Kept) (events : List JobEvent) : (l.after events).Kept := by
  induction events generalizing l with
  | nil => exact h
  | cons e events ih => exact ih (kept_step h e)

theorem Kept.sound (h : l.Kept) : l.Sound where
  table := h.tables
  panel tab := (h.gauge.busy tab).trans (Bool.cond_eq_ite _ _ _)
  specificationOptions hon := by
    obtain ⟨j, hj, hfetches⟩ := h.gauge.loading .specification hon
    cases j with
    | fetchCharacteristics => exact hj
    | _ => cases hfetches
  offeringOptions hon := by
    obtain ⟨j, hj, hfetches⟩ := h.gauge.loading .offering hon
    cases j with
    | fetchOptions => exact hj
    | _ => cases hfetches
  store := h.gauge.searching.trans (Bool.cond_eq_ite _ _ _)
  newest := h.gauge.newest
  signIn hon := h.gauge.validating (beq_iff_eq.mpr hon)

/-- Whatever the settings are and whatever was remembered, and in whatever order keys are
    pressed, jobs come to their ends and anything else happens: what the console shows to be
    going on is in flight. -/
theorem progress_sound (settings : Settings) (remembered : Remembered) (events : List JobEvent) :
    (({ console := .new settings remembered } : JobLedger).after events).Sound :=
  (kept_after (kept_start settings remembered) events).sound

end JobLedger

end CatalogDesk
