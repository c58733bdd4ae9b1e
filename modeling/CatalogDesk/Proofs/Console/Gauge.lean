import CatalogDesk.Proofs.Builder.Busy
import CatalogDesk.Proofs.Console.Jobs
import CatalogDesk.Proofs.Store.Paging

/-! # What the console shows to be going on

    Besides its tables the console shows that a form is being saved, that options are being
    fetched, that somebody is being signed in, and that a search is running.  All that is read
    off a *gauge*.

    A step *paces* the gauge if a flag is set only together with the job that it stands for,
    and if the jobs of the panels and of the store are ordered only together with their flag.
    Main result: `paces_step` says that every step does so that takes no outcome of a job; and
    `paces_take` that an outcome does so once the flag of its job has been taken off. -/

namespace CatalogDesk

/-! ## The gauge -/

/-- What the console shows to be going on, besides the tables. -/
structure Gauge where
  lights : BuilderTab → Lights
  validating : Bool
  searching : Bool
  /-- The number of the newest search. -/
  generation : Nat

def Console.gauge (c : Console) : Gauge where
  lights := c.builder.lights
  validating := c.signIn.phase == .validating
  searching := c.shop.browser.loading
  generation := c.shop.browser.generation

namespace Gauge

variable {g g' : Gauge} {ordered : List Job}

/-- The gauge moves with the jobs that are ordered. -/
structure Paces (g : Gauge) (ordered : List Job) (g' : Gauge) : Prop where
  busy : ∀ tab, (g'.lights tab).busy.toNat =
    (g.lights tab).busy.toNat + ordered.countP fun j => j.panel? == some tab
  loading : ∀ tab, (g'.lights tab).loading = true →
    (g.lights tab).loading = true ∨ ∃ j ∈ ordered, j.fetches? = some tab
  validating : g'.validating = true → g.validating = true ∨ ∃ c, .signIn c ∈ ordered
  /-- No search is ordered, or one with the next number. -/
  searching : (ordered.filterMap Job.ticket? = [] ∧
      g'.searching = g.searching ∧ g'.generation = g.generation) ∨
    ∃ t, ordered.filterMap Job.ticket? = [t] ∧ t.generation = g.generation + 1 ∧
      g'.searching = true ∧ g'.generation = g.generation + 1

/-- The gauge without the flag of a job. -/
def off (g : Gauge) (j : Job) : Gauge where
  lights tab :=
    ⟨j.panel? != some tab && (g.lights tab).busy, j.fetches? != some tab && (g.lights tab).loading⟩
  validating := !j.isSignIn && g.validating
  searching := !j.searches g.generation && g.searching
  generation := g.generation

/-- The job has no flag on the gauge. -/
def Unseen (j : Job) : Prop :=
  j.panel? = none ∧ j.ticket? = none

/-- Flags may go out by themselves, but for those of the panels and the store. -/
theorem paces_dimmer (hordered : ∀ j ∈ ordered, Unseen j)
    (hbusy : ∀ tab, (g'.lights tab).busy = (g.lights tab).busy)
    (hloading : ∀ tab, (g'.lights tab).loading = true → (g.lights tab).loading = true)
    (hvalidating : g'.validating = true → g.validating = true)
    (hsearching : g'.searching = g.searching) (hgeneration : g'.generation = g.generation) :
    g.Paces ordered g' where
  busy tab := by
    have hnone : ordered.countP (fun j => j.panel? == some tab) = 0 := by
      refine List.countP_eq_zero.mpr fun j hj => ?_
      rw [(hordered j hj).1]
      exact Bool.false_ne_true
    rw [hbusy, hnone, Nat.add_zero]
  loading tab hon := .inl (hloading tab hon)
  validating hon := .inl (hvalidating hon)
  searching :=
    .inl ⟨List.filterMap_eq_nil_iff.mpr fun j hj => (hordered j hj).2, hsearching, hgeneration⟩

/-- Flags may have gone out before. -/
theorem Paces.after_dimmer {g₁ : Gauge} (h : g₁.Paces ordered g') (hlights : g₁.lights = g.lights)
    (hvalidating : g₁.validating = true → g.validating = true)
    (hsearching : g₁.searching = g.searching) (hgeneration : g₁.generation = g.generation) :
    g.Paces ordered g' := by
  obtain ⟨hbusy, hloading, hvalid, hsearch⟩ := h
  rw [hlights] at hbusy hloading
  rw [hsearching, hgeneration] at hsearch
  exact ⟨hbusy, hloading, fun hon => (hvalid hon).imp_left hvalidating, hsearch⟩

theorem paces_same (hordered : ∀ j ∈ ordered, Unseen j) (h : g' = g) : g.Paces ordered g' := by
  subst h
  exact paces_dimmer hordered (fun _ => rfl) (fun _ => id) id rfl rfl

theorem paces_nothing (g : Gauge) : g.Paces [] g :=
  paces_same (List.forall_mem_nil _) rfl

theorem paces_unseen (g : Gauge) {j : Job} (h : Unseen j) : g.Paces [j] g :=
  paces_same (List.forall_mem_singleton.mpr h) rfl

/-- A search is ordered. -/
theorem paces_search {t : SearchTicket} (hticket : t.generation = g.generation + 1)
    (h : g' = { g with searching := true, generation := g.generation + 1 }) :
    g.Paces [.search t] g' := by
  subst h
  exact ⟨fun _ => rfl, fun _ => .inl, .inl, .inr ⟨t, rfl, hticket, rfl, rfl⟩⟩

end Gauge

/-! ## The store -/

namespace StoreBrowser

theorem loading_selectNext (b : StoreBrowser) : b.selectNext.loading = b.loading := by
  unfold selectNext
  split <;> rfl

/-- The answer to the newest search ends it, and any other one changes nothing. -/
theorem loading_complete_eq (b : StoreBrowser) (t : SearchTicket)
    (result : Except Failure SearchPage) :
    (b.complete t result).2.loading = (!(t.generation == b.generation) && b.loading) := by
  by_cases hnew : t.generation = b.generation
  · rw [loading_complete hnew, beq_iff_eq.mpr hnew, Bool.not_true, Bool.false_and]
  · rw [BrowserRun.complete_of_ne hnew, beq_false_of_ne hnew, Bool.not_false, Bool.true_and]

end StoreBrowser

namespace Shop

/-- A search is asked for with the next number, and is running from then on; anything else
    leaves the searches as they are. -/
def Issues (s : Shop) (action : ShopAction) (s' : Shop) : Prop :=
  match action with
  | .search t => t.generation = s.browser.generation + 1 ∧ s'.browser.loading = true ∧
      s'.browser.generation = s.browser.generation + 1
  | _ => s'.browser.loading = s.browser.loading ∧ s'.browser.generation = s.browser.generation

theorem issues_navigate (s : Shop) (history : Option History) :
    s.Issues (s.navigate (s.browser.revisit history)).1
      (s.navigate (s.browser.revisit history)).2 := by
  cases history with
  | none => exact ⟨rfl, rfl⟩
  | some h => exact ⟨rfl, rfl, rfl⟩

theorem issues_pressResults (s : Shop) (k : Key) :
    s.Issues (s.pressResults k).1 (s.pressResults k).2 := by
  have hnext : s.Issues .none { s with browser := s.browser.selectNext } :=
    ⟨s.browser.loading_selectNext, BrowserRun.generation_selectNext s.browser⟩
  have hmore : s.Issues (s.pressResults { code := .char 'm' }).1
      (s.pressResults { code := .char 'm' }).2 := by
    unfold pressResults
    obtain ⟨h, -⟩ | ⟨t, next, h, hasks⟩ := s.browser.loadMore_cases
    · simp only [h]
      exact ⟨rfl, rfl⟩
    · simp only [h]
      refine ⟨?_, ?_, ?_⟩ <;> simp only [hasks.generation, hasks.browser]
  unfold pressResults
  split
  -- the selection
  · exact ⟨rfl, rfl⟩
  · exact ⟨rfl, rfl⟩
  · exact hnext
  · exact hnext
  -- the next page
  · exact hmore
  · exact hmore
  -- the search once more, and the filters
  · exact ⟨rfl, rfl, rfl⟩
  · exact ⟨rfl, rfl⟩
  · exact ⟨rfl, rfl⟩

theorem issues_pressFilters (s : Shop) (k : Key) :
    s.Issues (s.pressFilters k).1 (s.pressFilters k).2 := by
  unfold pressFilters
  split
  · exact ⟨rfl, rfl⟩
  · dsimp only
    split <;> exact ⟨rfl, rfl⟩

theorem issues_press (s : Shop) (k : Key) : s.Issues (s.press k).1 (s.press k).2 := by
  unfold press
  split
  · split
    · exact s.issues_navigate s.browser.history.back?
    · exact s.issues_navigate s.browser.history.forward?
    · exact ⟨rfl, rfl⟩
  · split
    · exact ⟨rfl, rfl⟩
    · split
      · exact s.issues_pressFilters k
      · exact s.issues_pressResults k

end Shop

/-! ## The steps of the console -/

namespace Console

variable {c : Console}

/-- A step that moves the gauge with the jobs that it orders. -/
def Paces (c : Console) (p : List Order × Console) : Prop :=
  c.gauge.Paces (jobs p.1) p.2.gauge

theorem countP_ofBuilder? (a : BuilderAction) (tab : BuilderTab) :
    (Job.ofBuilder? a).toList.countP (fun j => j.panel? == some tab) =
      (a.panel? == some tab).toNat := by
  cases a <;> cases tab <;> rfl

theorem paces_build {p : BuilderAction × Builder} (h : Builder.Explained p.1 c.builder p.2) :
    c.Paces (c.build p) := by
  have hjobs : jobs (c.build p).1 = (Job.ofBuilder? p.1).toList := jobs_map_job _
  unfold Paces
  rw [hjobs]
  constructor
  · intro tab
    have hbusy : ((c.build p).2.gauge.lights tab).busy =
        ((c.builder.lights tab).busy || p.1.panel? == some tab) := (h tab).busy
    rw [countP_ofBuilder?, hbusy]
    by_cases hpanel : p.1.panel? = some tab
    · have hfree : (c.gauge.lights tab).busy = false := (h tab).free hpanel
      rw [hpanel, beq_self_eq_true, Bool.or_true, hfree]
      rfl
    · rw [beq_false_of_ne hpanel, Bool.or_false]
      rfl
  · intro tab hon
    refine ((h tab).loading hon).imp id fun hfetches => ?_
    obtain ⟨a, b⟩ := p
    cases a with
    | loadSpecificationOptions =>
      exact ⟨.fetchCharacteristics, List.mem_singleton.mpr rfl, hfetches⟩
    | loadOfferingOptions => exact ⟨.fetchOptions, List.mem_singleton.mpr rfl, hfetches⟩
    | _ => cases hfetches
  · exact .inl
  · obtain ⟨a, b⟩ := p
    cases a <;> exact .inl ⟨rfl, rfl, rfl⟩

theorem paces_edit (c : Console) (r : CatalogRecord) : c.Paces (c.edit r) := by
  unfold edit
  split
  · rename_i p hp
    exact paces_build (Builder.explained_edit hp)
  · exact c.gauge.paces_nothing

theorem paces_view (c : Console) (action : ViewerAction) : c.Paces (c.view action) := by
  cases action with
  | none => exact c.gauge.paces_nothing
  | edit r => exact c.paces_edit r
  | reload collection => exact c.gauge.paces_unseen ⟨rfl, rfl⟩
  | delete r => exact c.gauge.paces_unseen ⟨rfl, rfl⟩
  | publish o => exact c.gauge.paces_unseen ⟨rfl, rfl⟩
  | retire o => exact c.gauge.paces_unseen ⟨rfl, rfl⟩

theorem gauge_issued {s : Shop} {t : SearchTicket} (h : c.shop.Issues (.search t) s) :
    ({ c with shop := s } : Console).gauge =
      { c.gauge with searching := true, generation := c.gauge.generation + 1 } := by
  obtain ⟨-, hloading, hgeneration⟩ := h
  simp only [gauge, hloading, hgeneration]

theorem paces_search {p : SearchTicket × Shop} (h : c.shop.Issues (.search p.1) p.2) :
    c.Paces (c.search p) :=
  Gauge.paces_search h.1 (gauge_issued h)

theorem paces_browse {s : Shop} {action : ShopAction} (now : Nat) (h : c.shop.Issues action s) :
    c.Paces ({ c with shop := s }.browse now action) := by
  have hsame (hloading : s.browser.loading = c.shop.browser.loading)
      (hgeneration : s.browser.generation = c.shop.browser.generation) :
      ({ c with shop := s } : Console).gauge = c.gauge := by
    simp only [gauge, hloading, hgeneration]
  cases action with
  | none => exact Gauge.paces_same (List.forall_mem_nil _) (hsame h.1 h.2)
  | edited f => exact Gauge.paces_same (List.forall_mem_nil _) (hsame h.1 h.2)
  | search t => exact Gauge.paces_search h.1 (gauge_issued h)

theorem paces_enter (c : Console) (route : Route) : c.Paces (c.enter route) := by
  cases route with
  | login => exact c.gauge.paces_nothing
  | builder => exact paces_build (c.builder.explained_showTab c.builder.tab)
  | viewer => exact paces_view { c with viewer := c.viewer.reload.2 } c.viewer.reload.1
  | store =>
    unfold enter
    simp only
    split
    · exact c.gauge.paces_nothing
    · exact Gauge.paces_search rfl rfl

theorem paces_goTo (c : Console) (route : Route) : c.Paces (c.goTo route) := by
  have henter := paces_enter { c with route } route
  unfold goTo
  simp only
  split <;> exact henter

theorem paces_navigate (c : Console) (s : SessionContext) (route : Route) :
    c.Paces (c.navigate s route) := by
  have hgoTo (returnTo : Option Route) : c.Paces ({ c with returnTo }.goTo (s.guard route)) :=
    paces_goTo { c with returnTo } (s.guard route)
  exact hgoTo _

theorem paces_pressShortcut (c : Console) (around : Surroundings) (shortcut : Shortcut) :
    c.Paces (c.pressShortcut around shortcut) := by
  cases shortcut with
  | quit => exact c.gauge.paces_nothing
  | navigate route => exact c.paces_navigate around.session route
  | logout =>
    unfold pressShortcut
    simp only
    split
    · exact c.gauge.paces_nothing
    · exact c.paces_navigate around.session .login
  | dismiss => exact c.gauge.paces_nothing

/-- A key that does not submit may take back that the last attempt failed, but never makes
    the screen wait. -/
theorem phase_pressField (s : SignIn) (k : Key) (h : s.phase ≠ .validating) :
    (s.pressField k).phase ≠ .validating := by
  unfold SignIn.pressField
  dsimp only
  split
  · split
    · exact nofun
    · exact h
  · split
    · exact nofun
    · exact h

theorem phase_press (s : SignIn) (k : Key) (h : (s.press k).2.phase = .validating) :
    s.phase = .validating := by
  by_contra hidle
  refine absurd h ?_
  unfold SignIn.press
  split
  · exact hidle
  · split
    · exact hidle
    · exact hidle
    · exact hidle
    · exact hidle
    · exact hidle
    · split
      · exact hidle
      · exact hidle
    · exact phase_pressField s k hidle

theorem paces_pressSignIn (c : Console) (s : SessionContext) (k : Key) :
    c.Paces (c.pressSignIn s k) := by
  have hphase : ((c.signIn.press k).2.phase == .validating) = true →
      (c.signIn.phase == .validating) = true :=
    fun hon => beq_iff_eq.mpr (phase_press c.signIn k (beq_iff_eq.mp hon))
  unfold pressSignIn
  split
  · rename_i signIn hpress
    rw [hpress] at hphase
    exact Gauge.paces_dimmer (List.forall_mem_nil _) (fun _ => rfl) (fun _ => id) hphase rfl rfl
  · exact ⟨fun _ => rfl, fun _ => .inl, fun _ => .inr ⟨_, List.mem_singleton.mpr rfl⟩,
      .inl ⟨rfl, rfl, rfl⟩⟩
  · rename_i signIn hpress
    rw [hpress] at hphase
    exact (paces_navigate { c with signIn } s .store).after_dimmer rfl hphase rfl rfl

theorem paces_press (c : Console) (around : Surroundings) (k : Key) :
    c.Paces (c.press around k) := by
  unfold press
  split
  · exact c.paces_pressShortcut around _
  · unfold pressScreen
    split
    · exact c.paces_pressSignIn around.session k
    · have hbuild : c.Paces (c.build ((c.builder.press k).1, (c.builder.press k).2.2)) :=
        paces_build (c.builder.explained_press k)
      simp only [Paces, jobs, List.filterMap_append]
      rw [← jobs, ← jobs, jobs_map_toast]
      exact hbuild
    · exact paces_view { c with viewer := (c.viewer.press k).2 } _
    · exact paces_browse around.now (c.shop.issues_press k)

/-! ### Outcomes -/

/-- The panel of a job is free again. -/
theorem paces_freed {tab : BuilderTab} {b : Builder} (h : c.builder.Frees tab b) :
    ({ c.gauge with
        lights := fun other => ⟨some tab != some other && (c.builder.lights other).busy,
          (c.builder.lights other).loading⟩ } : Gauge).Paces [] { c with builder := b }.gauge :=
  Gauge.paces_dimmer (List.forall_mem_nil _) h.busy h.loading id rfl rfl

/-- The options of a panel are there, or cannot be had. -/
theorem paces_equipped {tab : BuilderTab} {p : List Toast × Builder}
    (h : c.builder.Equips tab p.2) :
    ({ c.gauge with
        lights := fun other => ⟨(c.builder.lights other).busy,
          some tab != some other && (c.builder.lights other).loading⟩ } : Gauge).Paces
      (jobs (c.equipped p).1) (c.equipped p).2.gauge := by
  rw [equipped, jobs_map_toast]
  exact Gauge.paces_dimmer (List.forall_mem_nil _) h.busy
    (fun other hon => (h.loading other).symm.trans hon) id rfl rfl

theorem paces_takeSignIn (c : Console) (s : SessionContext) (result : Except AuthError User) :
    ({ c.gauge with validating := false } : Gauge).Paces (jobs (c.takeSignIn s result).1)
      (c.takeSignIn s result).2.gauge := by
  cases result with
  | ok user =>
    have hnavigate := paces_navigate { c with signIn := {}, returnTo := none } s
      (c.returnTo.getD .builder)
    exact hnavigate
  | error e => exact Gauge.paces_nothing _

/-- The outcome of a job is paced from the gauge without the flag of the job. -/
theorem paces_take (c : Console) (s : SessionContext) {j : Job} {o : Outcome}
    (h : j.Answers o) : (c.gauge.off j).Paces (jobs (c.take s o).1) (c.take s o).2.gauge := by
  cases h with
  | signIn r result => exact c.paces_takeSignIn s result
  | saveCharacteristic r result =>
    exact paces_freed (c.builder.frees_completeCharacteristic result)
  | saveSpecification r result => exact paces_freed (c.builder.frees_completeSpecification result)
  | savePrice r result => exact paces_freed (c.builder.frees_completePricing result)
  | saveDraft r result => exact paces_freed (c.builder.frees_completeDraft result)
  | submitOffering r result =>
    have hfreed := paces_freed (c.builder.frees_completePublish result)
    simp only [take, takeSubmission]
    split <;> exact hfreed
  | fetchCharacteristics result => exact paces_equipped (c.builder.equips_specification result)
  | fetchOptions result => exact paces_equipped (c.builder.equips_offering result)
  | list collection result hcollection => exact Gauge.paces_nothing _
  | delete r result =>
    cases result with
    | ok watch => exact Gauge.paces_unseen _ ⟨rfl, rfl⟩
    | error e => exact Gauge.paces_nothing _
  | publish r result =>
    cases result with
    | ok watch => exact Gauge.paces_unseen _ ⟨rfl, rfl⟩
    | error e => exact Gauge.paces_nothing _
  | retire r result =>
    cases result with
    | ok watch => exact Gauge.paces_unseen _ ⟨rfl, rfl⟩
    | error e => exact Gauge.paces_nothing _
  | search t result =>
    exact Gauge.paces_dimmer (List.forall_mem_nil _) (fun _ => rfl) (fun _ => id) id
      (c.shop.browser.loading_complete_eq t result) (BrowserRun.generation_complete _ t result)

/-! ### Everything else -/

theorem paces_hear (c : Console) (e : SessionEvent) : c.Paces (c.hear e) := by
  cases e with
  | loggedIn user => exact c.gauge.paces_nothing
  | loggedOut =>
    exact Gauge.paces_dimmer (List.forall_mem_nil _) (fun _ => rfl) (fun _ => id) nofun rfl rfl

theorem paces_take_unasked (c : Console) (s : SessionContext) {o : Outcome}
    (h : o.isUnasked = true) : c.Paces (c.take s o) := by
  cases o with
  | published o =>
    simp only [take]
    split
    · exact c.gauge.paces_unseen ⟨rfl, rfl⟩
    · exact c.gauge.paces_nothing
  | settled f => exact paces_search ⟨rfl, rfl, rfl⟩
  | _ => cases h

/-- Whatever happens without a job in flight is paced. -/
theorem paces_step (c : Console) {input : ConsoleInput}
    (h : ∀ s o, input = .take s o → o.isUnasked = true) : c.Paces (c.step input) := by
  cases input with
  | start s => exact c.paces_navigate s c.route
  | press around k => exact c.paces_press around k
  | take s o => exact paces_take_unasked c s (h s o rfl)
  | hear e => exact paces_hear c e
  | display t => exact c.gauge.paces_nothing
  | tick w wall => exact c.gauge.paces_nothing
  | keep watches => exact c.gauge.paces_nothing
  | ring now => exact c.gauge.paces_nothing

end Console

end CatalogDesk
