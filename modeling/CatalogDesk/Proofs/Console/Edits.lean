import CatalogDesk.Proofs.Console.Run
import CatalogDesk.Proofs.Screen.Fields

/-! # Edits of the filters on their way

    An edit of the filters is shown at once and searched for later: it waits until no other
    edit has followed for a while, and then for its turn among the outcomes.  Until then the
    panel shows filters that are not in effect.  When no edit is on its way, it should show
    those in effect, and the location with them.

    A move in the history shows the filters of the location that it comes to.  It does not
    recall the edit that is on its way, which is searched for in the end all the same, over
    the location that was moved to.  So the panel may be left with filters that are not in
    effect.  Main result: `settled_iff_not_overtaken` says that this happens if and only if a
    move has overtaken an edit to other filters, and no edit was made since. -/

namespace CatalogDesk

/-! ## Runs -/

/-- The console with the edits of the filters that are on their way. -/
structure EditRun where
  console : Console
  /-- Edits that have settled and wait for their turn, the oldest first. -/
  settled : List Filters := []
  /-- Has a move in the history overtaken an edit to other filters than those of the
      location, and has no edit been made since? -/
  overtaken : Bool := false

/-- The filters to which a key edits those of the store, if it does. -/
def Console.editTo? (c : Console) (k : Key) : Option Filters :=
  if c.isForShop k then
    match (c.shop.press k).1 with
    | .edited f => some f
    | _ => none
  else none

/-- The filters of the location to which a key moves in the history, if it does. -/
def Console.moveTo? (c : Console) (k : Key) : Option Filters :=
  if c.isForShop k && k.alt then
    match (c.shop.press k).1 with
    | .search _ => some (c.shop.press k).2.browser.filters
    | _ => none
  else none

namespace EditRun

def start (c : Console) : EditRun :=
  { console := c }

def panelFilters (r : EditRun) : Filters :=
  r.console.shop.panel.filters

def browser (r : EditRun) : StoreBrowser :=
  r.console.shop.browser

/-- The newest edit that is on its way. -/
def pending? (r : EditRun) : Option Filters :=
  (r.console.edits.waiting.map (·.1)).or r.settled.getLast?

/-- No edit waits, and none has settled that has not had its turn. -/
def IsQuiet (r : EditRun) : Prop :=
  r.console.edits.waiting = none ∧ r.settled = []

def press (r : EditRun) (around : Surroundings) (k : Key) : EditRun :=
  { r with
    console := (r.console.press around k).2
    overtaken :=
      match r.console.editTo? k, r.console.moveTo? k with
      | some _, _ => false
      | none, some f => r.pending?.any (· ≠ f)
      | none, none => r.overtaken }

/-- The bell rings for the edit that waits: if it is due, it has settled. -/
def ring (r : EditRun) (now : Nat) : EditRun :=
  { r with
    console := (r.console.step (.ring now)).2
    settled := r.settled ++ (r.console.edits.deliver now).1.toList }

/-- A settled edit has its turn; it is the oldest one, or nothing happens. -/
def apply (r : EditRun) (s : SessionContext) (f : Filters) : EditRun :=
  match r.settled with
  | [] => r
  | oldest :: rest =>
    if f = oldest then { r with console := (r.console.take s (.settled f)).2, settled := rest }
    else r

def step (r : EditRun) : ConsoleInput → EditRun
  | .press around k => r.press around k
  | .ring now => r.ring now
  | .take s (.settled f) => r.apply s f
  | input => { r with console := (r.console.step input).2 }

def after (r : EditRun) (inputs : List ConsoleInput) : EditRun :=
  inputs.foldl step r

/-- When no edit is on its way, the panel shows the filters in effect, and their query line
    is the location. -/
def Honours (r : EditRun) : Prop :=
  r.IsQuiet → r.panelFilters = r.browser.filters ∧ r.panelFilters.toQuery = r.browser.location

/-- The filters in effect when all edits have had their turn. -/
def target (r : EditRun) : Filters :=
  r.pending?.getD r.browser.filters

/-- The panel shows what will be in effect, unless a move has overtaken an edit; the
    location tells what is in effect.  This is the invariant of a run. -/
structure Kept (r : EditRun) : Prop where
  shown : r.overtaken = false ↔ r.panelFilters = r.target
  written : r.browser.history.Written r.browser.filters

end EditRun

/-! ## Keys -/

namespace Shop

variable (s : Shop) (p : ShopAction × Shop)

/-- The filters are edited, and shown as they were edited. -/
def Edits : Prop :=
  ∃ f, p.1 = .edited f ∧ p.2.panel.filters = f ∧ p.2.browser = s.browser

/-- A move in the history, to a location whose filters are shown. -/
def Moves : Prop :=
  ∃ t h, p.1 = .search t ∧
    (s.browser.history.back? = some h ∨ s.browser.history.forward? = some h) ∧
    p.2.browser.history = h ∧ p.2.browser.filters = .ofQuery h.current ∧
    p.2.panel.filters = .ofQuery h.current

/-- The filters are left alone. -/
structure Rests : Prop where
  notEdited : ∀ f, p.1 ≠ .edited f
  panel : p.2.panel.filters = s.panel.filters
  filters : p.2.browser.filters = s.browser.filters
  history : p.2.browser.history = s.browser.history

/-- A move along the history comes to the location there, if there is one. -/
theorem navigate_cases {h : Option History}
    (hh : h = s.browser.history.back? ∨ h = s.browser.history.forward?) :
    s.Moves (s.navigate (s.browser.revisit h)) ∨
      (s.Rests (s.navigate (s.browser.revisit h)) ∧
        (s.navigate (s.browser.revisit h)).1 = .none) := by
  cases h with
  | none => exact .inr ⟨⟨nofun, rfl, rfl, rfl⟩, rfl⟩
  | some location =>
    simp only [Moves, StoreBrowser.revisit, navigate, StoreBrowser.refresh, StoreBrowser.issue]
    exact .inl ⟨_, location, rfl, hh.imp Eq.symm Eq.symm, rfl, rfl,
      FilterPanel.filters_setFilters _ _⟩

/-- Among the offerings no key concerns the filters. -/
theorem rests_pressResults (k : Key) : s.Rests (s.pressResults k) := by
  obtain ⟨hfilters, hhistory, -⟩ := (StoreBrowser.place_eq_iff _ _ _ _).mp
    s.browser.place_selectNext
  obtain ⟨hmoreFilters, hmoreHistory, -⟩ := (StoreBrowser.place_eq_iff _ _ _ _).mp
    s.browser.place_loadMore
  unfold pressResults
  generalize s.browser.loadMore = more at hmoreFilters hmoreHistory ⊢
  obtain ⟨ticket?, browser⟩ := more
  split
  -- the selection
  · exact ⟨nofun, rfl, rfl, rfl⟩
  · exact ⟨nofun, rfl, rfl, rfl⟩
  · exact ⟨nofun, rfl, hfilters, hhistory⟩
  · exact ⟨nofun, rfl, hfilters, hhistory⟩
  -- the next page, if there is one
  · cases ticket? <;> exact ⟨nofun, rfl, hmoreFilters, hmoreHistory⟩
  · cases ticket? <;> exact ⟨nofun, rfl, hmoreFilters, hmoreHistory⟩
  -- the search again, the way to the filters, and all other keys
  · exact ⟨nofun, rfl, rfl, rfl⟩
  · exact ⟨nofun, rfl, rfl, rfl⟩
  · exact ⟨nofun, rfl, rfl, rfl⟩

theorem pressFilters_cases (k : Key) :
    s.Edits (s.pressFilters k) ∨ s.Rests (s.pressFilters k) := by
  have hpanel := s.panel.filters_press k
  unfold pressFilters
  split
  · exact .inr ⟨nofun, rfl, rfl, rfl⟩
  · cases hchanged : (s.panel.press k).1 with
    | some f =>
      rw [hchanged] at hpanel
      simp only [hchanged]
      exact .inl ⟨f, rfl, hpanel, rfl⟩
    | none =>
      rw [hchanged] at hpanel
      simp only [hchanged]
      exact .inr ⟨nofun, hpanel, rfl, rfl⟩

theorem press_of_alt {k : Key} (h : k.alt = true) :
    s.Moves (s.press k) ∨ (s.Rests (s.press k) ∧ (s.press k).1 = .none) := by
  unfold press
  rw [if_pos h]
  split
  · exact s.navigate_cases (.inl rfl)
  · exact s.navigate_cases (.inr rfl)
  · exact .inr ⟨⟨nofun, rfl, rfl, rfl⟩, rfl⟩

theorem press_of_not_alt {k : Key} (h : k.alt = false) :
    s.Edits (s.press k) ∨ s.Rests (s.press k) := by
  unfold press
  rw [if_neg (by simp [h])]
  split
  · exact .inr ⟨nofun, rfl, rfl, rfl⟩
  · split
    · exact s.pressFilters_cases k
    · exact .inr (s.rests_pressResults k)

end Shop

namespace EditRun

variable {r : EditRun}

/-! ## Steps -/

/-- A step that changes none of these does not matter. -/
theorem kept_of_eq {r' : EditRun} (h : r.Kept) (hpanel : r'.panelFilters = r.panelFilters)
    (hfilters : r'.browser.filters = r.browser.filters)
    (hhistory : r'.browser.history = r.browser.history)
    (hpending : r'.pending? = r.pending?) (hovertaken : r'.overtaken = r.overtaken) : r'.Kept := by
  constructor
  · rw [hovertaken, hpanel, target, hpending, hfilters]
    exact h.shown
  · rw [hhistory, hfilters]
    exact h.written

theorem kept_of_filterState (h : r.Kept) {c : Console}
    (hc : c.filterState = r.console.filterState) : Kept { r with console := c } := by
  simp only [Console.filterState, Prod.mk.injEq] at hc
  obtain ⟨hpanel, hfilters, hhistory, hedits⟩ := hc
  exact kept_of_eq h (congrArg FilterPanel.filters hpanel) hfilters hhistory
    (by rw [pending?, hedits, pending?]) rfl

theorem kept_ring (h : r.Kept) (now : Nat) : (r.ring now).Kept := by
  have hpending : (r.ring now).pending? = r.pending? := by
    unfold pending? ring Console.step Debouncer.deliver
    cases hwaiting : r.console.edits.waiting with
    | none => simp [hwaiting]
    | some edit =>
      simp only
      split
      · simp [Debouncer.cancel]
      · simp [hwaiting]
  constructor
  · have hshown := h.shown
    rw [target, ← hpending] at hshown
    exact hshown
  · exact h.written

theorem kept_apply (h : r.Kept) (s : SessionContext) (f : Filters) : (r.apply s f).Kept := by
  unfold apply
  split
  · exact h
  · rename_i oldest rest hsettled
    split
    · rename_i holdest
      subst holdest
      -- the edit that is applied is in effect now, and the newest one is the same as before
      have htarget : (((r.console.edits.waiting.map (·.1)).or rest.getLast?).getD f) =
          r.target := by
        rw [target, pending?, hsettled]
        cases r.console.edits.waiting with
        | some edit => rfl
        | none => cases rest <;> rfl
      have hshown := h.shown
      rw [← htarget] at hshown
      constructor
      · simpa only [panelFilters, target, pending?, browser, Console.take, Console.search,
          Shop.applyFilters, StoreBrowser.applyFilters, StoreBrowser.refresh, StoreBrowser.issue]
          using hshown
      · simp only [browser, Console.take, Console.search, Shop.applyFilters,
          StoreBrowser.applyFilters, StoreBrowser.refresh, StoreBrowser.issue]
        exact h.written.push f
    · exact h

/-- The key edits the filters: the panel shows what was edited last. -/
theorem kept_edit {around : Surroundings} {k : Key} (h : r.Kept) (hfor : r.console.isForShop k)
    (hedits : r.console.shop.Edits (r.console.shop.press k)) : (r.press around k).Kept := by
  obtain ⟨f, haction, hpanel, hbrowser⟩ := hedits
  have hto : r.console.editTo? k = some f := by simp [Console.editTo?, hfor, haction]
  have hconsole := Console.press_of_isForShop around hfor
  rw [haction] at hconsole
  constructor
  · simp [EditRun.press, panelFilters, target, pending?, hto, hconsole, Console.browse, hpanel,
      Debouncer.call]
  · simp only [EditRun.press, browser, hconsole, Console.browse, hbrowser]
    exact h.written

/-- The key moves in the history: the panel shows the location, and not the edit that is on
    its way. -/
theorem kept_move {around : Surroundings} {k : Key} (h : r.Kept) (hfor : r.console.isForShop k)
    (halt : k.alt = true) (hmoves : r.console.shop.Moves (r.console.shop.press k)) :
    (r.press around k).Kept := by
  obtain ⟨t, location, haction, hplace, hhistory, hfilters, hpanel⟩ := hmoves
  have hnot : r.console.editTo? k = none := by simp [Console.editTo?, hfor, haction]
  have hto : r.console.moveTo? k = some (.ofQuery location.current) := by
    simp [Console.moveTo?, hfor, halt, haction, hfilters]
  have hconsole := Console.press_of_isForShop around hfor
  rw [haction] at hconsole
  constructor
  · have hpending : (r.press around k).pending? = r.pending? := by
      simp only [EditRun.press, pending?, hconsole, Console.browse]
    rw [target, hpending]
    simp only [EditRun.press, panelFilters, browser, hnot, hto, hconsole, Console.browse, hpanel,
      hfilters]
    generalize Filters.ofQuery location.current = g
    -- the edit that is on its way was not recalled: the panel shows it only if it is `g`
    cases r.pending? with
    | none => simp
    | some f =>
      simp only [Option.any_some, Option.getD_some, decide_eq_false_iff_not, Decidable.not_not]
      exact eq_comm
  · have hwritten : location.Written (.ofQuery location.current) := by
      rcases hplace with hback | hforward
      · exact h.written.back? hback
      · exact h.written.forward? hforward
    simpa only [EditRun.press, browser, hconsole, Console.browse, hhistory, hfilters]
      using hwritten

/-- The key neither edits nor moves. -/
theorem kept_rest {around : Surroundings} {k : Key} (h : r.Kept) (hfor : r.console.isForShop k)
    (hrests : r.console.shop.Rests (r.console.shop.press k))
    (hto : r.console.moveTo? k = none) : (r.press around k).Kept := by
  have hnot : r.console.editTo? k = none := by
    unfold Console.editTo?
    rw [if_pos hfor]
    split
    · rename_i f haction
      exact absurd haction (hrests.notEdited f)
    · rfl
  have hconsole := Console.press_of_isForShop around hfor
  have hshop : (r.press around k).console.shop = (r.console.shop.press k).2 ∧
      (r.press around k).console.edits = r.console.edits := by
    simp only [EditRun.press, hconsole]
    cases haction : (r.console.shop.press k).1 with
    | edited f => exact absurd haction (hrests.notEdited f)
    | _ => exact ⟨rfl, rfl⟩
  refine kept_of_eq h ?_ ?_ ?_ ?_ ?_
  · rw [panelFilters, hshop.1, hrests.panel, panelFilters]
  · rw [browser, hshop.1, hrests.filters, browser]
  · rw [browser, hshop.1, hrests.history, browser]
  · rw [pending?, hshop.2, pending?]
    rfl
  · simp only [EditRun.press, hnot, hto]

theorem kept_press (h : r.Kept) (around : Surroundings) (k : Key) : (r.press around k).Kept := by
  cases hfor : r.console.isForShop k with
  | false =>
    have hnot : r.console.editTo? k = none := by simp [Console.editTo?, hfor]
    have hto : r.console.moveTo? k = none := by simp [Console.moveTo?, hfor]
    simp only [EditRun.press, hnot, hto]
    exact kept_of_filterState h (Console.filterState_press around hfor)
  | true =>
    cases halt : k.alt with
    | true =>
      rcases r.console.shop.press_of_alt halt with hmoves | ⟨hrests, hnone⟩
      · exact kept_move h hfor halt hmoves
      · exact kept_rest h hfor hrests (by simp [Console.moveTo?, hfor, halt, hnone])
    | false =>
      have hto : r.console.moveTo? k = none := by simp [Console.moveTo?, halt]
      rcases r.console.shop.press_of_not_alt halt with hedits | hrests
      · exact kept_edit h hfor hedits
      · exact kept_rest h hfor hrests hto

theorem kept_step (h : r.Kept) (input : ConsoleInput) : (r.step input).Kept := by
  cases input with
  | press around k => exact kept_press h around k
  | ring now => exact kept_ring h now
  | start s =>
    exact kept_of_filterState h (r.console.filterState_navigate s r.console.route)
  | hear e => exact kept_of_filterState h (by cases e <;> rfl)
  | display t => exact kept_of_filterState h rfl
  | tick w wall => exact kept_of_filterState h rfl
  | keep watches => exact kept_of_filterState h rfl
  | take s o =>
    by_cases ho : ∃ f, o = .settled f
    · obtain ⟨f, rfl⟩ := ho
      exact kept_apply h s f
    · have hfree : ∀ f, o ≠ .settled f := fun f heq => ho ⟨f, heq⟩
      have hstep : r.step (.take s o) = { r with console := (r.console.take s o).2 } := by
        cases o with
        | settled f => exact absurd rfl (hfree f)
        | _ => rfl
      rw [hstep]
      exact kept_of_filterState h (r.console.filterState_take s hfree)

theorem kept_start (settings : Settings) (remembered : Remembered) :
    (start (.new settings remembered)).Kept := by
  simp only [start, Console.new, Shop.ofLocation, StoreBrowser.ofLocation]
  generalize Filters.ofQuery _ = f
  constructor
  · refine iff_of_true rfl ?_
    simp only [panelFilters, target, pending?, browser, FilterPanel.new,
      FilterPanel.filters_setFilters]
    rfl
  · exact History.written_new f

theorem kept_after (h : r.Kept) (inputs : List ConsoleInput) : (r.after inputs).Kept := by
  induction inputs generalizing r with
  | nil => exact h
  | cons input rest ih => exact ih (kept_step h input)

/-! ## When all is quiet -/

theorem IsQuiet.target (hq : r.IsQuiet) : r.target = r.browser.filters := by
  rw [EditRun.target, pending?, hq.1, hq.2]
  rfl

theorem Kept.honours_iff (h : r.Kept) : r.Honours ↔ (r.IsQuiet → r.overtaken = false) := by
  refine forall_congr' fun hq => ?_
  rw [h.shown, hq.target]
  constructor
  · exact And.left
  · intro hsame
    refine ⟨hsame, ?_⟩
    rw [hsame]
    exact h.written.current.symm

/-- Whenever no edit is on its way, the panel shows the filters in effect and the location is
    their query line, unless a move in the history has overtaken an edit to other filters and
    no edit was made since; then it does not. -/
theorem settled_iff_not_overtaken (settings : Settings) (remembered : Remembered)
    (inputs : List ConsoleInput) :
    ((start (.new settings remembered)).after inputs).Honours ↔
      (((start (.new settings remembered)).after inputs).IsQuiet →
        ((start (.new settings remembered)).after inputs).overtaken = false) :=
  (kept_after (kept_start settings remembered) inputs).honours_iff

/-! ## An edit that was overtaken -/

/-- A visitor types, and goes back before the last letter is searched for. -/
def goesBack : List ConsoleInput :=
  let around (now : Nat) : Surroundings := { session := {}, now, wall := 0 }
  [.start {}, .press (around 0) { code := .char '/' }, .press (around 0) { code := .char 'a' },
    .ring 300, .take {} (.settled { q := "a" }), .press (around 400) { code := .char 'b' },
    .press (around 500) { code := .left, alt := true }, .ring 700,
    .take {} (.settled { q := "ab" })]

/-- Not every run honours the location: here the visitor ends at filters that the panel does
    not show. -/
theorem not_honours_goesBack : ¬ ((start (.new {} {})).after goesBack).Honours := by
  intro h
  have hshown := (h ⟨by decide +kernel, by decide +kernel⟩).1
  exact absurd hshown (by decide +kernel)

end EditRun

end CatalogDesk
