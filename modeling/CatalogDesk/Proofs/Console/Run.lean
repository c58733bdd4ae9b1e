import CatalogDesk.Console.Steps
import CatalogDesk.Proofs.Store.Location

/-! # Runs of the console

    A run of the console is a sequence of inputs: keys, outcomes of the background, changes
    of the session, notices, the passing of time, and the bell of the filters.  They may come
    in any order and from any surroundings; what an application can bring about is a part of
    that.

    Most of what the console does concerns one screen.  The lemmas here say what the steps
    leave alone: the filters of the store, and the rows of the viewer's tables. -/

namespace CatalogDesk

/-- What can happen to the console. -/
inductive ConsoleInput
  | start (s : SessionContext)
  | press (around : Surroundings) (k : Key)
  | take (s : SessionContext) (o : Outcome)
  | hear (e : SessionEvent)
  | display (t : Toast)
  | tick (w : Watcher) (wall : Int)
  | keep (watches : List Nat)
  /-- The bell for the edits of the filters. -/
  | ring (now : Nat)

namespace Console

def step (c : Console) : ConsoleInput → List Order × Console
  | .start s => c.start s
  | .press around k => c.press around k
  | .take s o => c.take s o
  | .hear e => c.hear e
  | .display t => ([], c.display t)
  | .tick w wall => ([], c.tick w wall)
  | .keep watches => ([], c.keep watches)
  | .ring now => ([], { c with edits := (c.edits.deliver now).2 })

/-! ## The filters of the store -/

/-- The filters that are shown, those in effect with their history, and the edits that
    wait. -/
def filterState (c : Console) : FilterPanel × Filters × History × Debouncer Filters :=
  (c.shop.panel, c.shop.browser.filters, c.shop.browser.history, c.edits)

@[simp] theorem filterState_build (c : Console) (p : BuilderAction × Builder) :
    (c.build p).2.filterState = c.filterState := rfl

@[simp] theorem filterState_edit (c : Console) (r : CatalogRecord) :
    (c.edit r).2.filterState = c.filterState := by
  unfold edit
  split <;> rfl

@[simp] theorem filterState_view (c : Console) (action : ViewerAction) :
    (c.view action).2.filterState = c.filterState := by
  cases action with
  | edit r => exact c.filterState_edit r
  | _ => rfl

/-- Opening the store for the first time searches for the filters in effect. -/
@[simp] theorem filterState_enter (c : Console) (route : Route) :
    (c.enter route).2.filterState = c.filterState := by
  cases route with
  | login => rfl
  | builder => rfl
  | viewer => rfl
  | store =>
    unfold enter
    simp only
    split <;> rfl

@[simp] theorem filterState_goTo (c : Console) (route : Route) :
    (c.goTo route).2.filterState = c.filterState := by
  have henter := filterState_enter { c with route } route
  unfold goTo
  simp only
  split <;> exact henter

@[simp] theorem filterState_navigate (c : Console) (s : SessionContext) (route : Route) :
    (c.navigate s route).2.filterState = c.filterState :=
  filterState_goTo { c with returnTo := _ } (s.guard route)

@[simp] theorem filterState_pressShortcut (c : Console) (around : Surroundings)
    (shortcut : Shortcut) : (c.pressShortcut around shortcut).2.filterState = c.filterState := by
  cases shortcut with
  | quit => rfl
  | navigate route => exact c.filterState_navigate around.session route
  | logout =>
    unfold pressShortcut
    simp only
    split
    · rfl
    · exact c.filterState_navigate around.session .login
  | dismiss => rfl

@[simp] theorem filterState_pressSignIn (c : Console) (s : SessionContext) (k : Key) :
    (c.pressSignIn s k).2.filterState = c.filterState := by
  unfold pressSignIn
  split
  · rfl
  · rfl
  · exact filterState_navigate { c with signIn := _ } s .store

/-- Does the key go to the store? -/
def isForShop (c : Console) (k : Key) : Bool :=
  k.shortcut?.isNone && c.route == .store

theorem press_of_isForShop {c : Console} {k : Key} (around : Surroundings)
    (h : c.isForShop k = true) : c.press around k =
      { c with shop := (c.shop.press k).2 }.browse around.now (c.shop.press k).1 := by
  simp only [isForShop, Bool.and_eq_true, Option.isNone_iff_eq_none, beq_iff_eq] at h
  unfold press pressScreen
  rw [h.1, h.2]

theorem filterState_press {c : Console} {k : Key} (around : Surroundings)
    (h : c.isForShop k = false) : (c.press around k).2.filterState = c.filterState := by
  unfold press
  split
  · exact c.filterState_pressShortcut around _
  · rename_i hnone
    unfold pressScreen
    split
    · exact c.filterState_pressSignIn around.session k
    · rfl
    · exact filterState_view { c with viewer := (c.viewer.press k).2 } _
    · rename_i hroute
      simp [isForShop, hnone, hroute] at h

@[simp] theorem filterState_takeSignIn (c : Console) (s : SessionContext)
    (result : Except AuthError User) : (c.takeSignIn s result).2.filterState = c.filterState := by
  cases result with
  | ok user => exact filterState_navigate { c with signIn := {}, returnTo := none } s _
  | error e => rfl

/-- No outcome but a settled edit concerns the filters. -/
theorem filterState_take (c : Console) (s : SessionContext) {o : Outcome}
    (h : ∀ f, o ≠ .settled f) : (c.take s o).2.filterState = c.filterState := by
  cases o with
  | settled f => exact absurd rfl (h f)
  | signedIn result => exact c.filterState_takeSignIn s result
  | searched t result =>
    obtain ⟨hfilters, hhistory, -⟩ := (StoreBrowser.place_eq_iff _ _ _ _).mp
      (c.shop.browser.place_complete t result)
    simp only [take, filterState, Shop.complete, hfilters, hhistory]
  | recordDone collection result =>
    cases result <;> rfl
  | published o =>
    simp only [take]
    split <;> rfl
  | _ => rfl

end Console

/-! ## The tables of the viewer -/

namespace Viewer

/-- The records in the table of a collection. -/
def rows (v : Viewer) : Collection → CatalogRecords
  | .characteristics => .characteristics v.characteristics.records
  | .specifications => .specifications v.specifications.records
  | .prices => .prices v.prices.records
  | .offerings => .offerings v.offerings.records

def isLoading (v : Viewer) (c : Collection) : Bool :=
  v.onTable c fun t => t.loading

/-- The records stay, and the tables of these collections are loading from now on. -/
def Awaits (v : Viewer) (asked : List Collection) (v' : Viewer) : Prop :=
  ∀ c, v'.rows c = v.rows c ∧ v'.isLoading c = (asked.contains c || v.isLoading c)

variable {v : Viewer}

theorem awaits_self (v : Viewer) : v.Awaits [] v :=
  fun _ => ⟨rfl, rfl⟩

theorem awaits_setLoading (v : Viewer) (c : Collection) : v.Awaits [c] (v.setLoading c) := by
  intro d
  cases c <;> cases d <;> exact ⟨rfl, rfl⟩

theorem Awaits.trans_nil {asked : List Collection} {w w' : Viewer} (h : v.Awaits [] w)
    (hrest : w.Awaits asked w') : v.Awaits asked w' := by
  intro c
  obtain ⟨hrows, hloading⟩ := h c
  obtain ⟨hrows', hloading'⟩ := hrest c
  refine ⟨hrows'.trans hrows, ?_⟩
  rw [hloading', hloading]
  rfl

/-- Asking for the same once more changes nothing. -/
theorem Awaits.again {asked : List Collection} {w w' : Viewer} (h : v.Awaits asked w)
    (hagain : w.Awaits asked w') : v.Awaits asked w' := by
  intro c
  obtain ⟨hrows, hloading⟩ := h c
  obtain ⟨hrows', hloading'⟩ := hagain c
  refine ⟨hrows'.trans hrows, ?_⟩
  rw [hloading', hloading, ← Bool.or_assoc, Bool.or_self]

/-- A change of a table that is neither of its records nor of its loading. -/
theorem awaits_changeTable (v : Viewer) (c : Collection) {f : {α : Type} → Table α → Table α}
    (hrecords : ∀ {α : Type} (t : Table α), (f t).records = t.records)
    (hloading : ∀ {α : Type} (t : Table α), (f t).loading = t.loading) :
    v.Awaits [] (v.changeTable c f) := by
  intro d
  cases c <;> cases d <;> simp [changeTable, rows, isLoading, onTable, hrecords, hloading]

end Viewer

namespace Table

variable {α : Type} (t : Table α)

@[simp] theorem records_setPage (page : Nat) : (t.setPage page).records = t.records := by
  simp only [setPage]
  split <;> rfl

@[simp] theorem loading_setPage (page : Nat) : (t.setPage page).loading = t.loading := by
  simp only [setPage]
  split <;> rfl

@[simp] theorem records_toggleSort (column : Nat) : (t.toggleSort column).records = t.records := by
  unfold toggleSort
  split <;> rfl

@[simp] theorem loading_toggleSort (column : Nat) : (t.toggleSort column).loading = t.loading := by
  unfold toggleSort
  split <;> rfl

@[simp] theorem records_selectNext : t.selectNext.records = t.records := by
  simp only [selectNext]
  split <;> rfl

@[simp] theorem loading_selectNext : t.selectNext.loading = t.loading := by
  simp only [selectNext]
  split <;> rfl

end Table

/-- The collection that the action lists anew, if it does. -/
def ViewerAction.asked : ViewerAction → List Collection
  | .reload c => [c]
  | _ => []

namespace Viewer

theorem awaits_choose (v : Viewer) (c : Collection) :
    v.Awaits (v.choose c).1.asked (v.choose c).2 :=
  awaits_setLoading { v with active := c, doomed := none, search := _ } c

theorem awaits_chooseNumber (v : Viewer) (i : Nat) :
    v.Awaits (v.chooseNumber i).1.asked (v.chooseNumber i).2 := by
  unfold chooseNumber
  split
  · exact v.awaits_choose _
  · exact v.awaits_self

theorem awaits_pressSearch (v : Viewer) (k : Key) : v.Awaits [] (v.pressSearch k) := by
  unfold pressSearch
  split
  · exact fun _ => ⟨rfl, rfl⟩
  · exact fun _ => ⟨rfl, rfl⟩
  · exact fun _ => ⟨rfl, rfl⟩
  · simp only
    split
    · exact awaits_changeTable { v with search := (v.search.press k).2 } v.active
        (fun _ => rfl) (fun _ => rfl)
    · exact fun _ => ⟨rfl, rfl⟩

theorem awaits_setPage (v : Viewer) (page : {α : Type} → Table α → Nat) :
    v.Awaits [] (v.changeTable v.active fun t => t.setPage (page t)) :=
  v.awaits_changeTable v.active (fun t => t.records_setPage _) fun t => t.loading_setPage _

theorem awaits_toggleSort (v : Viewer) (column : Nat) :
    v.Awaits [] (v.changeTable v.active fun t => t.toggleSort column) :=
  v.awaits_changeTable v.active (fun t => t.records_toggleSort _) fun t => t.loading_toggleSort _

theorem awaits_selectNext (v : Viewer) :
    v.Awaits [] (v.changeTable v.active fun t => t.selectNext) :=
  v.awaits_changeTable v.active Table.records_selectNext Table.loading_selectNext

theorem awaits_selectPrev (v : Viewer) :
    v.Awaits [] (v.changeTable v.active fun t => t.selectPrev) :=
  v.awaits_changeTable v.active (fun _ => rfl) fun _ => rfl

theorem awaits_pressTable (v : Viewer) (k : Key) :
    v.Awaits (v.pressTable k).1.asked (v.pressTable k).2 := by
  unfold pressTable
  simp only
  split
  -- the collections
  · exact v.awaits_chooseNumber _
  · exact v.awaits_chooseNumber _
  -- the selection
  · exact v.awaits_selectPrev
  · exact v.awaits_selectPrev
  · exact v.awaits_selectNext
  · exact v.awaits_selectNext
  -- the pages
  · exact v.awaits_setPage (·.page - 1)
  · exact v.awaits_setPage (·.page - 1)
  · exact v.awaits_setPage (·.page + 1)
  · exact v.awaits_setPage (·.page + 1)
  · exact v.awaits_setPage fun _ => 1
  · exact v.awaits_setPage (·.totalPages)
  -- the search field, and the table anew
  · exact fun _ => ⟨rfl, rfl⟩
  · exact v.awaits_setLoading v.active
  -- what is done to the selected row
  · split <;> exact v.awaits_self
  · split <;> exact v.awaits_self
  · exact fun _ => ⟨rfl, rfl⟩
  · exact fun _ => ⟨rfl, rfl⟩
  · split <;> exact v.awaits_self
  · split <;> exact v.awaits_self
  · split
    · exact v.awaits_toggleSort _
    · exact v.awaits_self

/-- A key changes no records, and what it lists anew is loading. -/
theorem awaits_press (v : Viewer) (k : Key) : v.Awaits (v.press k).1.asked (v.press k).2 := by
  unfold press
  split
  · simp only
    split <;> exact fun _ => ⟨rfl, rfl⟩
  · split
    · exact v.awaits_pressSearch k
    · split
      · split
        · exact v.awaits_chooseNumber _
        · exact v.awaits_self
      · exact v.awaits_pressTable k

end Viewer

/-- The collection that an order lists anew, if it does. -/
def Order.asked? : Order → Option Collection
  | .job (.list c) => some c
  | _ => none

/-- The collections that the orders list anew. -/
def asked (orders : List Order) : List Collection :=
  orders.filterMap Order.asked?

@[simp] theorem asked_map_toast (toasts : List Toast) : asked (toasts.map .toast) = [] := by
  simp [asked, List.filterMap_map, Function.comp_def, Order.asked?]

namespace Console

variable {c : Console}

/-- A step of the console that changes no records, and has the tables loading that it
    lists anew. -/
def Lists (c : Console) (p : List Order × Console) : Prop :=
  c.viewer.Awaits (asked p.1) p.2.viewer

theorem asked_build (c : Console) (p : BuilderAction × Builder) : asked (c.build p).1 = [] := by
  obtain ⟨action, b⟩ := p
  cases action <;> rfl

theorem lists_build (c : Console) (p : BuilderAction × Builder) : c.Lists (c.build p) := by
  rw [Lists, asked_build]
  exact c.viewer.awaits_self

theorem lists_edit (c : Console) (r : CatalogRecord) : c.Lists (c.edit r) := by
  unfold edit
  split
  · exact lists_build { c with route := .builder, lastVisited := .builder } _
  · exact c.viewer.awaits_self

/-- The viewer has the table loading already when it asks for a listing. -/
theorem lists_view {v : Viewer} {action : ViewerAction} (h : c.viewer.Awaits action.asked v) :
    c.Lists ({ c with viewer := v }.view action) := by
  cases action with
  | none => exact h
  | reload collection => exact h.again (v.awaits_setLoading collection)
  | edit r =>
    have hquiet : c.viewer.Awaits [] v := h
    exact hquiet.trans_nil (lists_edit { c with viewer := v } r)
  | delete r => exact h
  | publish o => exact h
  | retire o => exact h

theorem lists_enter (c : Console) (route : Route) : c.Lists (c.enter route) := by
  cases route with
  | login => exact c.viewer.awaits_self
  | builder => exact c.lists_build _
  | viewer => exact lists_view (c.viewer.awaits_setLoading c.viewer.active)
  | store =>
    unfold enter
    simp only
    split <;> exact c.viewer.awaits_self

theorem lists_goTo (c : Console) (route : Route) : c.Lists (c.goTo route) := by
  have henter := lists_enter { c with route } route
  unfold goTo
  simp only
  split <;> exact henter

theorem lists_navigate (c : Console) (s : SessionContext) (route : Route) :
    c.Lists (c.navigate s route) :=
  lists_goTo { c with returnTo := _ } (s.guard route)

theorem lists_pressShortcut (c : Console) (around : Surroundings) (shortcut : Shortcut) :
    c.Lists (c.pressShortcut around shortcut) := by
  cases shortcut with
  | quit => exact c.viewer.awaits_self
  | navigate route => exact c.lists_navigate around.session route
  | logout =>
    unfold pressShortcut
    simp only
    split
    · exact c.viewer.awaits_self
    · exact c.lists_navigate around.session .login
  | dismiss => exact c.viewer.awaits_self

theorem lists_pressSignIn (c : Console) (s : SessionContext) (k : Key) :
    c.Lists (c.pressSignIn s k) := by
  unfold pressSignIn
  split
  · exact c.viewer.awaits_self
  · exact c.viewer.awaits_self
  · exact lists_navigate { c with signIn := _ } s .store

theorem lists_browse (c : Console) (now : Nat) (shop : Shop) (action : ShopAction) :
    c.Lists ({ c with shop }.browse now action) := by
  cases action <;> exact c.viewer.awaits_self

theorem lists_press (c : Console) (around : Surroundings) (k : Key) :
    c.Lists (c.press around k) := by
  unfold press
  split
  · exact c.lists_pressShortcut around _
  · unfold pressScreen
    split
    · exact c.lists_pressSignIn around.session k
    · have hbuild := c.lists_build ((c.builder.press k).1, (c.builder.press k).2.2)
      rw [Lists, asked_build] at hbuild
      simp only [Lists, asked, List.filterMap_append]
      rw [← asked, ← asked, asked_map_toast, asked_build]
      exact hbuild
    · exact lists_view (c.viewer.awaits_press k)
    · exact c.lists_browse around.now _ _

theorem lists_takeSignIn (c : Console) (s : SessionContext) (result : Except AuthError User) :
    c.Lists (c.takeSignIn s result) := by
  cases result with
  | ok user => exact lists_navigate { c with signIn := {}, returnTo := none } s _
  | error e => exact c.viewer.awaits_self

theorem lists_equipped (c : Console) (p : List Toast × Builder) : c.Lists (c.equipped p) := by
  simp only [Lists, equipped, asked_map_toast]
  exact c.viewer.awaits_self

/-- No outcome but a listing changes the records. -/
theorem lists_take (c : Console) (s : SessionContext) {o : Outcome}
    (h : ∀ collection result, o ≠ .listed collection result) : c.Lists (c.take s o) := by
  cases o with
  | listed collection result => exact absurd rfl (h collection result)
  | signedIn result => exact c.lists_takeSignIn s result
  | recordDone collection result =>
    cases result with
    | ok watch => exact c.viewer.awaits_setLoading collection
    | error e => exact c.viewer.awaits_self
  | published o =>
    simp only [take]
    split
    · exact c.viewer.awaits_setLoading .offerings
    · exact c.viewer.awaits_self
  | offeringSubmitted result =>
    simp only [take, takeSubmission]
    split <;> exact c.viewer.awaits_self
  | characteristicsFetched result => exact c.lists_equipped _
  | optionsFetched result => exact c.lists_equipped _
  | _ => exact c.viewer.awaits_self

/-- No step but the outcome of a listing changes the records, and what a step lists anew is
    loading after it. -/
theorem lists_step (c : Console) {input : ConsoleInput}
    (h : ∀ s collection result, input ≠ .take s (.listed collection result)) :
    c.Lists (c.step input) := by
  cases input with
  | start s => exact c.lists_navigate s c.route
  | press around k => exact c.lists_press around k
  | take s o =>
    exact c.lists_take s fun collection result heq => h s collection result (by rw [heq])
  | hear e => cases e <;> exact c.viewer.awaits_self
  | display t => exact c.viewer.awaits_self
  | tick w wall => exact c.viewer.awaits_self
  | keep watches => exact c.viewer.awaits_self
  | ring now => exact c.viewer.awaits_self

end Console

end CatalogDesk
