import CatalogDesk.Proofs.Store.QueryLine
import CatalogDesk.Proofs.Store.Superseded
import CatalogDesk.Proofs.Store.Trail

/-! # Locations tell searches

    The browser keeps the filters in effect and, beside them, a history of locations.  A
    location is only a text: a move in the history reads the filters from it, and so does
    the next run of the program, which starts where the last one was left.  Nothing must be
    lost on the way, whatever was typed.

    Main result: `location_tells_search` says that `TellsSearch` holds after every run, from
    any filters and from any text: the location is the query line of the filters in effect,
    a browser that is opened there searches with the same parameters, and after other
    filters were applied the way back and forth leads to the two locations again, each with
    the search that was made there.  The invariant is `Located`. -/

namespace CatalogDesk

/-! ## Places -/

namespace StoreBrowser

/-- Where a browser is: the filters in effect, the history, and the size of a page. -/
def place (b : StoreBrowser) : Filters × History × Nat :=
  (b.filters, b.history, b.limit)

variable (b : StoreBrowser)

theorem place_eq_iff (f : Filters) (h : History) (limit : Nat) :
    b.place = (f, h, limit) ↔ b.filters = f ∧ b.history = h ∧ b.limit = limit := by
  rw [place, Prod.mk.injEq, Prod.mk.injEq]

theorem location_of_place {b : StoreBrowser} {f : Filters} {h : History} {limit : Nat}
    (hplace : b.place = (f, h, limit)) : b.location = h.current := by
  rw [location, ((b.place_eq_iff f h limit).mp hplace).2.1]

@[simp] theorem place_issue (mode : SearchMode) (skip : Nat) :
    (b.issue mode skip).2.place = b.place := rfl

@[simp] theorem place_loadMore : b.loadMore.2.place = b.place := by
  unfold loadMore
  split <;> rfl

@[simp] theorem place_selectNext : b.selectNext.place = b.place := by
  unfold selectNext
  split <;> rfl

@[simp] theorem place_complete (t : SearchTicket) (result : Except Failure SearchPage) :
    (b.complete t result).2.place = b.place := by
  unfold complete
  split
  · rfl
  · cases result with
    | ok page =>
      simp only [showPage]
      split <;> rfl
    | error f =>
      simp only [showFailure]
      split <;> rfl

theorem params_refresh : b.refresh.1.params = b.filters.searchParams 0 b.limit := rfl

theorem place_ofLocation (line : String) (limit : Nat) : (ofLocation line limit).place =
    (.ofQuery line, .new (Filters.ofQuery line).toQuery, max limit 1) := by
  rw [ofLocation]
  generalize Filters.ofQuery line = f
  rfl

/-- The browser at another place, with pages of the same size. -/
def moved (f : Filters) (h : History) : StoreBrowser :=
  { b with filters := f, history := h }

theorem applyFilters_eq (f : Filters) :
    b.applyFilters f = (b.moved f (b.history.push f.toQuery)).refresh := rfl

theorem place_applyFilters (f : Filters) :
    (b.applyFilters f).2.place = (f, b.history.push f.toQuery, b.limit) := by
  rw [applyFilters_eq]
  generalize f.toQuery = line
  rfl

theorem revisit_some (h : History) :
    b.revisit (some h) = (some (b.moved (.ofQuery h.current) h).refresh.1,
      (b.moved (.ofQuery h.current) h).refresh.2) := rfl

/-- A move in the history searches for the filters that are read from the location. -/
theorem revisit_spec (h : History) :
    (b.revisit (some h)).1.map (·.params) =
        some ((Filters.ofQuery h.current).searchParams 0 b.limit) ∧
      (b.revisit (some h)).2.place = (.ofQuery h.current, h, b.limit) := by
  rw [revisit_some]
  generalize Filters.ofQuery h.current = f
  exact ⟨rfl, rfl⟩

end StoreBrowser

/-- Does the input leave the browser where it is? -/
def BrowserInput.stays : BrowserInput → Bool
  | .applyFilters _ => false
  | .back => false
  | .forward => false
  | _ => true

namespace BrowserRun

theorem place_step_of_stays (r : BrowserRun) (input : BrowserInput) (h : input.stays = true) :
    (r.step input).browser.place = r.browser.place := by
  cases input with
  | refresh => exact r.browser.place_issue .replace 0
  | retry => exact r.browser.place_issue .replace 0
  | loadMore => exact r.browser.place_loadMore
  | selectNext => exact r.browser.place_selectNext
  | selectPrev => rfl
  | complete search result =>
    show (r.complete search result).browser.place = r.browser.place
    unfold complete
    split
    · rfl
    · exact r.browser.place_complete _ result
  | applyFilters filters => cases h
  | back => cases h
  | forward => cases h

theorem place_after_of_stays (r : BrowserRun) {inputs : List BrowserInput}
    (h : ∀ input ∈ inputs, input.stays = true) :
    (r.after inputs).browser.place = r.browser.place := by
  induction inputs generalizing r with
  | nil => rfl
  | cons input inputs ih =>
    have hrest := ih (r.step input) fun i hi => h i (List.mem_cons_of_mem input hi)
    exact hrest.trans (r.place_step_of_stays input (h input List.mem_cons_self))

end BrowserRun

/-! ## Filters in writing -/

namespace Filters

/-- Nothing is lost of what is sent to the store. -/
theorem pairs_ofQuery_toQuery (f : Filters) : (ofQuery f.toQuery).pairs = f.pairs := by
  rw [ofQuery_toQuery, pairs_normal]

/-- Filters that are written alike are sent alike. -/
theorem pairs_eq_of_toQuery_eq {f g : Filters} (h : f.toQuery = g.toQuery) :
    f.pairs = g.pairs := by
  rw [← pairs_ofQuery_toQuery f, h, pairs_ofQuery_toQuery]

theorem searchParams_eq_of_toQuery_eq {f g : Filters} (h : f.toQuery = g.toQuery)
    (skip limit : Nat) : f.searchParams skip limit = g.searchParams skip limit := by
  rw [searchParams, pairs_eq_of_toQuery_eq h, searchParams]

end Filters

/-! ## The way back and forth -/

namespace History

variable {h : History} {line : String}

/-- One place back from a location that was just visited is the one from where it was
    visited, and one place forward from there is the new one again. -/
theorem back?_push (hne : line ≠ h.current) (hplaced : h.index < h.entries.length) :
    ∃ back, (h.push line).back? = some back ∧ back.current = h.current ∧
      back.forward? = some (h.push line) := by
  rw [push_of_ne hne hplaced]
  refine ⟨⟨h.entries.take (h.index + 1) ++ [line], h.index⟩, rfl, ?_, ?_⟩
  · have hold : h.index < (h.entries.take (h.index + 1)).length := by
      rw [List.length_take]
      omega
    unfold current
    rw [List.getElem?_append_left hold, List.getElem?_take_of_lt (Nat.lt_succ_self h.index)]
  · have hmore : h.index + 1 < (h.entries.take (h.index + 1) ++ [line]).length := by
      rw [List.length_append, List.length_take, List.length_singleton]
      omega
    unfold forward? canGoForward
    rw [if_pos (decide_eq_true hmore)]

theorem current_push : (h.push line).current = line := by
  unfold push
  split
  · assumption
  · simp [current]

end History

/-! ## Runs -/

namespace BrowserRun

/-- The parameters of the search for the first page at the place where the browser is. -/
def firstParams (r : BrowserRun) : FormEncoding.Pairs :=
  r.browser.refresh.1.params

/-- From where the filters were applied, the way back leads to the location and the search
    from before, and from there the way forth leads to the new ones. -/
structure Returns (r : BrowserRun) (f : Filters) (applied returned : BrowserRun) : Prop where
  backSearch : applied.browser.back.1.map (·.params) = some r.firstParams
  backLocation : applied.browser.back.2.location = r.browser.location
  forthSearch : returned.browser.forward.1.map (·.params) =
    some (r.browser.applyFilters f).1.params
  forthLocation : returned.browser.forward.2.location = f.toQuery

/-- The location tells all there is to know of the search. -/
structure TellsSearch (r : BrowserRun) : Prop where
  location : r.browser.location = r.browser.filters.toQuery
  reopened : (StoreBrowser.ofLocation r.browser.location r.browser.limit).location =
    r.browser.location
  search : (StoreBrowser.ofLocation r.browser.location r.browser.limit).refresh.1.params =
    r.firstParams
  /-- All searches for a first page that were made at the location had these parameters. -/
  searched : ∀ t ∈ r.issued, t.mode = .replace → t.filters.toQuery = r.browser.location →
    t.params = r.firstParams
  /-- After other filters were applied the history leads back and forth, whatever else
      happens in between at either place. -/
  returns : ∀ f : Filters, f.toQuery ≠ r.browser.location → ∀ there here : List BrowserInput,
    (∀ input ∈ there, input.stays = true) → (∀ input ∈ here, input.stays = true) →
      let applied := (r.step (.applyFilters f)).after there
      r.Returns f applied ((applied.step .back).after here)

/-- The invariant that every input preserves. -/
structure Located (r : BrowserRun) : Prop where
  written : r.browser.history.Written r.browser.filters
  limit : 1 ≤ r.browser.limit
  /-- The searches that do not ask for more ask for the first page. -/
  issued : ∀ t ∈ r.issued, t.mode = .replace → t.skip = 0 ∧ t.limit = r.browser.limit

variable {r : BrowserRun}

/-! ### One input -/

theorem Located.of_place (h : r.Located) {r' : BrowserRun}
    (hplace : r'.browser.place = r.browser.place)
    (hissued : ∀ t ∈ r'.issued, t.mode = .replace → t.skip = 0 ∧ t.limit = r.browser.limit) :
    r'.Located := by
  simp only [StoreBrowser.place, Prod.mk.injEq] at hplace
  obtain ⟨hfilters, hhistory, hlimit⟩ := hplace
  constructor
  · rw [hhistory, hfilters]
    exact h.written
  · rw [hlimit]
    exact h.limit
  · rw [hlimit]
    exact hissued

/-- A search for the first page, from a place that may be another one. -/
theorem located_moved (h : r.Located) {f : Filters} {place : History} (hwritten : place.Written f) :
    (r.noteSearch (r.browser.moved f place).refresh).Located := by
  constructor
  · exact hwritten
  · exact h.limit
  · intro t ht hmode
    rcases List.mem_append.mp ht with hold | hnew
    · exact h.issued t hold hmode
    · obtain rfl := List.mem_singleton.mp hnew
      exact ⟨rfl, rfl⟩

theorem located_loadMore (h : r.Located) : (r.note r.browser.loadMore).Located := by
  refine h.of_place r.browser.place_loadMore fun t ht hmode => ?_
  rcases List.mem_append.mp ht with hold | hnew
  · exact h.issued t hold hmode
  · rw [StoreBrowser.loadMore] at hnew
    split at hnew
    · cases hnew
    · obtain rfl := List.mem_singleton.mp hnew
      cases hmode

/-- A move in the history to a place that it has. -/
theorem located_revisit (h : r.Located) {history : Option History}
    (hwritten : ∀ h', history = some h' → h'.Written (.ofQuery h'.current)) :
    (r.note (r.browser.revisit history)).Located := by
  cases history with
  | none => exact (r.note_none).symm ▸ h
  | some place =>
    rw [StoreBrowser.revisit_some]
    exact located_moved h (hwritten place rfl)

/-- **Step lemma.** -/
theorem located_step (h : r.Located) (input : BrowserInput) : (r.step input).Located := by
  cases input with
  | refresh => exact located_moved h h.written
  | retry => exact located_moved h h.written
  | applyFilters f =>
    rw [step, StoreBrowser.applyFilters_eq]
    exact located_moved h (h.written.push f)
  | loadMore => exact located_loadMore h
  | back => exact located_revisit h fun _ => h.written.back?
  | forward => exact located_revisit h fun _ => h.written.forward?
  | selectNext =>
    exact h.of_place (r.place_step_of_stays .selectNext rfl) h.issued
  | selectPrev => exact h.of_place rfl h.issued
  | complete search result =>
    refine h.of_place (r.place_step_of_stays (.complete search result) rfl) ?_
    have hissued : (r.step (.complete search result)).issued = r.issued := by
      show (r.complete search result).issued = r.issued
      unfold complete
      split <;> rfl
    rw [hissued]
    exact h.issued

theorem located_start (f : Filters) (limit : Nat) : (start (.new f limit)).Located where
  written := History.written_new f
  limit := Nat.le_max_right limit 1
  issued t ht := by cases ht

/-- **Run lemma.** -/
theorem located_after (h : r.Located) (inputs : List BrowserInput) : (r.after inputs).Located := by
  induction inputs generalizing r with
  | nil => exact h
  | cons input inputs ih => exact ih (located_step h input)

/-! ### What the location tells -/

theorem Located.searched (h : r.Located) {t : SearchTicket} (ht : t ∈ r.issued)
    (hmode : t.mode = .replace) (hline : t.filters.toQuery = r.browser.location) :
    t.params = r.firstParams := by
  obtain ⟨hskip, hlimit⟩ := h.issued t ht hmode
  have hsame : t.filters.toQuery = r.browser.filters.toQuery := hline.trans h.written.current
  rw [SearchTicket.params, hskip, hlimit, firstParams, StoreBrowser.params_refresh]
  exact Filters.searchParams_eq_of_toQuery_eq hsame 0 r.browser.limit

theorem Located.returns (h : r.Located) {f : Filters} (hne : f.toQuery ≠ r.browser.location)
    {applied returned : BrowserRun}
    (happlied : applied.browser.place = (f, r.browser.history.push f.toQuery, r.browser.limit))
    (hreturned : returned.browser.place = applied.browser.back.2.place) :
    r.Returns f applied returned := by
  obtain ⟨place, hback, hcurrent, hforward⟩ := History.back?_push hne h.written.placed
  obtain ⟨-, hhistory, hlimit⟩ := (applied.browser.place_eq_iff _ _ _).mp happlied
  have hwayBack : applied.browser.back = applied.browser.revisit (some place) := by
    rw [StoreBrowser.back, hhistory, hback]
  obtain ⟨hbackParams, hbackPlace⟩ := applied.browser.revisit_spec place
  rw [hwayBack, hbackPlace, hlimit] at hreturned
  obtain ⟨-, hhistory', hlimit'⟩ := (returned.browser.place_eq_iff _ _ _).mp hreturned
  have hwayForth : returned.browser.forward =
      returned.browser.revisit (some (r.browser.history.push f.toQuery)) := by
    rw [StoreBrowser.forward, hhistory', hforward]
  obtain ⟨hforthParams, hforthPlace⟩ :=
    returned.browser.revisit_spec (r.browser.history.push f.toQuery)
  constructor
  · have hline : (Filters.ofQuery place.current).toQuery = r.browser.filters.toQuery := by
      rw [hcurrent, h.written.current, Filters.toQuery_ofQuery_toQuery]
    rw [hwayBack, hbackParams, hlimit, Filters.searchParams_eq_of_toQuery_eq hline]
    rfl
  · rw [hwayBack, StoreBrowser.location_of_place hbackPlace]
    exact hcurrent
  · rw [hwayForth, hforthParams, hlimit', History.current_push]
    have hline := Filters.toQuery_ofQuery_toQuery f
    rw [Filters.searchParams_eq_of_toQuery_eq hline, StoreBrowser.applyFilters_eq,
      StoreBrowser.params_refresh]
    rfl
  · rw [hwayForth, StoreBrowser.location_of_place hforthPlace]
    exact History.current_push

theorem Located.tellsSearch (h : r.Located) : r.TellsSearch where
  location := h.written.current
  reopened := by
    have hline : r.browser.location = r.browser.filters.toQuery := h.written.current
    rw [StoreBrowser.location_of_place (StoreBrowser.place_ofLocation _ _), hline]
    exact Filters.toQuery_ofQuery_toQuery r.browser.filters
  search := by
    have hline : r.browser.location = r.browser.filters.toQuery := h.written.current
    obtain ⟨hfilters, -, hlimit⟩ := (StoreBrowser.place_eq_iff _ _ _ _).mp
      (StoreBrowser.place_ofLocation r.browser.location r.browser.limit)
    rw [firstParams, StoreBrowser.params_refresh, StoreBrowser.params_refresh, hfilters, hlimit,
      hline, Nat.max_eq_left h.limit]
    exact Filters.searchParams_eq_of_toQuery_eq (Filters.toQuery_ofQuery_toQuery _) 0 _
  searched t ht hmode hline := h.searched ht hmode hline
  returns f hne there here hthere hhere := by
    apply h.returns hne
    · rw [place_after_of_stays _ hthere, ← StoreBrowser.place_applyFilters]
      rfl
    · exact place_after_of_stays _ hhere

/-- Whatever a browser is used for, from any filters and from any text: its location is the
    query line of the filters in effect and leads to the same search in a new browser, and
    the history leads back to the location and the search from before, and forth again. -/
theorem location_tells_search (limit : Nat) (inputs : List BrowserInput) :
    (∀ f : Filters, ((start (.new f limit)).after inputs).TellsSearch) ∧
      ∀ text : String, ((start (.ofLocation text limit)).after inputs).TellsSearch := by
  have htells (f : Filters) : ((start (.new f limit)).after inputs).TellsSearch :=
    (located_after (located_start f limit) inputs).tellsSearch
  exact ⟨htells, fun text => htells (.ofQuery text)⟩

end BrowserRun

end CatalogDesk
