import CatalogDesk.Proofs.Store.Superseded

/-! # Paging through a search

    A store has a list of offerings for each choice of filters, and answers a search with
    the page that the search asks for.  An answer may come late or not at all, but there
    is at most one for each search.

    The browser does not know the list.  It knows how many offerings there are, and where
    the last page starts that it shows; it moves on by a page when that page has arrived,
    and not when it is asked for.  So while nothing is under way it shows the list up to
    the end of that page, whatever has failed or was superseded on the way: this is
    `Shows`, the invariant of a visit.

    Main result: `paging_sound` says that `Sound` holds after every visit: what is shown is
    a beginning of the list, a page that fails leaves all as it is and is asked for again,
    and whoever asks for more until there is no more has seen the whole list. -/

namespace CatalogDesk

/-! ## A store and its visitors -/

/-- The page with which a store answers a search; `results` are the offerings that it has
    for each choice of filters. -/
def SearchTicket.pageOf (t : SearchTicket) (results : Filters → List StoreOffering) :
    SearchPage where
  total := (results t.filters).length
  items := ((results t.filters).drop t.skip).take t.limit

/-- May the search end like this?  Any search may fail, but no other page is found. -/
def SearchTicket.admits (t : SearchTicket) (results : Filters → List StoreOffering) :
    Except Failure SearchPage → Bool
  | .ok page => page = t.pageOf results
  | .error _ => true

/-- A run of the browser at a store. -/
structure Visit where
  run : BrowserRun
  /-- The searches that have ended. -/
  completed : List Nat := []
  /-- Has the filter search succeeded that ended last, among those not superseded? -/
  found : Bool := false

namespace Visit

variable {results : Filters → List StoreOffering}

def start (b : StoreBrowser) : Visit :=
  { run := .start b }

def browser (v : Visit) : StoreBrowser :=
  v.run.browser

/-- Is a filter search taken that ends now, and has it succeeded?  Anything else leaves
    this as it was. -/
def finds (v : Visit) (ticket : SearchTicket) (result : Except Failure SearchPage) : Bool :=
  if (v.browser.complete ticket result).1 && ticket.mode = .replace then result.isOk
  else v.found

/-- A search ends only once, and as the store can make it end. -/
def complete (results : Filters → List StoreOffering) (v : Visit) (search : Nat)
    (result : Except Failure SearchPage) : Visit :=
  match v.run.issued[search]? with
  | none => v
  | some ticket =>
    if search ∈ v.completed ∨ ticket.admits results result = false then v
    else
      { run := v.run.complete search result
        completed := search :: v.completed
        found := v.finds ticket result }

def step (results : Filters → List StoreOffering) (v : Visit) : BrowserInput → Visit
  | .complete search result => v.complete results search result
  | input => { v with run := v.run.step input }

def after (results : Filters → List StoreOffering) (v : Visit) (inputs : List BrowserInput) :
    Visit :=
  inputs.foldl (step results) v

/-- The newest search, and it has not ended. -/
def Awaits (v : Visit) (search : Nat) (ticket : SearchTicket) : Prop :=
  v.run.issued[search]? = some ticket ∧ search + 1 = v.run.issued.length ∧
    search ∉ v.completed

end Visit

namespace StoreBrowser

variable {results : Filters → List StoreOffering}

/-- The next page is asked for, unless there is none, and the search ends at once: it
    succeeds, or fails as told. -/
def more (results : Filters → List StoreOffering) (b : StoreBrowser)
    (failure : Option Failure) : StoreBrowser :=
  match b.loadMore with
  | (none, b) => b
  | (some ticket, b) =>
    (b.complete ticket (match failure with
      | none => .ok (ticket.pageOf results)
      | some f => .error f)).2

/-- The browser shows the list up to the end of the page where it is. -/
structure Shows (results : Filters → List StoreOffering) (b : StoreBrowser) : Prop where
  total : b.total = (results b.filters).length
  items : b.items = (results b.filters).take (b.skip + b.limit)

end StoreBrowser

namespace Visit

variable {results : Filters → List StoreOffering}

/-- What holds of a visit, whatever happened before. -/
structure Sound (results : Filters → List StoreOffering) (v : Visit) : Prop where
  /-- What is shown is a beginning of the list for the filters in effect. -/
  beginning : v.browser.loading = false → v.browser.items <+: results v.browser.filters
  /-- Nothing is shown before the first filter search, and after one that failed. -/
  blank : v.browser.loading = false → v.found = false → v.browser.items = []
  total : v.browser.loading = false → v.found = true →
    v.browser.total = (results v.browser.filters).length
  count : v.browser.loading = false → v.found = true →
    v.browser.items.length =
      min (results v.browser.filters).length (v.browser.skip + v.browser.limit)
  /-- When the newest search succeeds, the browser comes to rest with what was found. -/
  success : ∀ search ticket, v.Awaits search ticket →
    let next := v.complete results search (.ok (ticket.pageOf results))
    next.browser.loading = false ∧ next.found = true
  /-- A filter search that fails leaves nothing to show. -/
  filterFailure : ∀ search ticket f, v.Awaits search ticket → ticket.mode = .replace →
    let next := v.complete results search (.error f)
    next.browser.loading = false ∧ next.browser.items = []
  /-- Asking for more changes nothing that is shown. -/
  asking : ∀ ticket b, v.browser.loadMore = (some ticket, b) →
    ticket.skip = v.browser.skip + v.browser.limit ∧ b.items = v.browser.items ∧
      b.total = v.browser.total ∧ b.skip = v.browser.skip ∧ b.selected = v.browser.selected
  /-- Nor does it when that fails, and the same page is asked for next. -/
  moreFailure : ∀ search ticket f, v.Awaits search ticket → ticket.mode = .append →
    let next := v.complete results search (.error f)
    next.browser.items = v.browser.items ∧ next.browser.total = v.browser.total ∧
      next.browser.skip = v.browser.skip ∧ next.browser.selected = v.browser.selected ∧
      next.browser.loadMore.1.map (·.skip) = some ticket.skip
  /-- Who asks for more, however often that fails, until there is no more to ask for, is
      shown the whole list. -/
  whole : v.browser.loading = false → v.found = true → ∀ attempts : List (Option Failure),
    let b := attempts.foldl (StoreBrowser.more results) v.browser
    b.loadMore.1 = none → b.items = results v.browser.filters
  /-- There is an end to it: it takes no more successes than there are offerings. -/
  ends : v.browser.loading = false → v.found = true → ∀ attempts : List (Option Failure),
    let b := attempts.foldl (StoreBrowser.more results) v.browser
    (results v.browser.filters).length ≤ attempts.countP (·.isNone) → b.loadMore.1 = none

/-- The newest search is the one that its browser expects: a filter search, or one for the
    page behind those that are shown. -/
inductive Expects (results : Filters → List StoreOffering) (v : Visit)
    (ticket : SearchTicket) : Prop
  | filter (mode : ticket.mode = .replace) (filters : ticket.filters = v.browser.filters)
      (skip : ticket.skip = 0) (limit : ticket.limit = v.browser.limit)
  | more (mode : ticket.mode = .append) (filters : ticket.filters = v.browser.filters)
      (skip : ticket.skip = v.browser.skip + v.browser.limit)
      (limit : ticket.limit = v.browser.limit) (found : v.found = true)
      (shows : v.browser.Shows results) (rest : v.browser.hasMore = true)

/-- The invariant that every input preserves. -/
structure Kept (results : Filters → List StoreOffering) (first : Nat) (v : Visit) : Prop where
  numbered : BrowserRun.Numbered first v.run
  limit : 0 < v.browser.limit
  known : ∀ search ∈ v.completed, search < v.run.issued.length
  /-- While the browser rests, the newest search has ended. -/
  rests : v.browser.loading = false → ∀ search, search + 1 = v.run.issued.length →
    search ∈ v.completed
  shows : v.browser.loading = false → v.found = true → v.browser.Shows results
  blank : v.browser.loading = false → v.found = false →
    v.browser.items = [] ∧ v.browser.total = 0
  expects : v.browser.loading = true → ∃ ticket, v.run.issued.getLast? = some ticket ∧
    v.Expects results ticket

end Visit

/-! ## Completing a search -/

namespace StoreBrowser

variable {results : Filters → List StoreOffering} {b : StoreBrowser} {ticket : SearchTicket}

theorem complete_ok (h : ticket.generation = b.generation) (page : SearchPage) :
    b.complete ticket (.ok page) = (true, { b with loading := false }.showPage ticket page) := by
  unfold complete
  rw [if_neg (not_not_intro h)]

theorem complete_error (h : ticket.generation = b.generation) (f : Failure) :
    b.complete ticket (.error f) = (true, { b with loading := false }.showFailure ticket) := by
  unfold complete
  rw [if_neg (not_not_intro h)]

/-- A filter search that succeeds shows its page. -/
theorem shows_complete_replace (hnew : ticket.generation = b.generation)
    (hmode : ticket.mode = .replace) (hfilters : ticket.filters = b.filters)
    (hskip : ticket.skip = 0) (hlimit : ticket.limit = b.limit) :
    (b.complete ticket (.ok (ticket.pageOf results))).2.Shows results := by
  rw [complete_ok hnew]
  simp only [showPage, hmode]
  constructor
  · exact congrArg (List.length <| results ·) hfilters
  · show ((results ticket.filters).drop ticket.skip).take ticket.limit = _
    rw [hfilters, hskip, hlimit, List.drop_zero, Nat.zero_add]

/-- A further page continues what is shown. -/
theorem shows_complete_append (hnew : ticket.generation = b.generation)
    (hmode : ticket.mode = .append) (hfilters : ticket.filters = b.filters)
    (hskip : ticket.skip = b.skip + b.limit) (hlimit : ticket.limit = b.limit)
    (hshows : b.Shows results) :
    (b.complete ticket (.ok (ticket.pageOf results))).2.Shows results := by
  rw [complete_ok hnew]
  simp only [showPage, hmode]
  constructor
  · exact congrArg (List.length <| results ·) hfilters
  · show b.items ++ ((results ticket.filters).drop ticket.skip).take ticket.limit =
      (results b.filters).take (ticket.skip + b.limit)
    rw [hfilters, hlimit, hshows.items, hskip, ← List.take_add]

theorem loading_complete (hnew : ticket.generation = b.generation)
    (result : Except Failure SearchPage) : (b.complete ticket result).2.loading = false := by
  cases result with
  | ok page =>
    rw [complete_ok hnew]
    dsimp only [showPage]
    split <;> rfl
  | error f =>
    rw [complete_error hnew]
    dsimp only [showFailure]
    split <;> rfl

theorem limit_complete (ticket : SearchTicket) (result : Except Failure SearchPage) :
    (b.complete ticket result).2.limit = b.limit := by
  unfold complete
  split
  · rfl
  · cases result with
    | ok page =>
      show (showPage _ ticket page).limit = _
      unfold showPage
      split <;> rfl
    | error f =>
      show (showFailure _ ticket).limit = _
      unfold showFailure
      split <;> rfl

/-! ## Asking for more -/

/-- The browser at rest asks for the page behind those that it shows. -/
structure Asks (b : StoreBrowser) (ticket : SearchTicket) (next : StoreBrowser) : Prop where
  loading : b.loading = false
  hasMore : b.hasMore = true
  browser : next = { b with generation := b.generation + 1, loading := true, error := none }
  generation : ticket.generation = next.generation
  mode : ticket.mode = .append
  filters : ticket.filters = b.filters
  skip : ticket.skip = b.skip + b.limit
  limit : ticket.limit = b.limit

theorem loadMore_cases (b : StoreBrowser) :
    (b.loadMore = (none, b) ∧ (b.loading = true ∨ b.hasMore = false)) ∨
      ∃ ticket next, b.loadMore = (some ticket, next) ∧ b.Asks ticket next := by
  unfold loadMore
  split
  · rename_i h
    rw [Bool.or_eq_true, Bool.not_eq_true'] at h
    exact .inl ⟨rfl, h⟩
  · rename_i h
    rw [Bool.or_eq_true, Bool.not_eq_true', not_or, Bool.not_eq_true, Bool.not_eq_false] at h
    exact .inr ⟨_, _, rfl, h.1, h.2, rfl, rfl, rfl, rfl, rfl, rfl⟩

/-- While everything is shown up to a place, there is more exactly if that place is not
    the end. -/
theorem Shows.hasMore_iff (h : b.Shows results) :
    b.hasMore = true ↔ b.skip + b.limit < (results b.filters).length := by
  unfold hasMore
  rw [decide_eq_true_iff, h.total, h.items, List.length_take]
  omega

theorem Shows.items_of_not_hasMore (h : b.Shows results) (hmore : b.hasMore = false) :
    b.items = results b.filters := by
  have hend : ¬ b.skip + b.limit < (results b.filters).length := by
    rw [← h.hasMore_iff, hmore]
    exact Bool.false_ne_true
  rw [h.items, List.take_of_length_le (Nat.le_of_not_lt hend)]

/-- The browser rests, shows the list up to some place, and pages have a size. -/
structure Rests (results : Filters → List StoreOffering) (b : StoreBrowser) : Prop where
  loading : b.loading = false
  limit : 0 < b.limit
  shows : b.Shows results

/-- Asking for more leaves the browser at rest with the same filters, and each success
    brings it nearer to the end of the list. -/
theorem more_spec (h : b.Rests results) (failure : Option Failure) :
    (b.more results failure).Rests results ∧
      (b.more results failure).filters = b.filters ∧
      min (results b.filters).length (b.skip + b.limit + if failure.isNone then 1 else 0) ≤
        (b.more results failure).skip + (b.more results failure).limit := by
  unfold more
  rcases b.loadMore_cases with ⟨hnone, hwhy⟩ | ⟨ticket, next, hsome, hasks⟩
  · rw [hnone]
    -- at rest nothing is asked for only where the end is reached
    have hmore : ¬ b.skip + b.limit < (results b.filters).length := by
      rw [← h.shows.hasMore_iff]
      rcases hwhy with hloading | hmore
      · rw [h.loading] at hloading
        cases hloading
      · rw [hmore]
        decide
    exact ⟨h, rfl, by dsimp only; omega⟩
  · rw [hsome]
    obtain ⟨-, -, rfl, hnew, hmode, hfilters, hskip, hlimit⟩ := hasks
    have hpos := h.limit
    cases failure with
    | none =>
      have hnext := shows_complete_append hnew hmode hfilters hskip hlimit
        ⟨h.shows.total, h.shows.items⟩
      dsimp only
      rw [complete_ok hnew] at hnext ⊢
      simp only [showPage, hmode] at hnext ⊢
      refine ⟨⟨rfl, h.limit, hnext⟩, trivial, ?_⟩
      simp only [Option.isNone_none, if_true]
      omega
    | some f =>
      dsimp only
      rw [complete_error hnew]
      simp only [showFailure, hmode]
      refine ⟨⟨rfl, h.limit, ⟨h.shows.total, h.shows.items⟩⟩, trivial, ?_⟩
      simp only [Option.isNone_some, Bool.false_eq_true, if_false]
      omega

theorem Rests.items_of_none (h : b.Rests results) (hnone : b.loadMore.1 = none) :
    b.items = results b.filters := by
  rcases b.loadMore_cases with ⟨-, hloading | hmore⟩ | ⟨_, _, hsome, -⟩
  · exact absurd (h.loading.symm.trans hloading) (by decide)
  · exact h.shows.items_of_not_hasMore hmore
  · rw [hsome] at hnone
    cases hnone

theorem Rests.none_of_le (h : b.Rests results)
    (hend : (results b.filters).length ≤ b.skip + b.limit) : b.loadMore.1 = none := by
  rcases b.loadMore_cases with ⟨hnone, -⟩ | ⟨_, _, -, hasks⟩
  · rw [hnone]
  · have hmore := h.shows.hasMore_iff.mp hasks.hasMore
    omega

theorem attempts_spec (h : b.Rests results) (attempts : List (Option Failure)) :
    (attempts.foldl (more results) b).Rests results ∧
      (attempts.foldl (more results) b).filters = b.filters ∧
      min (results b.filters).length (b.skip + b.limit + attempts.countP (·.isNone)) ≤
        (attempts.foldl (more results) b).skip + (attempts.foldl (more results) b).limit := by
  induction attempts generalizing b with
  | nil => exact ⟨h, rfl, Nat.min_le_right _ _⟩
  | cons failure attempts ih =>
    obtain ⟨hrests, hfilters, hnear⟩ := more_spec h failure
    obtain ⟨hrests', hfilters', hnear'⟩ := ih hrests
    rw [hfilters] at hfilters' hnear'
    refine ⟨hrests', hfilters', Nat.le_trans ?_ hnear'⟩
    rw [List.countP_cons]
    omega

end StoreBrowser

namespace Visit

variable {results : Filters → List StoreOffering} {first : Nat} {v : Visit}

/-! ## One input -/

/-- A new search is awaited, and it is one that the browser expects. -/
theorem kept_issue (h : v.Kept results first) {ticket : SearchTicket} {next : StoreBrowser}
    (hnumbered : BrowserRun.Numbered first (v.run.note (some ticket, next)))
    (hlimit : 0 < next.limit) (hloading : next.loading = true)
    (hexpects : Expects results { v with run := v.run.note (some ticket, next) } ticket) :
    Kept results first { v with run := v.run.note (some ticket, next) } where
  numbered := hnumbered
  limit := hlimit
  known search hsearch := by
    have hlt := h.known search hsearch
    show search < (v.run.issued ++ [ticket]).length
    rw [List.length_append]
    omega
  rests hresting := absurd (hloading.symm.trans hresting) (by decide)
  shows hresting := absurd (hloading.symm.trans hresting) (by decide)
  blank hresting := absurd (hloading.symm.trans hresting) (by decide)
  expects _ := ⟨ticket, List.getLast?_concat, hexpects⟩

theorem kept_filterSearch (h : v.Kept results first) {b : StoreBrowser}
    (hlimit : b.limit = v.browser.limit)
    (hnumbered : BrowserRun.Numbered first (v.run.noteSearch b.refresh)) :
    Kept results first { v with run := v.run.noteSearch b.refresh } := by
  apply kept_issue h hnumbered
  · show 0 < b.limit
    rw [hlimit]
    exact h.limit
  · rfl
  · exact .filter rfl rfl rfl rfl

theorem kept_loadMore (h : v.Kept results first) :
    Kept results first { v with run := v.run.note v.run.browser.loadMore } := by
  have hnumbered := BrowserRun.numbered_step h.numbered .loadMore
  change BrowserRun.Numbered first (v.run.note v.run.browser.loadMore) at hnumbered
  rcases v.run.browser.loadMore_cases with ⟨hnone, -⟩ | ⟨ticket, next, hsome, hasks⟩
  · rw [hnone, BrowserRun.note_none]
    exact h
  · rw [hsome] at hnumbered ⊢
    obtain ⟨hresting, hmore, rfl, -, hmode, hfilters, hskip, hlimit⟩ := hasks
    -- there is more only where a filter search has succeeded
    have hfound : v.found = true := by
      cases hfound : v.found with
      | true => rfl
      | false =>
        obtain ⟨hitems, htotal⟩ := h.blank hresting hfound
        change v.run.browser.items = [] at hitems
        change v.run.browser.total = 0 at htotal
        simp [StoreBrowser.hasMore, hitems, htotal] at hmore
    have hshows := h.shows hresting hfound
    apply kept_issue h hnumbered h.limit rfl
    exact .more hmode hfilters hskip hlimit hfound ⟨hshows.total, hshows.items⟩ hmore

theorem kept_revisit (h : v.Kept results first) (history : Option History)
    (hnumbered : BrowserRun.Numbered first (v.run.note (v.run.browser.revisit history))) :
    Kept results first { v with run := v.run.note (v.run.browser.revisit history) } := by
  cases history with
  | none =>
    show Kept results first { v with run := v.run.note (none, v.run.browser) }
    rw [BrowserRun.note_none]
    exact h
  | some earlier =>
    apply kept_issue h hnumbered h.limit rfl
    exact .filter rfl rfl rfl rfl

/-- Moving the selection changes nothing else. -/
theorem kept_select (h : v.Kept results first) (selected : Nat) :
    Kept results first
      { v with run := { v.run with browser := { v.run.browser with selected } } } where
  numbered := BrowserRun.numbered_browser h.numbered rfl
  limit := h.limit
  known := h.known
  rests := h.rests
  shows hresting hfound := ⟨(h.shows hresting hfound).total, (h.shows hresting hfound).items⟩
  blank := h.blank
  expects hloading := by
    obtain ⟨ticket, hlast, hexpects⟩ := h.expects hloading
    refine ⟨ticket, hlast, ?_⟩
    cases hexpects with
    | filter mode filters skip limit => exact .filter mode filters skip limit
    | more mode filters skip limit found shows rest =>
      exact .more mode filters skip limit found ⟨shows.total, shows.items⟩ rest

/-! ### The end of a search -/

/-- The newest search is the one that the browser waits for. -/
theorem awaits_spec (h : v.Kept results first) {search : Nat} {ticket : SearchTicket}
    (hawaits : v.Awaits search ticket) :
    v.browser.loading = true ∧ ticket.generation = v.browser.generation ∧
      v.Expects results ticket := by
  obtain ⟨hissued, hnewest, hopen⟩ := hawaits
  have hloading : v.browser.loading = true := by
    by_cases hresting : v.browser.loading = false
    · exact absurd (h.rests hresting search hnewest) hopen
    · exact (Bool.not_eq_false _).mp hresting
  refine ⟨hloading, ?_, ?_⟩
  · have hnumber := h.numbered.issued search ticket hissued
    have hbrowser := h.numbered.browser
    show ticket.generation = v.run.browser.generation
    omega
  · obtain ⟨last, hlast, hexpects⟩ := h.expects hloading
    have hsame : ticket = last := by
      have hplace : v.run.issued.length - 1 = search := by omega
      rw [List.getLast?_eq_getElem?, hplace, hissued] at hlast
      exact Option.some.inj hlast
    rwa [hsame]

/-- What the end of the newest search makes of a visit. -/
theorem complete_of_awaits {search : Nat} {ticket : SearchTicket}
    (hawaits : v.Awaits search ticket) {result : Except Failure SearchPage}
    (hadmits : ticket.admits results result = true) :
    v.complete results search result =
      { run := { v.run with browser := (v.browser.complete ticket result).2 }
        completed := search :: v.completed
        found := v.finds ticket result } := by
  obtain ⟨hissued, -, hopen⟩ := hawaits
  have hrun : v.run.complete search result =
      { v.run with browser := (v.browser.complete ticket result).2 } := by
    unfold BrowserRun.complete
    rw [hissued]
    rfl
  unfold complete
  simp only [hissued, hopen, hadmits, hrun, Bool.true_eq_false, or_self, if_false]

/-- The page of the newest search is shown, and continues the list. -/
theorem success_spec (h : v.Kept results first) {search : Nat} {ticket : SearchTicket}
    (hawaits : v.Awaits search ticket) :
    let next := v.complete results search (.ok (ticket.pageOf results))
    next.browser.loading = false ∧ next.found = true ∧ next.browser.Shows results := by
  obtain ⟨-, hnew, hexpects⟩ := awaits_spec h hawaits
  intro next
  have hnext : next = _ := complete_of_awaits hawaits (decide_eq_true rfl)
  rw [hnext]
  refine ⟨StoreBrowser.loading_complete hnew _, ?_⟩
  cases hexpects with
  | filter hmode hfilters hskip hlimit =>
    constructor
    · simp [finds, StoreBrowser.complete_ok hnew, hmode, Except.isOk, Except.toBool]
    · exact StoreBrowser.shows_complete_replace hnew hmode hfilters hskip hlimit
  | more hmode hfilters hskip hlimit hfound hshown _ =>
    constructor
    · simp [finds, hmode, hfound]
    · exact StoreBrowser.shows_complete_append hnew hmode hfilters hskip hlimit hshown

/-- A filter search that fails leaves nothing; a page that fails leaves all as it was. -/
theorem failure_spec (h : v.Kept results first) {search : Nat} {ticket : SearchTicket}
    (hawaits : v.Awaits search ticket) (f : Failure) :
    let next := v.complete results search (.error f)
    next.browser.loading = false ∧
      (ticket.mode = .replace →
        next.found = false ∧ next.browser.items = [] ∧ next.browser.total = 0) ∧
      (ticket.mode = .append → next.found = true ∧ next.browser = { v.browser with
        loading := false, error := some StoreBrowser.errorMessage }) := by
  obtain ⟨-, hnew, hexpects⟩ := awaits_spec h hawaits
  intro next
  have hnext : next = _ := complete_of_awaits hawaits rfl
  rw [hnext]
  refine ⟨StoreBrowser.loading_complete hnew _, ?_, ?_⟩
  · intro hmode
    have hshown : (v.browser.complete ticket (.error f)).2 = _ :=
      congrArg Prod.snd (StoreBrowser.complete_error hnew f)
    simp only [StoreBrowser.showFailure, hmode] at hshown
    refine ⟨?_, congrArg StoreBrowser.items hshown, congrArg StoreBrowser.total hshown⟩
    simp [finds, StoreBrowser.complete_error hnew, hmode, Except.isOk, Except.toBool]
  · intro hmode
    have hshown : (v.browser.complete ticket (.error f)).2 = _ :=
      congrArg Prod.snd (StoreBrowser.complete_error hnew f)
    simp only [StoreBrowser.showFailure, hmode] at hshown
    refine ⟨?_, hshown⟩
    cases hexpects with
    | filter hreplace => exact absurd (hmode.symm.trans hreplace) (by decide)
    | more _ _ _ _ hfound => simp [finds, hmode, hfound]

/-- After the end of the newest search the browser shows the list, or nothing. -/
theorem shown_of_awaits (h : v.Kept results first) {search : Nat} {ticket : SearchTicket}
    (hawaits : v.Awaits search ticket) {result : Except Failure SearchPage}
    (hadmits : ticket.admits results result = true) :
    let next := v.complete results search result
    (next.found = true → next.browser.Shows results) ∧
      (next.found = false → next.browser.items = [] ∧ next.browser.total = 0) := by
  intro next
  cases result with
  | ok page =>
    obtain rfl : page = ticket.pageOf results := of_decide_eq_true hadmits
    obtain ⟨-, hfound, hshows⟩ := success_spec h hawaits
    exact ⟨fun _ => hshows, fun hblank => absurd (hfound.symm.trans hblank) (by decide)⟩
  | error f =>
    obtain ⟨-, hreplace, happend⟩ := failure_spec h hawaits f
    cases hmode : ticket.mode with
    | replace =>
      obtain ⟨hblank, hnothing⟩ := hreplace hmode
      exact ⟨fun hfound => absurd (hblank.symm.trans hfound) (by decide), fun _ => hnothing⟩
    | append =>
      obtain ⟨hfound, hbrowser⟩ := happend hmode
      obtain ⟨-, -, hexpects⟩ := awaits_spec h hawaits
      refine ⟨fun _ => ?_, fun hblank => absurd (hfound.symm.trans hblank) (by decide)⟩
      cases hexpects with
      | filter hfilter => exact absurd (hmode.symm.trans hfilter) (by decide)
      | more _ _ _ _ _ hshown =>
        show StoreBrowser.Shows results next.browser
        rw [hbrowser]
        exact ⟨hshown.total, hshown.items⟩

theorem kept_awaited (h : v.Kept results first) {search : Nat} {ticket : SearchTicket}
    (hawaits : v.Awaits search ticket) {result : Except Failure SearchPage}
    (hadmits : ticket.admits results result = true) :
    (v.complete results search result).Kept results first := by
  have hshown := shown_of_awaits h hawaits hadmits
  have hnew := (awaits_spec h hawaits).2.1
  rw [complete_of_awaits hawaits hadmits] at hshown ⊢
  obtain ⟨hissued, hnewest, -⟩ := hawaits
  have hresting := StoreBrowser.loading_complete hnew result
  constructor
  · exact BrowserRun.numbered_browser h.numbered (BrowserRun.generation_complete _ _ _)
  · show 0 < (v.browser.complete ticket result).2.limit
    rw [StoreBrowser.limit_complete]
    exact h.limit
  · intro other hother
    rcases List.mem_cons.mp hother with rfl | hother
    · exact (List.getElem?_eq_some_iff.mp hissued).1
    · exact h.known other hother
  · intro _ other hother
    have hsame : other = search := by
      change other + 1 = v.run.issued.length at hother
      omega
    exact List.mem_cons.mpr (.inl hsame)
  · exact fun _ => hshown.1
  · exact fun _ => hshown.2
  · exact fun hloading => absurd (hresting.symm.trans hloading) (by decide)

/-- The end of a superseded search is noted, and changes nothing else. -/
theorem kept_late (h : v.Kept results first) {search : Nat} {ticket : SearchTicket}
    (hissued : v.run.issued[search]? = some ticket) (hlate : search + 1 ≠ v.run.issued.length)
    (result : Except Failure SearchPage) :
    Kept results first
      { run := v.run.complete search result
        completed := search :: v.completed
        found := v.finds ticket result } := by
  -- a later search was issued, and has the generation of the browser
  have hne : ticket.generation ≠ v.run.browser.generation := by
    rw [h.numbered.issued search ticket hissued, h.numbered.browser]
    omega
  have hrefused := BrowserRun.complete_of_ne hne result
  have hrun : v.run.complete search result = v.run := by
    unfold BrowserRun.complete
    rw [hissued]
    dsimp only
    rw [hrefused]
  have hfinds : v.finds ticket result = v.found := by
    unfold finds browser
    rw [hrefused]
    rfl
  rw [hrun, hfinds]
  constructor
  · exact h.numbered
  · exact h.limit
  · intro other hother
    rcases List.mem_cons.mp hother with rfl | hother
    · exact (List.getElem?_eq_some_iff.mp hissued).1
    · exact h.known other hother
  · exact fun hresting other hother => List.mem_cons_of_mem _ (h.rests hresting other hother)
  · exact h.shows
  · exact h.blank
  · intro hloading
    obtain ⟨last, hlast, hexpects⟩ := h.expects hloading
    refine ⟨last, hlast, ?_⟩
    cases hexpects with
    | filter mode filters skip limit => exact .filter mode filters skip limit
    | more mode filters skip limit found shows rest =>
      exact .more mode filters skip limit found shows rest

theorem kept_complete (h : v.Kept results first) (search : Nat)
    (result : Except Failure SearchPage) :
    (v.complete results search result).Kept results first := by
  cases hissued : v.run.issued[search]? with
  | none =>
    unfold complete
    rwa [hissued]
  | some ticket =>
    by_cases hoccurs : search ∈ v.completed ∨ ticket.admits results result = false
    · unfold complete
      simp only [hissued, hoccurs, if_true]
      exact h
    · by_cases hnewest : search + 1 = v.run.issued.length
      · rw [not_or, Bool.not_eq_false] at hoccurs
        exact kept_awaited h ⟨hissued, hnewest, hoccurs.1⟩ hoccurs.2
      · unfold complete
        simp only [hissued, hoccurs, if_false]
        exact kept_late h hissued hnewest result

/-- **Step lemma.** -/
theorem kept_step (h : v.Kept results first) (input : BrowserInput) :
    (v.step results input).Kept results first := by
  have hnumbered := BrowserRun.numbered_step h.numbered input
  cases input with
  | refresh => exact kept_filterSearch h rfl hnumbered
  | retry => exact kept_filterSearch h rfl hnumbered
  | applyFilters filters =>
    exact kept_filterSearch (b := { v.run.browser with
      filters, history := v.run.browser.history.push filters.toQuery }) h rfl hnumbered
  | loadMore => exact kept_loadMore h
  | back => exact kept_revisit h _ hnumbered
  | forward => exact kept_revisit h _ hnumbered
  | selectNext =>
    show Kept results first { v with run := { v.run with browser := v.run.browser.selectNext } }
    unfold StoreBrowser.selectNext
    split
    · exact h
    · exact kept_select h _
  | selectPrev => exact kept_select h _
  | complete search result => exact kept_complete h search result

/-! ## Visits -/

theorem kept_start (filters : Filters) (limit : Nat) :
    (start (.new filters limit)).Kept results 0 where
  numbered := BrowserRun.numbered_start (.new filters limit)
  limit := Nat.lt_of_lt_of_le Nat.one_pos (Nat.le_max_right limit 1)
  known _ hsearch := nomatch hsearch
  rests _ search hsearch := absurd hsearch (Nat.succ_ne_zero search)
  shows _ hfound := nomatch hfound
  blank _ _ := ⟨rfl, rfl⟩
  expects hloading := nomatch hloading

/-- **Run lemma.** -/
theorem kept_after (h : v.Kept results first) (inputs : List BrowserInput) :
    (v.after results inputs).Kept results first := by
  induction inputs generalizing v with
  | nil => exact h
  | cons input inputs ih => exact ih (kept_step h input)

theorem Kept.atRest (h : v.Kept results first) (hresting : v.browser.loading = false)
    (hfound : v.found = true) : v.browser.Rests results :=
  ⟨hresting, h.limit, h.shows hresting hfound⟩

theorem beginning_of_kept (h : v.Kept results first) (hresting : v.browser.loading = false) :
    v.browser.items <+: results v.browser.filters := by
  cases hfound : v.found with
  | true =>
    rw [(h.shows hresting hfound).items]
    exact List.take_prefix _ _
  | false =>
    rw [(h.blank hresting hfound).1]
    exact List.nil_prefix

/-- A page that failed is asked for again. -/
theorem moreFailure_of_kept (h : v.Kept results first) {search : Nat} {ticket : SearchTicket}
    (f : Failure) (hawaits : v.Awaits search ticket) (hmode : ticket.mode = .append) :
    let next := v.complete results search (.error f)
    next.browser.items = v.browser.items ∧ next.browser.total = v.browser.total ∧
      next.browser.skip = v.browser.skip ∧ next.browser.selected = v.browser.selected ∧
      next.browser.loadMore.1.map (·.skip) = some ticket.skip := by
  obtain ⟨-, -, happend⟩ := failure_spec h hawaits f
  obtain ⟨-, hbrowser⟩ := happend hmode
  obtain ⟨-, -, hexpects⟩ := awaits_spec h hawaits
  intro next
  have hnext : next.browser = _ := hbrowser
  rw [hnext]
  refine ⟨rfl, rfl, rfl, rfl, ?_⟩
  cases hexpects with
  | filter hfilter => exact absurd (hmode.symm.trans hfilter) (by decide)
  | more _ _ hskip _ _ _ hrest =>
    unfold StoreBrowser.loadMore
    rw [if_neg]
    · exact congrArg some hskip.symm
    · simpa [StoreBrowser.hasMore] using hrest

theorem Kept.sound (h : v.Kept results first) : v.Sound results where
  beginning := beginning_of_kept h
  blank hresting hfound := (h.blank hresting hfound).1
  total hresting hfound := (h.shows hresting hfound).total
  count hresting hfound := by
    rw [(h.shows hresting hfound).items, List.length_take, Nat.min_comm]
  success search ticket hawaits := by
    obtain ⟨hresting, hfound, -⟩ := success_spec h hawaits
    exact ⟨hresting, hfound⟩
  filterFailure search ticket f hawaits hmode := by
    obtain ⟨hresting, hreplace, -⟩ := failure_spec h hawaits f
    exact ⟨hresting, (hreplace hmode).2.1⟩
  asking ticket b hasked := by
    rcases v.browser.loadMore_cases with ⟨hnone, -⟩ | ⟨_, _, hsome, hasks⟩
    · rw [hnone] at hasked
      cases hasked
    · rw [hsome] at hasked
      cases hasked
      rw [hasks.browser]
      exact ⟨hasks.skip, rfl, rfl, rfl, rfl⟩
  moreFailure search ticket f := moreFailure_of_kept h f
  whole hresting hfound attempts := by
    obtain ⟨hrests, hfilters, -⟩ := StoreBrowser.attempts_spec (h.atRest hresting hfound) attempts
    intro b hnone
    rw [← hfilters]
    exact hrests.items_of_none hnone
  ends hresting hfound attempts := by
    obtain ⟨hrests, hfilters, hnear⟩ :=
      StoreBrowser.attempts_spec (h.atRest hresting hfound) attempts
    intro b hmany
    apply hrests.none_of_le
    rw [hfilters]
    have hlimit := h.limit
    omega

/-- Whatever a store has, and in whatever order its answers arrive, if they do: while no
    search is awaited, a visitor sees a beginning of the list for the filters in effect,
    a page that failed can be asked for again, and asking for more until there is no more
    shows the whole list, each offering once. -/
theorem paging_sound (results : Filters → List StoreOffering) (filters : Filters) (limit : Nat)
    (inputs : List BrowserInput) :
    ((start (.new filters limit)).after results inputs).Sound results :=
  (kept_after (kept_start filters limit) inputs).sound

/-- The second page fails, is asked for again, and completes the list. -/
example :
    let results : Filters → List StoreOffering := fun _ => [default, default, default]
    let v := (start (.new {} 2)).after results
      [.refresh, .complete 0 (.ok ⟨3, [default, default]⟩), .loadMore,
        .complete 1 (.error (.network "down")), .loadMore, .complete 2 (.ok ⟨3, [default]⟩)]
    v.browser.items = results {} ∧ v.browser.loadMore.1 = none := by
  decide

end Visit

end CatalogDesk
