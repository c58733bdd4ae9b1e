import CatalogDesk.Proofs.Store.Paging

/-! # What a browser tells of its searches

    A visitor sees whether a search is under way, whether the last one failed, whether there
    is more, which offering is selected, and whether nothing was found.  The browser keeps
    none of its searches, only flags and numbers that issuing and completing them write.

    A `SearchLog` keeps the searches themselves: which ones were issued, which ones have
    ended and how, and whose page was applied last.  Each search ends at most once, and with
    any result.  `Kept` is the invariant that ties the flags and numbers to the log.

    Main result: `status_sound` says that `Sound` holds after every run: what is shown is
    what can be said from the log alone. -/

namespace CatalogDesk

/-- The selection is an offering that is shown; with nothing shown it is zero. -/
def StoreBrowser.SelectionValid (b : StoreBrowser) : Prop :=
  b.selected < b.items.length ∨ b.items = [] ∧ b.selected = 0

/-! ## Runs with a log -/

/-- A run of the browser, and what became of its searches. -/
structure SearchLog where
  run : BrowserRun
  /-- The searches that have ended, and whether they succeeded. -/
  ends : List (Nat × Bool) := []
  /-- The search whose page was applied last. -/
  applied : Option SearchTicket := none

namespace SearchLog

def start (b : StoreBrowser) : SearchLog :=
  { run := .start b }

def browser (l : SearchLog) : StoreBrowser :=
  l.run.browser

/-- Is this the search that was issued last? -/
def IsNewest (l : SearchLog) (search : Nat) : Prop :=
  search + 1 = l.run.issued.length

def HasEnded (l : SearchLog) (search : Nat) : Prop :=
  ∃ succeeded, (search, succeeded) ∈ l.ends

def HasSucceeded (l : SearchLog) (search : Nat) : Prop :=
  (search, true) ∈ l.ends

instance (l : SearchLog) (search : Nat) : Decidable (l.HasEnded search) :=
  decidable_of_iff (search ∈ l.ends.map (·.1)) (by simp [HasEnded])

/-- A page is applied if its search succeeded and the browser takes the result. -/
def appliedBy (l : SearchLog) (ticket : SearchTicket) (result : Except Failure SearchPage) :
    Option SearchTicket :=
  if (l.browser.complete ticket result).1 && result.isOk then some ticket else l.applied

/-- A search that was issued ends, unless it has ended before. -/
def complete (l : SearchLog) (search : Nat) (result : Except Failure SearchPage) : SearchLog :=
  match l.run.issued[search]? with
  | none => l
  | some ticket =>
    if l.HasEnded search then l
    else
      { run := l.run.complete search result
        ends := (search, result.isOk) :: l.ends
        applied := l.appliedBy ticket result }

def step (l : SearchLog) : BrowserInput → SearchLog
  | .complete search result => l.complete search result
  | input => { l with run := l.run.step input }

def after (l : SearchLog) (inputs : List BrowserInput) : SearchLog :=
  inputs.foldl step l

/-- What is shown, told from the log. -/
structure Sound (l : SearchLog) : Prop where
  /-- A search is under way exactly while the newest one has not ended. -/
  loading : l.browser.loading = true ↔ ∃ search, l.IsNewest search ∧ ¬ l.HasEnded search
  /-- While it is, no failure is shown. -/
  quiet : l.browser.loading = true → l.browser.error = none
  /-- There is nothing to ask for while a search is under way, and when all is shown. -/
  nothing : l.browser.loadMore.1 = none ↔
    l.browser.loading = true ∨ l.browser.total ≤ l.browser.items.length
  /-- Otherwise the page behind the one that was applied last is asked for. -/
  asks : ∀ ticket, l.browser.loadMore.1 = some ticket →
    ticket.filters = l.browser.filters ∧ ticket.limit = l.browser.limit ∧
      ∃ last, l.applied = some last ∧ ticket.skip = last.skip + l.browser.limit
  selection : l.browser.SelectionValid
  /-- That nothing was found is said only of searches that succeeded, or before the first. -/
  empty : l.browser.showsEmptyState = true ↔
    l.browser.loading = false ∧ l.browser.items = [] ∧
      (l.run.issued = [] ∨ ∃ search, l.IsNewest search ∧ l.HasSucceeded search)

/-- The invariant that every input preserves. -/
structure Kept (l : SearchLog) : Prop where
  numbered : BrowserRun.Numbered 0 l.run
  known : ∀ search, l.HasEnded search → search < l.run.issued.length
  /-- A filter search asks for the first page. -/
  first : ∀ ticket ∈ l.run.issued, ticket.mode = .replace → ticket.skip = 0
  loading : l.browser.loading = true ↔ ∃ search, l.IsNewest search ∧ ¬ l.HasEnded search
  quiet : l.browser.loading = true → l.browser.error = none
  outcome : l.browser.loading = false →
    (l.browser.error = none ↔
      l.run.issued = [] ∨ ∃ search, l.IsNewest search ∧ l.HasSucceeded search)
  /-- While there is more, the browser is on the page that was applied last. -/
  more : l.browser.items.length < l.browser.total →
    ∃ last, l.applied = some last ∧ l.browser.skip = last.skip
  selection : l.browser.SelectionValid

end SearchLog

/-! ## Completing a search -/

namespace StoreBrowser

variable {b : StoreBrowser} {ticket : SearchTicket}

/-- A result that is taken shows a failure if and only if it is one. -/
theorem error_complete_iff (hnew : ticket.generation = b.generation) (hquiet : b.error = none)
    (result : Except Failure SearchPage) :
    (b.complete ticket result).2.error = none ↔ result.isOk = true := by
  cases result with
  | ok page =>
    have herror : (b.complete ticket (.ok page)).2.error = b.error := by
      rw [complete_ok hnew]
      dsimp only [showPage]
      split <;> rfl
    rw [herror]
    exact ⟨fun _ => rfl, fun _ => hquiet⟩
  | error f =>
    have herror : (b.complete ticket (.error f)).2.error = some errorMessage := by
      rw [complete_error hnew]
      dsimp only [showFailure]
      split <;> rfl
    rw [herror]
    exact ⟨nofun, nofun⟩

theorem selectionValid_of_zero (h : b.selected = 0) : b.SelectionValid := by
  unfold SelectionValid
  rw [h]
  rcases Nat.eq_zero_or_pos b.items.length with hnone | hpos
  · exact .inr ⟨List.length_eq_zero_iff.mp hnone, rfl⟩
  · exact .inl hpos

theorem selectionValid_complete (hnew : ticket.generation = b.generation)
    (h : b.SelectionValid) (result : Except Failure SearchPage) :
    (b.complete ticket result).2.SelectionValid := by
  cases result with
  | ok page =>
    rw [complete_ok hnew]
    dsimp only [showPage]
    split
    · exact selectionValid_of_zero rfl
    · -- the selection stays where it is when offerings are appended
      rcases h with hbelow | ⟨-, hzero⟩
      · left
        show b.selected < (b.items ++ page.items).length
        rw [List.length_append]
        omega
      · exact selectionValid_of_zero hzero
  | error f =>
    rw [complete_error hnew]
    dsimp only [showFailure]
    split
    · exact selectionValid_of_zero rfl
    · exact h

/-- A page that is taken is where the browser goes. -/
theorem skip_complete_ok (hnew : ticket.generation = b.generation)
    (hfirst : ticket.mode = .replace → ticket.skip = 0) (page : SearchPage) :
    (b.complete ticket (.ok page)).2.skip = ticket.skip := by
  rw [complete_ok hnew]
  dsimp only [showPage]
  split
  · rename_i hmode
    exact (hfirst hmode).symm
  · rfl

/-- After a failure there is more only where there was more before. -/
theorem more_complete_error (hnew : ticket.generation = b.generation) (f : Failure)
    (hmore : (b.complete ticket (.error f)).2.items.length <
      (b.complete ticket (.error f)).2.total) :
    b.items.length < b.total ∧ (b.complete ticket (.error f)).2.skip = b.skip := by
  rw [complete_error hnew] at hmore ⊢
  dsimp only [showFailure] at hmore ⊢
  split at hmore
  · exact absurd hmore (Nat.lt_irrefl 0)
  · exact ⟨hmore, rfl⟩

/-! ## What is shown -/

theorem hasMore_eq_false_iff (b : StoreBrowser) : b.hasMore = false ↔ b.total ≤ b.items.length := by
  unfold hasMore
  rw [decide_eq_false_iff_not, Nat.not_lt]

theorem loadMore_eq_none_iff (b : StoreBrowser) :
    b.loadMore.1 = none ↔ b.loading = true ∨ b.total ≤ b.items.length := by
  rw [← hasMore_eq_false_iff]
  rcases b.loadMore_cases with ⟨hnone, hwhy⟩ | ⟨ticket, next, hsome, hasks⟩
  · rw [hnone]
    exact ⟨fun _ => hwhy, fun _ => rfl⟩
  · rw [hsome, hasks.loading, hasks.hasMore]
    simp

theorem showsEmptyState_iff (b : StoreBrowser) :
    b.showsEmptyState = true ↔ b.loading = false ∧ b.error = none ∧ b.items = [] := by
  unfold showsEmptyState
  rw [Bool.and_eq_true, Bool.and_eq_true, Bool.not_eq_true', Option.isNone_iff_eq_none,
    List.isEmpty_iff, and_assoc]

end StoreBrowser

namespace SearchLog

variable {l : SearchLog}

/-! ## Issuing a search -/

/-- A search that is issued leaves what is shown as it is, but for the failure. -/
structure Begins (b : StoreBrowser) (ticket : SearchTicket) (next : StoreBrowser) : Prop where
  browser : next = { b with
    filters := next.filters
    history := next.history
    generation := next.generation
    loading := true
    error := none }
  first : ticket.mode = .replace → ticket.skip = 0

theorem kept_issue (h : l.Kept) {ticket : SearchTicket} {next : StoreBrowser}
    (hnumbered : BrowserRun.Numbered 0 (l.run.note (some ticket, next)))
    (hbegins : Begins l.browser ticket next) :
    Kept { l with run := l.run.note (some ticket, next) } := by
  obtain ⟨hnext, hfirst⟩ := hbegins
  have hlength : (l.run.note (some ticket, next)).issued.length = l.run.issued.length + 1 := by
    simp [BrowserRun.note]
  -- the search that has just been issued is the newest, and has not ended
  have hopen : ∃ search, IsNewest { l with run := l.run.note (some ticket, next) } search ∧
      ¬ HasEnded { l with run := l.run.note (some ticket, next) } search := by
    refine ⟨l.run.issued.length, hlength.symm, fun hended => ?_⟩
    have hlt := h.known l.run.issued.length hended
    omega
  have hloading : next.loading = true := by rw [hnext]
  constructor
  · exact hnumbered
  · intro search hended
    have hlt := h.known search hended
    show search < (l.run.note (some ticket, next)).issued.length
    omega
  · intro other hother
    rcases List.mem_append.mp hother with hold | hnew
    · exact h.first other hold
    · obtain rfl : other = ticket := by simpa using hnew
      exact hfirst
  · exact ⟨fun _ => hopen, fun _ => hloading⟩
  · intro _
    show next.error = none
    rw [hnext]
  · intro hresting
    exact absurd (hloading.symm.trans hresting) (by decide)
  · show next.items.length < next.total → ∃ last, l.applied = some last ∧ next.skip = last.skip
    rw [hnext]
    exact h.more
  · show next.SelectionValid
    rw [hnext]
    exact h.selection

/-- A filter search keeps what is shown until it has ended. -/
theorem kept_filterSearch (h : l.Kept) {filters : Filters} {history : History}
    (hnumbered : BrowserRun.Numbered 0
      (l.run.noteSearch { l.run.browser with filters, history }.refresh)) :
    Kept { l with run := l.run.noteSearch { l.run.browser with filters, history }.refresh } := by
  apply kept_issue h hnumbered
  constructor
  · rfl
  · exact fun _ => rfl

theorem kept_loadMore (h : l.Kept) : Kept { l with run := l.run.note l.run.browser.loadMore } := by
  have hnumbered := BrowserRun.numbered_step h.numbered .loadMore
  change BrowserRun.Numbered 0 (l.run.note l.run.browser.loadMore) at hnumbered
  rcases l.run.browser.loadMore_cases with ⟨hnone, -⟩ | ⟨ticket, next, hsome, hasks⟩
  · rw [hnone, BrowserRun.note_none]
    exact h
  · rw [hsome] at hnumbered ⊢
    apply kept_issue h hnumbered
    constructor
    · rw [hasks.browser]
      rfl
    · intro hmode
      rw [hasks.mode] at hmode
      cases hmode

theorem kept_revisit (h : l.Kept) (history : Option History)
    (hnumbered : BrowserRun.Numbered 0 (l.run.note (l.run.browser.revisit history))) :
    Kept { l with run := l.run.note (l.run.browser.revisit history) } := by
  cases history with
  | none =>
    show Kept { l with run := l.run.note (none, l.run.browser) }
    rw [BrowserRun.note_none]
    exact h
  | some earlier =>
    exact kept_filterSearch h hnumbered

/-- Moving the selection changes nothing else. -/
theorem kept_select (h : l.Kept) {selected : Nat}
    (hselected : { l.browser with selected }.SelectionValid) :
    Kept { l with run := { l.run with browser := { l.browser with selected } } } where
  numbered := BrowserRun.numbered_browser h.numbered rfl
  known := h.known
  first := h.first
  loading := h.loading
  quiet := h.quiet
  outcome := h.outcome
  more := h.more
  selection := hselected

theorem kept_selectNext (h : l.Kept) :
    Kept { l with run := { l.run with browser := l.run.browser.selectNext } } := by
  unfold StoreBrowser.selectNext
  split
  · exact h
  · rename_i hsome
    apply kept_select h
    have hpos : 0 < l.browser.items.length := by
      rw [List.length_pos_iff, ← List.isEmpty_eq_false_iff]
      exact (Bool.not_eq_true _).mp hsome
    left
    show min (l.browser.selected + 1) (l.browser.items.length - 1) < l.browser.items.length
    omega

theorem kept_selectPrev (h : l.Kept) :
    Kept { l with run := { l.run with browser := l.run.browser.selectPrev } } := by
  apply kept_select h
  rcases h.selection with hbelow | ⟨hnone, hzero⟩
  · left
    show l.browser.selected - 1 < l.browser.items.length
    omega
  · apply StoreBrowser.selectionValid_of_zero
    show l.browser.selected - 1 = 0
    rw [hzero]

/-! ## The end of a search -/

theorem IsNewest.unique {search other : Nat} (h : l.IsNewest search) (hother : l.IsNewest other) :
    other = search :=
  Nat.succ.inj (hother.trans h.symm)

/-- The log with one more end. -/
def noteEnd (l : SearchLog) (search : Nat) (succeeded : Bool) : SearchLog :=
  { l with ends := (search, succeeded) :: l.ends }

theorem hasEnded_noteEnd_iff {search other : Nat} {succeeded : Bool} :
    (l.noteEnd search succeeded).HasEnded other ↔ other = search ∨ l.HasEnded other := by
  simp [HasEnded, noteEnd, exists_or]

theorem hasSucceeded_noteEnd_iff {search other : Nat} {succeeded : Bool} :
    (l.noteEnd search succeeded).HasSucceeded other ↔
      other = search ∧ succeeded = true ∨ l.HasSucceeded other := by
  simp [HasSucceeded, noteEnd, eq_comm]

theorem known_noteEnd (h : l.Kept) {search : Nat} (hissued : search < l.run.issued.length)
    {succeeded : Bool} (other : Nat) (hended : (l.noteEnd search succeeded).HasEnded other) :
    other < l.run.issued.length := by
  rcases hasEnded_noteEnd_iff.mp hended with rfl | hbefore
  · exact hissued
  · exact h.known other hbefore

/-- The log after the end of the newest search, whose result is taken. -/
def taken (l : SearchLog) (search : Nat) (ticket : SearchTicket)
    (result : Except Failure SearchPage) : SearchLog :=
  { l.noteEnd search result.isOk with
    run := { l.run with browser := (l.browser.complete ticket result).2 }
    applied := if result.isOk then some ticket else l.applied }

theorem kept_taken (h : l.Kept) {search : Nat} {ticket : SearchTicket}
    (hissued : l.run.issued[search]? = some ticket) (hnewest : l.IsNewest search)
    (hopen : ¬ l.HasEnded search) (result : Except Failure SearchPage) :
    (l.taken search ticket result).Kept := by
  have hnew : ticket.generation = l.browser.generation :=
    (BrowserRun.complete_taken_iff _ _ result).mp
      ((BrowserRun.taken_iff_newest h.numbered hissued result).mpr hnewest)
  have hlt : search < l.run.issued.length := (List.getElem?_eq_some_iff.mp hissued).1
  have hfirst := h.first ticket (List.mem_of_getElem? hissued)
  -- the search was under way, so no failure was shown
  have hquiet := h.quiet (h.loading.mpr ⟨search, hnewest, hopen⟩)
  have hresting : (l.taken search ticket result).browser.loading = false :=
    StoreBrowser.loading_complete hnew result
  constructor
  · exact BrowserRun.numbered_browser h.numbered (BrowserRun.generation_complete _ _ _)
  · exact known_noteEnd h hlt
  · exact h.first
  · constructor
    · intro hloading
      exact absurd (hresting.symm.trans hloading) (by decide)
    · rintro ⟨other, hother, hneither⟩
      exact absurd (hasEnded_noteEnd_iff.mpr (.inl (hnewest.unique hother))) hneither
  · intro hloading
    exact absurd (hresting.symm.trans hloading) (by decide)
  · intro _
    show (l.browser.complete ticket result).2.error = none ↔ _
    rw [StoreBrowser.error_complete_iff hnew hquiet]
    constructor
    · intro hok
      exact .inr ⟨search, hnewest, hasSucceeded_noteEnd_iff.mpr (.inl ⟨rfl, hok⟩)⟩
    · rintro (hnothing | ⟨other, hother, hsucceeded⟩)
      · change l.run.issued = [] at hnothing
        rw [hnothing] at hissued
        cases hissued
      · obtain rfl := hnewest.unique hother
        rcases hasSucceeded_noteEnd_iff.mp hsucceeded with ⟨-, hok⟩ | hbefore
        · exact hok
        · exact absurd ⟨true, hbefore⟩ hopen
  · intro hmore
    cases result with
    | ok page => exact ⟨ticket, rfl, StoreBrowser.skip_complete_ok hnew hfirst page⟩
    | error f =>
      obtain ⟨hbefore, hskip⟩ := StoreBrowser.more_complete_error hnew f hmore
      obtain ⟨last, hlast, hplace⟩ := h.more hbefore
      exact ⟨last, hlast, hskip.trans hplace⟩
  · exact StoreBrowser.selectionValid_complete hnew h.selection result

/-- The end of a superseded search is noted, and changes nothing else. -/
theorem kept_late (h : l.Kept) {search : Nat} (hlate : search + 1 < l.run.issued.length)
    (succeeded : Bool) : (l.noteEnd search succeeded).Kept := by
  have hother {newest : Nat} (hnewest : l.IsNewest newest) : newest ≠ search := by
    have hlength : newest + 1 = l.run.issued.length := hnewest
    omega
  -- of the newest search the log says what it said before
  have hended : (∃ newest, l.IsNewest newest ∧ ¬ (l.noteEnd search succeeded).HasEnded newest) ↔
      ∃ newest, l.IsNewest newest ∧ ¬ l.HasEnded newest := by
    refine exists_congr fun newest => and_congr_right fun hnewest => ?_
    rw [hasEnded_noteEnd_iff, or_iff_right (hother hnewest)]
  have hsucceeded :
      (∃ newest, l.IsNewest newest ∧ (l.noteEnd search succeeded).HasSucceeded newest) ↔
        ∃ newest, l.IsNewest newest ∧ l.HasSucceeded newest := by
    refine exists_congr fun newest => and_congr_right fun hnewest => ?_
    rw [hasSucceeded_noteEnd_iff, or_iff_right fun hthis => hother hnewest hthis.1]
  constructor
  · exact h.numbered
  · exact known_noteEnd h (Nat.lt_of_succ_lt hlate)
  · exact h.first
  · exact h.loading.trans hended.symm
  · exact h.quiet
  · intro hresting
    exact (h.outcome hresting).trans (or_congr_right hsucceeded.symm)
  · exact h.more
  · exact h.selection

theorem kept_complete (h : l.Kept) (search : Nat) (result : Except Failure SearchPage) :
    (l.complete search result).Kept := by
  unfold complete
  split
  · exact h
  · rename_i ticket hissued
    split
    · exact h
    · rename_i hopen
      have hlt := (List.getElem?_eq_some_iff.mp hissued).1
      have htaken_iff := BrowserRun.taken_iff_newest h.numbered hissued result
      -- the browser takes the result of the newest search, and refuses all others
      by_cases hnewest : l.IsNewest search
      · have htaken : (l.browser.complete ticket result).1 = true := htaken_iff.mpr hnewest
        have hrun : l.run.complete search result =
            { l.run with browser := (l.browser.complete ticket result).2 } := by
          unfold BrowserRun.complete
          rw [hissued]
          rfl
        rw [hrun, appliedBy, htaken, Bool.true_and]
        exact kept_taken h hissued hnewest hopen result
      · have hlate : search + 1 < l.run.issued.length := Nat.lt_of_le_of_ne hlt hnewest
        have hrun : l.run.step (.complete search result) = l.run :=
          BrowserRun.step_of_isLate h.numbered (decide_eq_true hlate)
        change l.run.complete search result = l.run at hrun
        have hrefused : (l.browser.complete ticket result).1 = false :=
          (Bool.not_eq_true _).mp fun htaken => hnewest (htaken_iff.mp htaken)
        rw [hrun, appliedBy, hrefused, Bool.false_and]
        exact kept_late h hlate result.isOk

/-- **Step lemma.** -/
theorem kept_step (h : l.Kept) (input : BrowserInput) : (l.step input).Kept := by
  have hnumbered := BrowserRun.numbered_step h.numbered input
  cases input with
  | refresh => exact kept_filterSearch h hnumbered
  | retry => exact kept_filterSearch h hnumbered
  | applyFilters filters => exact kept_filterSearch h hnumbered
  | loadMore => exact kept_loadMore h
  | back => exact kept_revisit h _ hnumbered
  | forward => exact kept_revisit h _ hnumbered
  | selectNext => exact kept_selectNext h
  | selectPrev => exact kept_selectPrev h
  | complete search result => exact kept_complete h search result

/-! ## Runs -/

theorem kept_start (filters : Filters) (limit : Nat) :
    (start (.new filters limit)).Kept where
  numbered := BrowserRun.numbered_start (.new filters limit)
  known _ := fun ⟨_, hended⟩ => nomatch hended
  first _ hissued := nomatch hissued
  loading := ⟨nofun, fun ⟨search, hnewest, _⟩ => absurd hnewest (Nat.succ_ne_zero search)⟩
  quiet hloading := nomatch hloading
  outcome _ := ⟨fun _ => .inl rfl, fun _ => rfl⟩
  more hmore := absurd hmore (Nat.lt_irrefl 0)
  selection := StoreBrowser.selectionValid_of_zero rfl

/-- **Run lemma.** -/
theorem kept_after (h : l.Kept) (inputs : List BrowserInput) : (l.after inputs).Kept := by
  induction inputs generalizing l with
  | nil => exact h
  | cons input inputs ih => exact ih (kept_step h input)

/-- What is asked for is the page behind the one that was applied last. -/
theorem asks_of_kept (h : l.Kept) {ticket : SearchTicket}
    (hasked : l.browser.loadMore.1 = some ticket) :
    ticket.filters = l.browser.filters ∧ ticket.limit = l.browser.limit ∧
      ∃ last, l.applied = some last ∧ ticket.skip = last.skip + l.browser.limit := by
  rcases l.browser.loadMore_cases with ⟨hnone, -⟩ | ⟨other, next, hsome, hasks⟩
  · rw [hnone] at hasked
    cases hasked
  · rw [hsome] at hasked
    obtain rfl : other = ticket := Option.some.inj hasked
    obtain ⟨last, hlast, hplace⟩ := h.more (of_decide_eq_true hasks.hasMore)
    exact ⟨hasks.filters, hasks.limit, last, hlast, by rw [hasks.skip, hplace]⟩

theorem Kept.sound (h : l.Kept) : l.Sound where
  loading := h.loading
  quiet := h.quiet
  nothing := l.browser.loadMore_eq_none_iff
  asks _ hasked := asks_of_kept h hasked
  selection := h.selection
  empty := by
    rw [StoreBrowser.showsEmptyState_iff]
    apply and_congr_right
    intro hresting
    rw [h.outcome hresting, and_comm]

/-- Whatever a browser is used for, and in whatever order its searches end: what it shows
    of them is what the log says. -/
theorem status_sound (filters : Filters) (limit : Nat) (inputs : List BrowserInput) :
    ((start (.new filters limit)).after inputs).Sound :=
  (kept_after (kept_start filters limit) inputs).sound

/-- A search that fails is not told as one that has found nothing; its retry may be. -/
example :
    let l := (start (.new {} 1)).after [.refresh, .complete 0 (.error (.network "down"))]
    l.browser.showsEmptyState = false ∧
      (l.after [.retry, .complete 1 (.ok ⟨0, []⟩)]).browser.showsEmptyState = true := by
  decide

end SearchLog

end CatalogDesk
