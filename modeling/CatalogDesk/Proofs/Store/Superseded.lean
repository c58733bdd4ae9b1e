import CatalogDesk.Proofs.Lists
import CatalogDesk.Store.Browser

/-! # Superseded searches

    Searches overlap: another one may be issued before the last one is completed, and
    completions arrive in any order.  A search is superseded as soon as a later one was
    issued.

    Main result: `superseded_vanish` says that the completion of a superseded search is
    refused, every other one is taken, and a run ends as it would have ended without the
    completions of superseded searches.  The browser compares generations only, so the
    invariant is `Numbered`: the tickets are numbered without a gap, up to the generation
    of the browser. -/

namespace CatalogDesk

/-! ## Runs -/

/-- What can happen to a browser.  Searches are told by the order in which they were
    issued, the first one being number zero. -/
inductive BrowserInput
  | refresh
  | retry
  | applyFilters (filters : Filters)
  | loadMore
  | back
  | forward
  | selectNext
  | selectPrev
  | complete (search : Nat) (result : Except Failure SearchPage)

/-- A browser, and the searches that it has issued. -/
structure BrowserRun where
  browser : StoreBrowser
  issued : List SearchTicket := []

namespace BrowserRun

def start (b : StoreBrowser) : BrowserRun :=
  { browser := b }

/-- The run after an operation that may have issued a search. -/
def note (r : BrowserRun) (result : Option SearchTicket × StoreBrowser) : BrowserRun :=
  { browser := result.2, issued := r.issued ++ result.1.toList }

/-- A search that was never issued is not completed. -/
def complete (r : BrowserRun) (search : Nat) (result : Except Failure SearchPage) :
    BrowserRun :=
  match r.issued[search]? with
  | none => r
  | some ticket => { r with browser := (r.browser.complete ticket result).2 }

/-- The run after an operation that has issued a search. -/
def noteSearch (r : BrowserRun) (result : SearchTicket × StoreBrowser) : BrowserRun :=
  r.note (some result.1, result.2)

def step (r : BrowserRun) : BrowserInput → BrowserRun
  | .refresh => r.noteSearch r.browser.refresh
  | .retry => r.noteSearch r.browser.retry
  | .applyFilters filters => r.noteSearch (r.browser.applyFilters filters)
  | .loadMore => r.note r.browser.loadMore
  | .back => r.note r.browser.back
  | .forward => r.note r.browser.forward
  | .selectNext => { r with browser := r.browser.selectNext }
  | .selectPrev => { r with browser := r.browser.selectPrev }
  | .complete search result => r.complete search result

def after (r : BrowserRun) (inputs : List BrowserInput) : BrowserRun :=
  inputs.foldl step r

/-- Is this the completion of a search after which another one was issued? -/
def isLate (r : BrowserRun) : BrowserInput → Bool
  | .complete search _ => search + 1 < r.issued.length
  | _ => false

/-- The inputs of a run without the completions of superseded searches. -/
def timely (r : BrowserRun) : List BrowserInput → List BrowserInput
  | [] => []
  | input :: inputs =>
    let rest := (r.step input).timely inputs
    if r.isLate input then rest else input :: rest

/-- The search of a number has the generation that its number tells, and the browser has
    the generation of the newest search; `first` is the generation before all of them. -/
structure Numbered (first : Nat) (r : BrowserRun) : Prop where
  browser : r.browser.generation = first + r.issued.length
  issued : ∀ search ticket, r.issued[search]? = some ticket →
    ticket.generation = first + search + 1

/-! ## Issuing searches -/

/-- What an operation of the browser may do to its generation: issue the next ticket, or
    none. -/
def Issues (b : StoreBrowser) (result : Option SearchTicket × StoreBrowser) : Prop :=
  (∃ ticket, result.1 = some ticket ∧ ticket.generation = b.generation + 1 ∧
    result.2.generation = b.generation + 1) ∨
  (result.1 = none ∧ result.2 = b)

theorem issues_loadMore (b : StoreBrowser) : Issues b b.loadMore := by
  unfold StoreBrowser.loadMore
  split
  · exact .inr ⟨rfl, rfl⟩
  · exact .inl ⟨_, rfl, rfl, rfl⟩

theorem issues_revisit (b : StoreBrowser) (history : Option History) :
    Issues b (b.revisit history) := by
  unfold StoreBrowser.revisit
  cases history with
  | none => exact .inr ⟨rfl, rfl⟩
  | some h => exact .inl ⟨_, rfl, rfl, rfl⟩

theorem generation_selectNext (b : StoreBrowser) :
    b.selectNext.generation = b.generation := by
  unfold StoreBrowser.selectNext
  split <;> rfl

theorem generation_complete (b : StoreBrowser) (ticket : SearchTicket)
    (result : Except Failure SearchPage) :
    (b.complete ticket result).2.generation = b.generation := by
  unfold StoreBrowser.complete
  split
  · rfl
  · cases result with
    | ok page =>
      show (StoreBrowser.showPage _ ticket page).generation = _
      unfold StoreBrowser.showPage
      split <;> rfl
    | error f =>
      show (StoreBrowser.showFailure _ ticket).generation = _
      unfold StoreBrowser.showFailure
      split <;> rfl

/-- The browser takes the result of a search if and only if it has the same generation. -/
theorem complete_taken_iff (b : StoreBrowser) (ticket : SearchTicket)
    (result : Except Failure SearchPage) :
    (b.complete ticket result).1 = true ↔ ticket.generation = b.generation := by
  unfold StoreBrowser.complete
  split
  · rename_i hne
    exact ⟨nofun, fun heq => absurd heq hne⟩
  · rename_i heq
    rw [ne_eq, Decidable.not_not] at heq
    cases result <;> exact ⟨fun _ => heq, fun _ => rfl⟩

theorem complete_of_ne {b : StoreBrowser} {ticket : SearchTicket}
    (h : ticket.generation ≠ b.generation) (result : Except Failure SearchPage) :
    b.complete ticket result = (false, b) := by
  unfold StoreBrowser.complete
  rw [if_pos h]

/-! ## One input -/

@[simp] theorem note_none (r : BrowserRun) : r.note (none, r.browser) = r := by
  simp [note]

theorem numbered_note {first : Nat} {r : BrowserRun} (h : Numbered first r)
    {result : Option SearchTicket × StoreBrowser} (hissues : Issues r.browser result) :
    Numbered first (r.note result) := by
  obtain ⟨ticket?, browser⟩ := result
  rcases hissues with ⟨ticket, hticket, hnumber, hgeneration⟩ | ⟨hnone, hsame⟩
  · dsimp only at hticket hgeneration
    subst hticket
    constructor
    · show browser.generation = first + (r.issued ++ [ticket]).length
      rw [hgeneration, h.browser, List.length_append, List.length_singleton]
      omega
    · -- A search is an old one, or the one that has just been issued.
      intro search other hother
      rcases (getElem?_concat_eq_some_iff _ _ _ _).mp hother with hold | ⟨rfl, rfl⟩
      · exact h.issued search other hold
      · rw [hnumber, h.browser]
  · dsimp only at hnone hsame
    subst hnone hsame
    rwa [note_none]

theorem numbered_browser {first : Nat} {r : BrowserRun} (h : Numbered first r)
    {browser : StoreBrowser} (hgeneration : browser.generation = r.browser.generation) :
    Numbered first { r with browser } :=
  ⟨hgeneration.trans h.browser, h.issued⟩

/-- **Step lemma.** Every input keeps the numbers right. -/
theorem numbered_step {first : Nat} {r : BrowserRun} (h : Numbered first r)
    (input : BrowserInput) : Numbered first (r.step input) := by
  cases input with
  | refresh => exact numbered_note h (.inl ⟨_, rfl, rfl, rfl⟩)
  | retry => exact numbered_note h (.inl ⟨_, rfl, rfl, rfl⟩)
  | applyFilters filters => exact numbered_note h (.inl ⟨_, rfl, rfl, rfl⟩)
  | loadMore => exact numbered_note h (issues_loadMore _)
  | back => exact numbered_note h (issues_revisit _ _)
  | forward => exact numbered_note h (issues_revisit _ _)
  | selectNext => exact numbered_browser h (generation_selectNext _)
  | selectPrev => exact numbered_browser h rfl
  | complete search result =>
    show Numbered first (r.complete search result)
    unfold complete
    split
    · exact h
    · exact numbered_browser h (generation_complete _ _ _)

/-- The result of a search is taken if and only if the search is the newest one. -/
theorem taken_iff_newest {first : Nat} {r : BrowserRun} (h : Numbered first r)
    {search : Nat} {ticket : SearchTicket} (hissued : r.issued[search]? = some ticket)
    (result : Except Failure SearchPage) :
    (r.browser.complete ticket result).1 = true ↔ search + 1 = r.issued.length := by
  rw [complete_taken_iff, h.issued search ticket hissued, h.browser]
  omega

/-- The completion of a superseded search changes nothing. -/
theorem step_of_isLate {first : Nat} {r : BrowserRun} (h : Numbered first r)
    {input : BrowserInput} (hlate : r.isLate input = true) : r.step input = r := by
  cases input with
  | complete search result =>
    have hlt : search + 1 < r.issued.length := of_decide_eq_true hlate
    show r.complete search result = r
    unfold complete
    split
    · rfl
    · rename_i ticket hissued
      have hne : ticket.generation ≠ r.browser.generation := by
        rw [h.issued search ticket hissued, h.browser]
        omega
      rw [complete_of_ne hne]
  | _ => cases hlate

/-! ## Runs without superseded searches -/

theorem numbered_start (b : StoreBrowser) : Numbered b.generation (start b) :=
  ⟨rfl, fun _ _ hissued => by cases hissued⟩

/-- **Run lemma.** -/
theorem numbered_after {first : Nat} {r : BrowserRun} (h : Numbered first r)
    (inputs : List BrowserInput) : Numbered first (r.after inputs) := by
  induction inputs generalizing r with
  | nil => exact h
  | cons input inputs ih => exact ih (numbered_step h input)

theorem after_timely {first : Nat} {r : BrowserRun} (h : Numbered first r)
    (inputs : List BrowserInput) : r.after (r.timely inputs) = r.after inputs := by
  induction inputs generalizing r with
  | nil => rfl
  | cons input inputs ih =>
    have hrest := ih (numbered_step h input)
    show r.after (if r.isLate input then _ else _) = (r.step input).after inputs
    by_cases hlate : r.isLate input = true
    · -- The late completion leaves the run where it was, so it can be left out.
      rw [if_pos hlate, ← hrest, step_of_isLate h hlate]
    · rw [if_neg hlate]
      exact hrest

/-- Whatever a browser is used for, and in whatever order its searches are completed: the
    result of a search is taken if and only if no other search was issued after it, and
    browser and searches end as in the same run without the completions of superseded
    searches. -/
theorem superseded_vanish (b : StoreBrowser) (inputs : List BrowserInput) :
    (∀ search ticket result, ((start b).after inputs).issued[search]? = some ticket →
      ((((start b).after inputs).browser.complete ticket result).1 = true ↔
        search + 1 = ((start b).after inputs).issued.length)) ∧
    (start b).after ((start b).timely inputs) = (start b).after inputs := by
  constructor
  · intro search ticket result hissued
    exact taken_iff_newest (numbered_after (numbered_start b) inputs) hissued result
  · exact after_timely (numbered_start b) inputs

/-- Runs that differ in the completions of superseded searches only end alike. -/
theorem after_eq_of_timely_eq (b : StoreBrowser) {inputs others : List BrowserInput}
    (h : (start b).timely inputs = (start b).timely others) :
    (start b).after inputs = (start b).after others := by
  rw [← after_timely (numbered_start b) inputs, h, after_timely (numbered_start b) others]

end BrowserRun

end CatalogDesk
