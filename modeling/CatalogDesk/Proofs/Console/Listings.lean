import CatalogDesk.Proofs.Console.Run
import CatalogDesk.Proofs.Lists

/-! # Listings that overtake each other

    Every reload lists a collection anew, whether a listing of it is under way or not, and
    the answers come in any order.  The table takes each answer as it comes: it shows the
    records, and is no longer loading.  So an older answer may replace newer records, and
    may open the table for actions while the newest listing is still under way.

    A *ledger* follows a run of the console and numbers the listings in the order in which
    they were requested.  A run honours its listings if an answer that comes too late, since
    the collection was listed anew, changes nothing; if no row can be selected while the
    newest listing is outstanding; and if the table shows the newest records in the end.
    Main result: `listings_honoured_iff` says that this is so if and only if every answer
    that comes too late finds the newest listing answered and brings no other records. -/

namespace CatalogDesk

/-! ## The ledger -/

/-- What can happen: anything to the console, and the answer to a listing, which is told by
    its number. -/
inductive ListingEvent
  | console (input : ConsoleInput)
  | answer (listing : Nat) (s : SessionContext) (reply : Reply)

/-- The console, the listings that it has requested, and how they have ended. -/
structure ListingLedger where
  console : Console
  issued : List Collection := []
  answers : Nat → Option (Except Failure CatalogRecords) := fun _ => none

/-- What a reply to a listing is taken for. -/
def Collection.readListing (c : Collection) (reply : Reply) : Except Failure CatalogRecords :=
  Work.readReply (CatalogRecords.decode c) reply

/-- The job of a listing ends with what its reply is taken for. -/
theorem work_list (c : Collection) : (Job.list c).work =
    .send { method := .get, path := c.path } fun reply =>
      match c.readListing reply with
      | .ok records => .done (.listed c (.ok records))
      | .error f =>
        .toast ⟨.error, "Failed to load " ++ Text.toLower c.title⟩
          (.done (.listed c (.error f))) := by
  have hlist : (Job.list c).work = .send { method := .get, path := c.path } fun reply =>
      Work.bind (Work.bind (.done (c.readListing reply)) fun result =>
        match result with
        | .ok records => Work.done (.ok records)
        | .error f =>
          Work.bind (Work.notify .error ("Failed to load " ++ Text.toLower c.title))
            fun _ => .done (.error f))
        fun result => .done (.listed c result) := rfl
  rw [hlist]
  congr 1
  funext reply
  simp only [Work.bind]
  cases c.readListing reply <;> rfl

namespace ListingLedger

def start (c : Console) : ListingLedger :=
  { console := c }

/-- A step of the console, with the listings that it requests. -/
def follow (l : ListingLedger) (input : ConsoleInput) : ListingLedger :=
  let (orders, console) := l.console.step input
  { l with console, issued := l.issued ++ asked orders }

/-- A listing ends. -/
def settle (l : ListingLedger) (listing : Nat) (c : Collection) (s : SessionContext)
    (result : Except Failure CatalogRecords) : ListingLedger :=
  { l with
    console := (l.console.take s (.listed c result)).2
    answers := fun n => if n = listing then some result else l.answers n }

/-- A listing that was not requested is not answered, and none is answered twice. -/
def answer (l : ListingLedger) (listing : Nat) (s : SessionContext) (reply : Reply) :
    ListingLedger :=
  match l.issued[listing]?, l.answers listing with
  | some c, none => l.settle listing c s (c.readListing reply)
  | _, _ => l

/-- One event; the console sees the outcome of a listing by its answer only. -/
def step (l : ListingLedger) : ListingEvent → ListingLedger
  | .console (.take _ (.listed _ _)) => l
  | .console input => l.follow input
  | .answer listing s reply => l.answer listing s reply

/-- Something holds of every event of a run, at the ledger where it happens. -/
def Along (P : ListingLedger → ListingEvent → Prop) :
    ListingLedger → List ListingEvent → Prop
  | _, [] => True
  | l, e :: events => P l e ∧ Along P (l.step e) events

/-! ## Honour -/

/-- The collection was listed anew after this listing. -/
def IsLate (l : ListingLedger) (c : Collection) (listing : Nat) : Prop :=
  ∃ later, listing < later ∧ l.issued[later]? = some c

/-- The newest listing of the collection has not been answered. -/
def Outstanding (l : ListingLedger) (c : Collection) : Prop :=
  ∃ listing, l.issued[listing]? = some c ∧ ¬ l.IsLate c listing ∧ l.answers listing = none

/-- These are the records of the listing that was requested last among those of the
    collection that have succeeded. -/
def Newest (l : ListingLedger) (c : Collection) (records : CatalogRecords) : Prop :=
  ∃ listing, l.issued[listing]? = some c ∧ l.answers listing = some (.ok records) ∧
    ∀ later, listing < later → l.issued[later]? = some c →
      ∀ others, l.answers later ≠ some (.ok others)

/-- The event brings this result of a listing. -/
def Brings (l : ListingLedger) (e : ListingEvent) (listing : Nat) (c : Collection)
    (result : Except Failure CatalogRecords) : Prop :=
  l.issued[listing]? = some c ∧ l.answers listing = none ∧
    ∃ s reply, e = .answer listing s reply ∧ c.readListing reply = result

def rows (l : ListingLedger) (c : Collection) : CatalogRecords :=
  l.console.viewer.rows c

def isLoading (l : ListingLedger) (c : Collection) : Bool :=
  l.console.viewer.isLoading c

structure Honours (l : ListingLedger) (e : ListingEvent) : Prop where
  /-- An answer that comes too late neither replaces nor unlocks the table. -/
  late : ∀ listing c result, l.Brings e listing c result → l.IsLate c listing →
    (l.step e).rows c = l.rows c ∧ (l.step e).isLoading c = l.isLoading c
  /-- No row is selected while the newest listing is outstanding. -/
  locked : ∀ c, (l.step e).Outstanding c →
    (l.step e).console.viewer.onTable c (fun t => t.selected?.isNone) = true
  /-- When all answers have arrived, the table shows the newest records. -/
  newest : ∀ c records, (∀ listing : Nat, (l.step e).issued[listing]? = some c →
      (l.step e).answers listing ≠ none) →
    (l.step e).Newest c records → (l.step e).rows c = records

/-- An answer that comes too late does no harm: the newest listing has been answered, and
    the answer brings no other records than those of the table. -/
def Spares (l : ListingLedger) (e : ListingEvent) : Prop :=
  ∀ listing c result, l.Brings e listing c result → l.IsLate c listing →
    ¬ l.Outstanding c ∧ ∀ records, result = .ok records → l.rows c = records

/-- What a table shows and whether it is loading follow from the listings.  This is the
    invariant of runs whose late answers do no harm. -/
structure Kept (l : ListingLedger) : Prop where
  answered : ∀ listing, l.answers listing ≠ none → listing < l.issued.length
  loading : ∀ c, l.isLoading c = true ↔ l.Outstanding c
  newest : ∀ c records, l.Newest c records → l.rows c = records

/-! ## Answers -/

theorem collection_decode {c : Collection} {v : Json} {records : CatalogRecords}
    (h : CatalogRecords.decode c v = .ok records) : records.collection = c := by
  have hmap {α : Type} {read : Decode.Result (List α)} {f : List α → CatalogRecords}
      (hf : ∀ items, (f items).collection = c) (hread : read.map f = .ok records) :
      records.collection = c := by
    cases read with
    | error e => cases hread
    | ok items =>
      cases hread
      exact hf items
  cases c <;> exact hmap (fun _ => rfl) h

/-- Only records of its own collection answer a listing. -/
theorem collection_readListing {c : Collection} {reply : Reply} {records : CatalogRecords}
    (h : c.readListing reply = .ok records) : records.collection = c := by
  cases reply with
  | error f => cases h
  | ok a =>
    have hdecode : CatalogRecords.decode c (a.body.getD .null) = .ok records := by
      change (CatalogRecords.decode c (a.body.getD .null)).mapError _ = .ok records at h
      cases hread : CatalogRecords.decode c (a.body.getD .null) with
      | error e => rw [hread] at h; cases h
      | ok others => rw [hread] at h; cases h; rfl
    exact collection_decode hdecode

/-- An answer concerns its own table: it is no longer loading, and has new rows unless the
    listing has failed. -/
theorem settle_spec (l : ListingLedger) (listing : Nat) {c : Collection} (s : SessionContext)
    {result : Except Failure CatalogRecords}
    (h : ∀ records, result = .ok records → records.collection = c) (d : Collection) :
    (l.settle listing c s result).rows d =
        (if d = c then result.toOption.getD (l.rows c) else l.rows d) ∧
      (l.settle listing c s result).isLoading d = (if d = c then false else l.isLoading d) := by
  cases result with
  | error f => cases c <;> cases d <;> exact ⟨rfl, rfl⟩
  | ok records =>
    have hc := h records rfl
    subst hc
    cases records <;> cases d <;> exact ⟨rfl, rfl⟩

/-- An event that brings no answer is followed by the listings that it requests. -/
theorem step_cases (l : ListingLedger) (e : ListingEvent) :
    (∃ listing c s reply, e = .answer listing s reply ∧
      l.Brings e listing c (c.readListing reply) ∧
      l.step e = l.settle listing c s (c.readListing reply)) ∨
    ((∀ listing c result, ¬ l.Brings e listing c result) ∧
      ∃ asked, (l.step e).issued = l.issued ++ asked ∧ (l.step e).answers = l.answers ∧
        l.console.viewer.Awaits asked (l.step e).console.viewer) := by
  cases e with
  | answer listing s reply =>
    cases hissued : l.issued[listing]? with
    | none =>
      refine .inr ⟨?_, [], ?_⟩
      · rintro n c result ⟨hc, -, s', reply', heq, -⟩
        cases heq
        exact absurd (hissued.symm.trans hc) nofun
      · simp [step, answer, hissued, Viewer.awaits_self]
    | some c =>
      cases hanswer : l.answers listing with
      | some result =>
        refine .inr ⟨?_, [], ?_⟩
        · rintro n d other ⟨-, hnone, s', reply', heq, -⟩
          cases heq
          exact absurd (hanswer.symm.trans hnone) nofun
        · simp [step, answer, hissued, hanswer, Viewer.awaits_self]
      | none =>
        refine .inl ⟨listing, c, s, reply, rfl, ⟨hissued, hanswer, s, reply, rfl, rfl⟩, ?_⟩
        simp [step, answer, hissued, hanswer]
  | console input =>
    refine .inr ⟨?_, ?_⟩
    · rintro n c result ⟨-, -, s, reply, heq, -⟩
      cases heq
    · by_cases hlisted : ∃ s c result, input = .take s (.listed c result)
      · obtain ⟨s, c, result, rfl⟩ := hlisted
        exact ⟨[], by simp [step], rfl, l.console.viewer.awaits_self⟩
      · have hfree : ∀ s c result, input ≠ .take s (.listed c result) :=
          fun s c result heq => hlisted ⟨s, c, result, heq⟩
        have hstep : l.step (.console input) = l.follow input := by
          unfold step
          split
          · rename_i s c result heq
            cases heq
            exact absurd rfl (hfree s c result)
          · rename_i heq
            cases heq
            rfl
          · rename_i heq
            cases heq
        rw [hstep]
        exact ⟨asked (l.console.step input).1, rfl, rfl, l.console.lists_step hfree⟩

/-! ## Requests -/

theorem exists_last_of_mem {c : Collection} {asked : List Collection} (h : c ∈ asked) :
    ∃ n : Nat, asked[n]? = some c ∧ ∀ later, n < later → asked[later]? ≠ some c := by
  induction asked with
  | nil => cases h
  | cons a rest ih =>
    by_cases hrest : c ∈ rest
    · obtain ⟨n, hn, hlast⟩ := ih hrest
      refine ⟨n + 1, hn, fun later hlt => ?_⟩
      obtain ⟨m, rfl⟩ : ∃ m, later = m + 1 := ⟨later - 1, by omega⟩
      exact hlast m (by omega)
    · refine ⟨0, ?_, fun later hlt hc => ?_⟩
      · rcases List.mem_cons.mp h with rfl | hmem
        · rfl
        · exact absurd hmem hrest
      · obtain ⟨m, rfl⟩ : ∃ m, later = m + 1 := ⟨later - 1, by omega⟩
        exact hrest (List.mem_of_getElem? hc)

section Requests

variable {l l' : ListingLedger} {asked : List Collection}

theorem getElem?_requested (hissued : l'.issued = l.issued ++ asked) {c : Collection}
    (hc : c ∉ asked) (n : Nat) : l'.issued[n]? = some c ↔ l.issued[n]? = some c := by
  rw [hissued, List.getElem?_append]
  split
  · exact Iff.rfl
  · rename_i hge
    rw [List.getElem?_eq_none (by omega : l.issued.length ≤ n)]
    constructor
    · intro hsome
      exact absurd (List.mem_of_getElem? hsome) hc
    · nofun

theorem outstanding_of_asked (h : l.Kept) (hissued : l'.issued = l.issued ++ asked)
    (hanswers : l'.answers = l.answers) {c : Collection} (hc : c ∈ asked) : l'.Outstanding c := by
  obtain ⟨n, hn, hlast⟩ := exists_last_of_mem (List.mem_append_right l.issued hc)
  obtain ⟨k, hk⟩ := List.mem_iff_getElem?.mp hc
  -- the last of the collection is one of those asked for now, so it is not answered yet
  have hplace : (l.issued ++ asked)[l.issued.length + k]? = some c := by
    rw [List.getElem?_append_right (by omega), Nat.add_sub_cancel_left, hk]
  have hge : l.issued.length ≤ n :=
    Nat.not_lt.mp fun hlt => hlast (l.issued.length + k) (by omega) hplace
  refine ⟨n, by rw [hissued, hn], ?_, ?_⟩
  · rintro ⟨later, hlt, hsome⟩
    exact hlast later hlt (by rw [← hissued, hsome])
  · rw [hanswers]
    cases hanswer : l.answers n with
    | none => rfl
    | some result =>
      have hlt := h.answered n (by rw [hanswer]; nofun)
      omega

theorem outstanding_of_not_asked (hissued : l'.issued = l.issued ++ asked)
    (hanswers : l'.answers = l.answers) {c : Collection} (hc : c ∉ asked) :
    l'.Outstanding c ↔ l.Outstanding c := by
  simp only [Outstanding, IsLate, getElem?_requested hissued hc, hanswers]

theorem newest_of_requests (h : l.Kept) (hissued : l'.issued = l.issued ++ asked)
    (hanswers : l'.answers = l.answers) {c : Collection} {records : CatalogRecords}
    (hnewest : l'.Newest c records) : l.Newest c records := by
  obtain ⟨n, hn, hanswer, hlast⟩ := hnewest
  have hearlier : ∀ m : Nat, m < l.issued.length → l'.issued[m]? = l.issued[m]? := by
    intro m hlt
    rw [hissued, List.getElem?_append_left hlt]
  rw [hanswers] at hanswer
  have hlt := h.answered n (by rw [hanswer]; nofun)
  refine ⟨n, by rw [← hearlier n hlt, hn], hanswer, fun later hlater hsome others => ?_⟩
  have hlt' : later < l.issued.length := (List.getElem?_eq_some_iff.mp hsome).1
  rw [← hanswers]
  exact hlast later hlater (by rw [hearlier later hlt', hsome]) others

/-- **Step lemma** for requests. -/
theorem kept_requests (h : l.Kept) (hissued : l'.issued = l.issued ++ asked)
    (hanswers : l'.answers = l.answers)
    (hawaits : l.console.viewer.Awaits asked l'.console.viewer) : l'.Kept where
  answered listing hanswer := by
    rw [hanswers] at hanswer
    have hlt := h.answered listing hanswer
    rw [hissued, List.length_append]
    omega
  loading c := by
    have hloading : l'.isLoading c = (asked.contains c || l.isLoading c) := (hawaits c).2
    rw [hloading, Bool.or_eq_true, List.contains_iff_mem]
    by_cases hc : c ∈ asked
    · exact iff_of_true (.inl hc) (outstanding_of_asked h hissued hanswers hc)
    · rw [outstanding_of_not_asked hissued hanswers hc, h.loading c]
      exact or_iff_right hc
  newest c records hnewest := by
    have hrows : l'.rows c = l.rows c := (hawaits c).1
    rw [hrows]
    exact h.newest c records (newest_of_requests h hissued hanswers hnewest)

end Requests

/-! ## Late answers -/

section Answers

variable {l : ListingLedger} {listing : Nat} {c : Collection} {s : SessionContext}
  {result : Except Failure CatalogRecords}

theorem answers_settle_self : (l.settle listing c s result).answers listing = some result :=
  if_pos rfl

theorem answers_settle_of_ne {n : Nat} (h : n ≠ listing) :
    (l.settle listing c s result).answers n = l.answers n :=
  if_neg h

/-- The newest listing of the collection is the one that is settled, or was before. -/
theorem not_outstanding_settle (hc : l.issued[listing]? = some c)
    (hspares : l.IsLate c listing → ¬ l.Outstanding c) :
    ¬ (l.settle listing c s result).Outstanding c := by
  rintro ⟨n, hn, hlast, hnone⟩
  have hne : n ≠ listing := by
    rintro rfl
    rw [answers_settle_self] at hnone
    cases hnone
  rw [answers_settle_of_ne hne] at hnone
  rcases Nat.lt_or_gt_of_ne hne with hlt | hgt
  · exact hlast ⟨listing, hlt, hc⟩
  · exact hspares ⟨n, hgt, hn⟩ ⟨n, hn, hlast, hnone⟩

theorem outstanding_settle_of_ne (hc : l.issued[listing]? = some c) {d : Collection}
    (hd : d ≠ c) : (l.settle listing c s result).Outstanding d ↔ l.Outstanding d := by
  have hother : ∀ n, l.issued[n]? = some d → n ≠ listing := by
    rintro n hn rfl
    exact hd (Option.some.inj (hn.symm.trans hc))
  constructor
  · rintro ⟨n, hn, hlast, hnone⟩
    exact ⟨n, hn, hlast, by rwa [answers_settle_of_ne (hother n hn)] at hnone⟩
  · rintro ⟨n, hn, hlast, hnone⟩
    exact ⟨n, hn, hlast, by rwa [answers_settle_of_ne (hother n hn)]⟩

theorem newest_settle (hnone : l.answers listing = none) {d : Collection}
    {records : CatalogRecords} (h : (l.settle listing c s result).Newest d records) :
    (l.issued[listing]? = some d ∧ result = .ok records) ∨
      (l.Newest d records ∧ (l.issued[listing]? = some d → l.IsLate d listing ∨
        ∀ others, result ≠ .ok others)) := by
  obtain ⟨n, hn, hanswer, hlast⟩ := h
  -- the last success is the listing that is settled here, or the one that it was before
  by_cases hne : n = listing
  · subst hne
    rw [answers_settle_self] at hanswer
    exact .inl ⟨hn, Option.some.inj hanswer⟩
  · rw [answers_settle_of_ne hne] at hanswer
    refine .inr ⟨⟨n, hn, hanswer, fun later hlt hsome others => ?_⟩, fun hd => ?_⟩
    · by_cases heq : later = listing
      · subst heq
        rw [hnone]
        nofun
      · have hother := hlast later hlt hsome others
        rwa [answers_settle_of_ne heq] at hother
    · rcases Nat.lt_or_gt_of_ne hne with hlt | hgt
      · refine .inr fun others hok => hlast listing hlt hd others ?_
        rw [answers_settle_self, hok]
      · exact .inl ⟨n, hgt, hn⟩

/-- **Step lemma** for answers that do no harm. -/
theorem kept_settle (h : l.Kept) (hc : l.issued[listing]? = some c)
    (hnone : l.answers listing = none)
    (hcollection : ∀ records, result = .ok records → records.collection = c)
    (hspares : l.IsLate c listing →
      ¬ l.Outstanding c ∧ ∀ records, result = .ok records → l.rows c = records) :
    (l.settle listing c s result).Kept where
  answered n hanswer := by
    by_cases hne : n = listing
    · subst hne
      exact (List.getElem?_eq_some_iff.mp hc).1
    · rw [answers_settle_of_ne hne] at hanswer
      exact h.answered n hanswer
  loading d := by
    rw [(l.settle_spec listing s hcollection d).2]
    by_cases hd : d = c
    · subst hd
      rw [if_pos rfl]
      exact iff_of_false nofun (not_outstanding_settle hc fun hlate => (hspares hlate).1)
    · rw [if_neg hd, outstanding_settle_of_ne hc hd]
      exact h.loading d
  newest d records hnewest := by
    rw [(l.settle_spec listing s hcollection d).1]
    rcases newest_settle hnone hnewest with ⟨hd, rfl⟩ | ⟨hold, hd⟩
    · rw [if_pos (Option.some.inj (hd.symm.trans hc))]
      rfl
    · have hrows := h.newest d records hold
      by_cases hdc : d = c
      · subst hdc
        rw [if_pos rfl]
        -- the rows stay: the listing has failed, or came too late and brings the same
        cases result with
        | error f => exact hrows
        | ok others =>
          rcases hd hc with hlate | hfailed
          · exact ((hspares hlate).2 others rfl).symm.trans hrows
          · exact absurd rfl (hfailed others)
      · rw [if_neg hdc]
        exact hrows

end Answers

/-! ## Runs -/

variable {l : ListingLedger} {e : ListingEvent}

theorem kept_step (h : l.Kept) (hspares : l.Spares e) : (l.step e).Kept := by
  rcases l.step_cases e with ⟨listing, c, s, reply, -, hb, hstep⟩ |
    ⟨-, asked, hissued, hanswers, hawaits⟩
  · rw [hstep]
    exact kept_settle h hb.1 hb.2.1 (fun _ => collection_readListing) (hspares listing c _ hb)
  · exact kept_requests h hissued hanswers hawaits

theorem Kept.locked (h : l.Kept) {c : Collection} (hout : l.Outstanding c) :
    l.console.viewer.onTable c (fun t => t.selected?.isNone) = true := by
  have hloading := (h.loading c).mpr hout
  cases c <;>
    simp only [isLoading, Viewer.isLoading, Viewer.onTable, Table.selected?] at hloading ⊢ <;>
    rw [if_pos hloading] <;> rfl

/-- The result of a listing is taken. -/
theorem step_of_brings {listing : Nat} {c : Collection} {result : Except Failure CatalogRecords}
    (hb : l.Brings e listing c result) :
    (∀ records, result = .ok records → records.collection = c) ∧
      ∃ s, l.step e = l.settle listing c s result := by
  obtain ⟨hc, hnone, s, reply, rfl, rfl⟩ := hb
  exact ⟨fun _ => collection_readListing, s, by simp only [step, answer, hc, hnone]⟩

theorem honours_iff_spares_of_kept (h : l.Kept) : l.Honours e ↔ l.Spares e := by
  constructor
  · intro hh listing c result hb hlate
    obtain ⟨hcollection, s, hstep⟩ := step_of_brings hb
    obtain ⟨hrows, hloading⟩ := l.settle_spec listing s hcollection c
    obtain ⟨hsame, hlocked⟩ := hh.late listing c result hb hlate
    rw [hstep, hrows, if_pos rfl] at hsame
    rw [hstep, hloading, if_pos rfl] at hlocked
    constructor
    · intro hout
      rw [(h.loading c).mpr hout] at hlocked
      cases hlocked
    · rintro records rfl
      exact hsame.symm
  · intro hspares
    have hkept := kept_step h hspares
    refine ⟨fun listing c result hb hlate => ?_, fun c hout => hkept.locked hout,
      fun c records _ hnewest => hkept.newest c records hnewest⟩
    obtain ⟨hcollection, s, hstep⟩ := step_of_brings hb
    obtain ⟨hrows, hloading⟩ := l.settle_spec listing s hcollection c
    obtain ⟨hout, hsame⟩ := hspares listing c result hb hlate
    rw [hstep, hrows, hloading, if_pos rfl, if_pos rfl]
    constructor
    · cases result with
      | error f => rfl
      | ok records => exact (hsame records rfl).symm
    · exact (Bool.eq_false_iff.mpr (mt (h.loading c).mp hout)).symm

theorem kept_start (settings : Settings) (remembered : Remembered) :
    (start (.new settings remembered)).Kept where
  answered _ h := absurd rfl h
  loading c := by
    refine iff_of_false ?_ ?_
    · cases c <;> exact Bool.false_ne_true
    · rintro ⟨n, hn, -⟩
      cases hn
  newest c records := by
    rintro ⟨n, hn, -⟩
    cases hn

/-- **Run lemma**, from any ledger in which no late answer has done harm. -/
theorem along_honours_iff_along_spares (h : l.Kept) (events : List ListingEvent) :
    Along Honours l events ↔ Along Spares l events := by
  induction events generalizing l with
  | nil => exact Iff.rfl
  | cons e events ih =>
    constructor
    · rintro ⟨he, hrest⟩
      have hs := (honours_iff_spares_of_kept h).mp he
      exact ⟨hs, (ih (kept_step h hs)).mp hrest⟩
    · rintro ⟨hs, hrest⟩
      exact ⟨(honours_iff_spares_of_kept h).mpr hs, (ih (kept_step h hs)).mpr hrest⟩

/-- A run of the console honours its listings if and only if every answer that comes too
    late finds the newest listing answered, and has failed or brings the records that the
    table shows anyhow. -/
theorem listings_honoured_iff (settings : Settings) (remembered : Remembered)
    (events : List ListingEvent) :
    Along Honours (start (.new settings remembered)) events ↔
      Along Spares (start (.new settings remembered)) events :=
  along_honours_iff_along_spares (kept_start settings remembered) events

/-! ## A late answer -/

/-- An answer with one characteristic. -/
def oneCharacteristic (id name : String) : Reply :=
  .ok
    { status := 200
      body := some <| .list [.object [("id", .text id), ("name", .text name),
        ("value", .text "1"), ("unit_of_measure", .text "None")]] }

/-- A user is signed in. -/
def signedIn : SessionContext :=
  { token := Token.ofText? "T1", user := some { username := "ann" } }

/-- The viewer opens, and its table is reloaded before it is there; the second listing is
    answered first. -/
def overtaken : List ListingEvent :=
  [.console (.start signedIn),
    .console (.press { session := signedIn, now := 0, wall := 0 } { code := .char 'R' }),
    .answer 1 signedIn (oneCharacteristic "c2" "New"),
    .answer 0 signedIn (oneCharacteristic "c1" "Old")]

/-- Not every run honours its listings: here older records replace newer ones. -/
theorem not_honours_overtaken :
    ¬ Along Honours (start (.new {} { lastRoute := some "viewer" })) overtaken := by
  intro h
  have hlate := h.2.2.2.1.late 0 .characteristics _ ⟨rfl, rfl, _, _, rfl, rfl⟩ ⟨1, by decide, rfl⟩
  exact absurd hlate.1 (by decide)

end ListingLedger

end CatalogDesk
