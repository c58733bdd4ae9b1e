import CatalogDesk.Proofs.Table.Literal
import CatalogDesk.Proofs.Table.Pages
import CatalogDesk.Proofs.Viewer.Steps

/-! # The search field of the viewer

    There is one search field and there are four tables, each with a term of its own.  The
    field is given the term of a table when that becomes the active one, and gives the table
    its text when a key tells that it has changed it.

    The invariant is `ShowsTerm`: the text in the field is the term of the active table.  What
    is shown is told from it: `tells_rows` says that the text in the field tells which rows the
    active table shows, after any run. -/

namespace CatalogDesk

variable {α : Type}

/-! ## The rows of one table -/

/-- The records in which a text is found, or all of them if the text is empty, are the rows of
    the table: each of them once, on one of its pages. -/
structure Table.Finds (t : Table α) (text : String) : Prop where
  term : t.search = text
  nodup : t.view.Nodup
  mem : ∀ i, i ∈ t.view ↔ ∃ r, t.records[i]? = some r ∧ (text = "" ∨ (t.encode r).Mentions text)
  pages : (t.visit (List.range' 1 t.totalPages)).flatMap Table.pageRows =
    t.view.filterMap fun i => t.records[i]?
  /-- The page that is shown has no others. -/
  page : ∀ r ∈ t.pageRows, text = "" ∨ (t.encode r).Mentions text

theorem Table.Maintained.finds {columns : List (Column α)} {encode : α → Json} {t : Table α}
    (h : t.Maintained columns encode) : t.Finds t.search := by
  obtain ⟨q, hq⟩ := h.request
  have hmem (i : Nat) : i ∈ t.view ↔
      ∃ r, t.records[i]? = some r ∧ (t.search = "" ∨ (t.encode r).Mentions t.search) := by
    rw [hq.mem_view_iff, hq.records, hq.term, hq.encode]
    rfl
  refine ⟨rfl, hq.nodup_view, hmem, ?_, fun r hr => ?_⟩
  · rw [(hq.visit_spec h.pageSize).2, ← hq.rows]
    rfl
  · obtain ⟨i, hi, hrecord⟩ := List.mem_filterMap.mp hr
    obtain ⟨r', hr', hfound⟩ := (hmem i).mp (List.mem_of_mem_drop (List.mem_of_mem_take hi))
    rw [hrecord, Option.some.injEq] at hr'
    rwa [hr']

namespace Viewer

/-! ## What the field shows -/

/-- The text in the search field is the term of the active table. -/
def ShowsTerm (v : Viewer) : Prop :=
  v.search.value = v.onTable v.active fun t => t.search

/-- The text in the search field tells which rows the active table shows. -/
def TellsRows (v : Viewer) : Prop :=
  v.onTable v.active fun t => t.Finds v.search.value

theorem Maintained.finds {v : Viewer} (h : v.Maintained) (c : Collection) :
    v.onTable c fun t => t.Finds t.search := by
  cases c with
  | characteristics => exact h.characteristics.finds
  | specifications => exact h.specifications.finds
  | prices => exact h.prices.finds
  | offerings => exact h.offerings.finds

theorem ShowsTerm.tellsRows {v : Viewer} (hterm : v.ShowsTerm) (h : v.Maintained) :
    v.TellsRows := by
  have hfinds := h.finds v.active
  unfold TellsRows
  rw [hterm]
  generalize v.active = c at hfinds ⊢
  cases c <;> exact hfinds

/-! ## Changes of one table -/

section changes

variable {β : Type} (v : Viewer) (c : Collection) (f : {α : Type} → Table α → Table α)

@[simp] theorem active_changeTable : (v.changeTable c f).active = v.active := by
  cases c <;> rfl

@[simp] theorem search_changeTable : (v.changeTable c f).search = v.search := by
  cases c <;> rfl

theorem onTable_changeTable_self (g : {α : Type} → Table α → β) :
    (v.changeTable c f).onTable c g = v.onTable c fun t => g (f t) := by
  cases c <;> rfl

/-- What a change leaves as it is in every table is the same in all tables. -/
theorem onTable_changeTable (g : {α : Type} → Table α → β)
    (hg : ∀ {α : Type} (t : Table α), g (f t) = g t) (d : Collection) :
    (v.changeTable c f).onTable d g = v.onTable d g := by
  cases c with
  | characteristics =>
    cases d with
    | characteristics => exact hg _
    | _ => rfl
  | specifications =>
    cases d with
    | specifications => exact hg _
    | _ => rfl
  | prices =>
    cases d with
    | prices => exact hg _
    | _ => rfl
  | offerings =>
    cases d with
    | offerings => exact hg _
    | _ => rfl

end changes

/-! ## One step -/

variable {v : Viewer}

theorem ShowsTerm.changeTable (h : v.ShowsTerm) (c : Collection)
    {f : {α : Type} → Table α → Table α}
    (hf : ∀ {α : Type} (t : Table α), (f t).search = t.search) :
    (v.changeTable c f).ShowsTerm := by
  unfold ShowsTerm
  rw [search_changeTable, active_changeTable, v.onTable_changeTable c f _ hf]
  exact h

theorem ShowsTerm.setLoading (h : v.ShowsTerm) (c : Collection) : (v.setLoading c).ShowsTerm :=
  h.changeTable c fun _ => rfl

/-- Whatever the field showed before, it is given the term of the table that is gone to. -/
theorem showsTerm_choose (v : Viewer) (c : Collection) : (v.choose c).2.ShowsTerm := by
  have hgiven : ({ v with
      active := c, doomed := none,
      search := v.search.setValue (v.onTable c fun t => t.search) } : Viewer).ShowsTerm := by
    cases c <;> rfl
  have hchoose := hgiven.setLoading c
  cases c <;> exact hchoose

theorem ShowsTerm.apply (h : v.ShowsTerm) (c : Collection)
    (listed : Except Failure CatalogRecords) : (v.apply c listed).ShowsTerm := by
  cases listed with
  | error f => exact h.changeTable c fun _ => rfl
  | ok records =>
    have hterm : v.onTable v.active (fun t => t.search) =
        (v.apply c (.ok records)).onTable v.active fun t => t.search := by
      cases records <;> cases v.active <;> rfl
    cases records <;> exact Eq.trans h hterm

theorem ShowsTerm.typed {v' : Viewer} (h : v.ShowsTerm) (hv : v.Typed v') : v'.ShowsTerm := by
  cases hv with
  | keeps search searching hsame => exact hsame.trans h
  | searches search =>
    unfold ShowsTerm
    rw [search_changeTable, active_changeTable, onTable_changeTable_self]
    cases v.active <;> rfl

theorem ShowsTerm.moves {p : ViewerAction × Viewer} (h : v.ShowsTerm) (hp : v.Moves p) :
    p.2.ShowsTerm := by
  cases hp with
  | stay => exact h
  | turn f hf => exact h.changeTable v.active fun t => (hf t).search
  | choose c => exact v.showsTerm_choose c
  | search => exact h
  | reload => exact h.setLoading v.active

theorem ShowsTerm.press (h : v.ShowsTerm) (k : Key) : (v.press k).2.ShowsTerm := by
  cases v.pressed k with
  | decides r hdoomed hnone hpress =>
    rw [hpress]
    exact h
  | types hdoomed hnone hpress =>
    rw [hpress]
    exact h.typed (v.typed_pressSearch k)
  | commands c hc hpress =>
    rw [hpress]
    exact h
  | moves hdoomed hnone hpress => exact h.moves hpress

/-- **Step lemma.** -/
theorem ShowsTerm.step (h : v.ShowsTerm) (i : ViewerInput) : (v.step i).2.ShowsTerm := by
  cases i with
  | press k => exact h.press k
  | choose c => exact v.showsTerm_choose c
  | reload => exact h.setLoading v.active
  | setLoading c => exact h.setLoading c
  | apply c listed => exact h.apply c listed

/-- **Run lemma.** -/
theorem ShowsTerm.after (h : v.ShowsTerm) (inputs : List ViewerInput) :
    (v.after inputs).ShowsTerm := by
  induction inputs generalizing v with
  | nil => exact h
  | cons i rest ih => exact ih (h.step i)

/-- After any run the text in the search field is the term of the active table, and its rows
    are the records in which that text is found. -/
theorem field_tells_rows (pageSize offeringPageSize : Nat) (inputs : List ViewerInput) :
    ((new pageSize offeringPageSize).after inputs).ShowsTerm ∧
      ((new pageSize offeringPageSize).after inputs).TellsRows := by
  have hnew : (new pageSize offeringPageSize).ShowsTerm := rfl
  have hterm := hnew.after inputs
  exact ⟨hterm, hterm.tellsRows (maintained_after pageSize offeringPageSize inputs)⟩

end Viewer

end CatalogDesk
