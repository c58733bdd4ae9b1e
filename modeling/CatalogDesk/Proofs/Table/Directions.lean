import CatalogDesk.Proofs.Table.Pages

/-! # A column sorted up and down

    Choosing a column sorts by it upwards, choosing it again sorts downwards, and a third
    time undoes the sort.  Upwards and downwards are not mirror images of each other, since
    rows that tie stand in the order of the records both times.  What is turned around is
    the order of the classes of rows that tie (`Classes`).

    Main result: `directions_mirror` says that `Mirrors` holds of any table and any column
    that can be sorted by: up and down list the same classes in opposite orders, so that
    they are reversals of each other exactly if no two rows tie, and the third choice leads
    back to the order of the records, on every page. -/

namespace CatalogDesk

/-! ## Classes of rows that tie -/

namespace Table

variable {β : Type}

/-- Rows fall into classes: those of one class tie, and they come before those of the next. -/
structure Classes (cmp : β → β → Ordering) (rows : List β) (classes : List (List β)) : Prop where
  rows : classes.flatten = rows
  inhabited : ∀ members ∈ classes, members ≠ []
  ties : ∀ members ∈ classes, ∀ a ∈ members, ∀ b ∈ members, cmp a b = .eq
  ascend : classes.Pairwise fun lower higher => ∀ a ∈ lower, ∀ b ∈ higher, cmp a b = .lt

variable {cmp : β → β → Ordering} {rows : List β} {classes : List (List β)}

theorem Classes.nil : Classes cmp [] [] := ⟨rfl, by simp, by simp, .nil⟩

/-- A row that comes before all others is a class of its own. -/
theorem Classes.cons [Std.ReflCmp cmp] (h : Classes cmp rows classes) {a : β}
    (hfirst : ∀ b ∈ rows, cmp a b = .lt) : Classes cmp (a :: rows) ([a] :: classes) where
  rows := by rw [← h.rows]; rfl
  inhabited := by
    intro members hmembers
    rcases List.mem_cons.mp hmembers with rfl | hmembers
    · simp
    · exact h.inhabited members hmembers
  ties := by
    intro members hmembers
    rcases List.mem_cons.mp hmembers with rfl | hmembers
    · simp [Std.ReflCmp.compare_self]
    · exact h.ties members hmembers
  ascend := by
    refine List.pairwise_cons.mpr ⟨?_, h.ascend⟩
    intro higher hhigher x hx b hb
    obtain rfl : x = a := List.mem_singleton.mp hx
    apply hfirst
    rw [← h.rows]
    exact List.mem_flatten_of_mem hhigher hb

/-- A row that ties with one of the first class belongs to it. -/
theorem Classes.join [Std.TransCmp cmp] {first : List β}
    (h : Classes cmp rows (first :: classes)) {a b : β} (hb : b ∈ first) (htie : cmp a b = .eq) :
    Classes cmp (a :: rows) ((a :: first) :: classes) where
  rows := by rw [← h.rows]; rfl
  inhabited := by
    intro members hmembers
    rcases List.mem_cons.mp hmembers with rfl | hmembers
    · simp
    · exact h.inhabited members (List.mem_cons_of_mem _ hmembers)
  ties := by
    have hwith : ∀ x ∈ first, cmp a x = .eq := fun x hx =>
      Std.TransCmp.eq_trans htie (h.ties first List.mem_cons_self b hb x hx)
    have hall : ∀ x ∈ a :: first, cmp a x = .eq := by
      intro x hx
      rcases List.mem_cons.mp hx with rfl | hx
      · exact Std.ReflCmp.compare_self
      · exact hwith x hx
    intro members hmembers x hx y hy
    rcases List.mem_cons.mp hmembers with rfl | hmembers
    · exact Std.TransCmp.eq_trans (Std.OrientedCmp.eq_symm (hall x hx)) (hall y hy)
    · exact h.ties members (List.mem_cons_of_mem _ hmembers) x hx y hy
  ascend := by
    obtain ⟨hfirst, hrest⟩ := List.pairwise_cons.mp h.ascend
    refine List.pairwise_cons.mpr ⟨?_, hrest⟩
    intro higher hhigher x hx y hy
    rcases List.mem_cons.mp hx with rfl | hx
    · exact Std.TransCmp.lt_of_eq_of_lt htie (hfirst higher hhigher b hb y hy)
    · exact hfirst higher hhigher x hx y hy

/-- Sorted rows fall into classes. -/
theorem exists_classes [Std.TransCmp cmp] (hsorted : rows.Pairwise fun a b => (cmp a b).isLE) :
    ∃ classes, Classes cmp rows classes := by
  induction rows with
  | nil => exact ⟨[], .nil⟩
  | cons a rows ih =>
    obtain ⟨hleast, hsorted⟩ := List.pairwise_cons.mp hsorted
    obtain ⟨classes, h⟩ := ih hsorted
    cases classes with
    | nil =>
      obtain rfl : [] = rows := h.rows
      exact ⟨_, h.cons (by simp)⟩
    | cons first classes =>
      obtain ⟨b, rest, rfl⟩ := List.exists_cons_of_ne_nil (h.inhabited first List.mem_cons_self)
      obtain rfl : b :: (rest ++ classes.flatten) = rows := h.rows
      -- the row is compared with the first of those behind it
      have hle : (cmp a b).isLE := hleast b List.mem_cons_self
      cases hcmp : cmp a b with
      | eq => exact ⟨_, h.join List.mem_cons_self hcmp⟩
      | lt =>
        refine ⟨_, h.cons fun x hx => ?_⟩
        rcases List.mem_cons.mp hx with rfl | hx
        · exact hcmp
        · exact Std.TransCmp.lt_of_lt_of_isLE hcmp (List.rel_of_pairwise_cons hsorted hx)
      | gt => simp [hcmp] at hle

/-- A class has all rows that tie with one of its own. -/
theorem Classes.filter_eq [Std.OrientedCmp cmp] (h : Classes cmp rows classes) {members : List β}
    (hmembers : members ∈ classes) {a : β} (ha : a ∈ members) :
    rows.filter (cmp a · == .eq) = members := by
  obtain ⟨lower, higher, rfl⟩ := List.append_of_mem hmembers
  obtain ⟨-, hascend, hbetween⟩ := List.pairwise_append.mp h.ascend
  have hlower : lower.flatten.filter (cmp a · == .eq) = [] := by
    rw [List.filter_eq_nil_iff]
    intro b hb
    obtain ⟨others, hothers, hb⟩ := List.mem_flatten.mp hb
    have hlt := hbetween others hothers members List.mem_cons_self b hb a ha
    simp [Std.OrientedCmp.gt_of_lt hlt]
  have hhigher : higher.flatten.filter (cmp a · == .eq) = [] := by
    rw [List.filter_eq_nil_iff]
    intro b hb
    obtain ⟨others, hothers, hb⟩ := List.mem_flatten.mp hb
    have hlt := List.rel_of_pairwise_cons hascend hothers a ha b hb
    simp [hlt]
  have hown : members.filter (cmp a · == .eq) = members := by
    rw [List.filter_eq_self]
    intro b hb
    simp [h.ties members hmembers a ha b hb]
  rw [← h.rows, List.flatten_append, List.flatten_cons, List.filter_append, List.filter_append,
    hlower, hhigher, hown, List.append_nil, List.nil_append]

/-- Classes in the opposite order: rows come in descending order, and those that tie as
    before. -/
theorem Classes.pairwise_reverse (h : Classes cmp rows classes) {R : β → β → Prop}
    (hrows : rows.Pairwise fun a b => cmp a b = .lt ∨ cmp a b = .eq ∧ R a b) :
    classes.reverse.flatten.Pairwise fun a b => cmp b a = .lt ∨ cmp a b = .eq ∧ R a b := by
  rw [← h.rows, List.pairwise_flatten] at hrows
  rw [List.pairwise_flatten]
  constructor
  · intro members hmembers
    rw [List.mem_reverse] at hmembers
    refine (hrows.1 members hmembers).imp_of_mem ?_
    intro a b ha hb hab
    have htie := h.ties members hmembers a ha b hb
    rcases hab with hlt | hab
    · rw [htie] at hlt
      cases hlt
    · exact .inr hab
  · rw [List.pairwise_reverse]
    refine h.ascend.imp ?_
    intro lower higher hlt b hb a ha
    exact .inl (hlt a ha b hb)

end Table

/-! ## The rows of a request -/

namespace TableRequest

open Table

variable {α : Type}

/-- The same request, sorted by a column. -/
def sortedBy (q : TableRequest α) (column : Nat) (direction : SortDirection) : TableRequest α :=
  { q with sort := some (column, direction) }

/-- Rows compared by what their values in a column weigh. -/
def weighBy (q : TableRequest α) (c : Column α) (a b : Nat × α) : Ordering :=
  weigh (q.value c a.2) (q.value c b.2)

instance (q : TableRequest α) (c : Column α) : Std.TransCmp (q.weighBy c) :=
  transCmp_on weigh fun a : Nat × α => q.value c a.2

variable {q : TableRequest α} {column : Nat} {c : Column α}

theorem weighRows_sortedBy (hcolumn : q.columns[column]? = some c) (direction : SortDirection)
    (a b : Nat × α) :
    (q.sortedBy column direction).weighRows a.2 b.2 = direction.orient (q.weighBy c a b) := by
  have hactive : (q.sortedBy column direction).active? = some (c, direction) := by
    simp [active?, sortedBy, hcolumn]
  unfold weighRows
  rw [hactive]
  rfl

theorem HoldsData.sortedBy (h : q.HoldsData) (column : Nat) (direction : SortDirection) :
    (q.sortedBy column direction).HoldsData := h

theorem compareRows_sortedBy (hcolumn : q.columns[column]? = some c) (direction : SortDirection)
    {a b : Nat × α} (ha : (q.encode a.2).isData = true) (hb : (q.encode b.2).isData = true) :
    (q.sortedBy column direction).compareRows a.2 b.2 = direction.orient (q.weighBy c a b) := by
  rw [← weighRows_sortedBy hcolumn]
  exact compareRows_eq_weighRows ha hb

theorem precedes_ascending_iff (hcolumn : q.columns[column]? = some c) {a b : Nat × α}
    (ha : (q.encode a.2).isData = true) (hb : (q.encode b.2).isData = true) :
    (q.sortedBy column .ascending).Precedes a b ↔
      q.weighBy c a b = .lt ∨ q.weighBy c a b = .eq ∧ a.1 < b.1 := by
  unfold Precedes
  rw [compareRows_sortedBy hcolumn _ ha hb]
  rfl

theorem precedes_descending_iff (hcolumn : q.columns[column]? = some c) {a b : Nat × α}
    (ha : (q.encode a.2).isData = true) (hb : (q.encode b.2).isData = true) :
    (q.sortedBy column .descending).Precedes a b ↔
      q.weighBy c b a = .lt ∨ q.weighBy c a b = .eq ∧ a.1 < b.1 := by
  have hswap : q.weighBy c b a = (q.weighBy c a b).swap := Std.OrientedCmp.eq_swap
  unfold Precedes
  rw [compareRows_sortedBy hcolumn _ ha hb, hswap]
  simp [SortDirection.orient]

theorem pairwise_ascending (hdata : q.HoldsData) (hcolumn : q.columns[column]? = some c) :
    (q.sortedBy column .ascending).sortedRows.Pairwise fun a b =>
      q.weighBy c a b = .lt ∨ q.weighBy c a b = .eq ∧ a.1 < b.1 := by
  have hup : (q.sortedBy column .ascending).Arranged _ :=
    arranged_sortedRows (hdata.sortedBy _ _)
  refine hup.sorted.imp_of_mem ?_
  intro a b ha hb hab
  have hdataA := hdata.of_mem_kept (hup.perm.mem_iff.mp ha)
  have hdataB := hdata.of_mem_kept (hup.perm.mem_iff.mp hb)
  exact (precedes_ascending_iff hcolumn hdataA hdataB).mp hab

/-- Only one list of the rows is in descending order. -/
theorem sortedRows_descending_eq (hdata : q.HoldsData) (hcolumn : q.columns[column]? = some c)
    {rows : List (Nat × α)} (hperm : rows.Perm (q.sortedBy column .ascending).sortedRows)
    (hrows : rows.Pairwise fun a b =>
      q.weighBy c b a = .lt ∨ q.weighBy c a b = .eq ∧ a.1 < b.1) :
    (q.sortedBy column .descending).sortedRows = rows := by
  have hkept : rows.Perm q.kept := hperm.trans (List.mergeSort_perm _ _)
  have harranged : (q.sortedBy column .descending).Arranged rows := by
    refine ⟨hkept, hrows.imp_of_mem ?_⟩
    intro a b ha hb hab
    have hdataA := hdata.of_mem_kept (hkept.mem_iff.mp ha)
    have hdataB := hdata.of_mem_kept (hkept.mem_iff.mp hb)
    exact (precedes_descending_iff hcolumn hdataA hdataB).mpr hab
  exact arranged_unique (hdata.sortedBy _ _) harranged (arranged_sortedRows (hdata.sortedBy _ _))

theorem exists_classes_sortedRows (hdata : q.HoldsData) (hcolumn : q.columns[column]? = some c) :
    ∃ classes, Classes (q.weighBy c) (q.sortedBy column .ascending).sortedRows classes ∧
      (q.sortedBy column .descending).sortedRows = classes.reverse.flatten := by
  have hup := pairwise_ascending hdata hcolumn
  have hsorted : (q.sortedBy column .ascending).sortedRows.Pairwise fun a b =>
      (q.weighBy c a b).isLE := by
    refine hup.imp ?_
    rintro a b (hlt | ⟨heq, -⟩)
    · simp [hlt]
    · simp [heq]
  obtain ⟨classes, hclasses⟩ := exists_classes hsorted
  refine ⟨classes, hclasses, sortedRows_descending_eq hdata hcolumn ?_ ?_⟩
  · rw [← hclasses.rows]
    exact (List.reverse_perm classes).flatten
  · exact hclasses.pairwise_reverse hup

/-- A class is what ties with one of its rows, in the order of the records. -/
theorem filter_sortedRows (hdata : q.HoldsData) (hcolumn : q.columns[column]? = some c)
    (a : Nat × α) :
    (q.sortedBy column .ascending).sortedRows.filter (q.weighBy c a · == .eq) =
      q.kept.filter (q.weighBy c a · == .eq) := by
  have hsort : (q.sortedBy column .ascending).sortedRows =
      q.kept.mergeSort fun a b => (q.weighBy c a b).isLE := by
    rw [sortedRows_eq_mergeSort (hdata.sortedBy _ _)]
    simp only [weighRows_sortedBy hcolumn]
    rfl
  rw [hsort, filter_mergeSort_ties]

/-- Down is the reversal of up if and only if no two rows tie. -/
theorem sortedRows_reverse_iff (hdata : q.HoldsData) (hcolumn : q.columns[column]? = some c) :
    (q.sortedBy column .descending).sortedRows =
        (q.sortedBy column .ascending).sortedRows.reverse ↔
      q.kept.Pairwise fun a b => q.weighBy c a b ≠ .eq := by
  have hup := pairwise_ascending hdata hcolumn
  have hperm : (q.sortedBy column .ascending).sortedRows.Perm q.kept := List.mergeSort_perm _ _
  have hsymm : ∀ {a b : Nat × α}, q.weighBy c a b ≠ .eq → q.weighBy c b a ≠ .eq :=
    fun hab hba => hab (Std.OrientedCmp.eq_symm hba)
  rw [← hperm.pairwise_iff hsymm]
  constructor
  · intro hreverse
    have hdown : (q.sortedBy column .descending).Arranged _ :=
      arranged_sortedRows (hdata.sortedBy _ _)
    have hsorted := hdown.sorted
    rw [hreverse, List.pairwise_reverse] at hsorted
    refine (hup.and hsorted).imp_of_mem ?_
    rintro a b ha hb ⟨hlt | ⟨-, hposition⟩, hba⟩ htie
    · rw [htie] at hlt
      cases hlt
    · -- rows that tie cannot stand in both orders
      have hdataA := hdata.of_mem_kept (hperm.mem_iff.mp ha)
      have hdataB := hdata.of_mem_kept (hperm.mem_iff.mp hb)
      rcases (precedes_descending_iff hcolumn hdataB hdataA).mp hba with hlt | ⟨-, hbefore⟩
      · rw [htie] at hlt
        cases hlt
      · omega
  · intro hties
    refine sortedRows_descending_eq hdata hcolumn (List.reverse_perm _) ?_
    rw [List.pairwise_reverse]
    refine (hup.and hties).imp ?_
    rintro a b ⟨hlt | ⟨htie, -⟩, hne⟩
    · exact .inl hlt
    · exact absurd htie hne

/-- Rows are known by their positions. -/
theorem map_position_eq_iff {rows others : List (Nat × α)}
    (hrows : ∀ p ∈ rows, p ∈ q.kept) (hothers : ∀ p ∈ others, p ∈ q.kept) :
    rows.map (·.1) = others.map (·.1) ↔ rows = others := by
  have hfound (l : List (Nat × α)) (hl : ∀ p ∈ l, p ∈ q.kept) :
      (l.map (·.1)).filterMap (fun i => (q.records[i]?).map (i, ·)) = l := by
    have hall : ∀ p ∈ l, (q.records[p.1]?).map (p.1, ·) = some (id p) := by
      intro p hp
      rw [(mem_kept.mp (hl p hp)).1]
      rfl
    rw [List.filterMap_map]
    exact (List.filterMap_eq_map_iff_forall_eq_some.mpr hall).trans (List.map_id l)
  constructor
  · intro hpositions
    rw [← hfound rows hrows, hpositions, hfound others hothers]
  · rintro rfl
    rfl

end TableRequest

/-! ## Choosing a column -/

namespace Table

variable {α : Type}

theorem nextSort_of_ne {sort : Option (Nat × SortDirection)} {column : Nat}
    (h : ∀ direction, sort ≠ some (column, direction)) :
    nextSort sort column = some (column, .ascending) := by
  unfold nextSort
  split
  · rename_i active
    rw [if_neg]
    rintro rfl
    exact h _ rfl
  · rename_i active
    rw [if_neg]
    rintro rfl
    exact h _ rfl
  · rfl

theorem nextSort_ascending (column : Nat) :
    nextSort (some (column, .ascending)) column = some (column, .descending) := by
  simp [nextSort]

theorem nextSort_descending (column : Nat) :
    nextSort (some (column, .descending)) column = none := by
  simp [nextSort]

theorem toggleSort_eq {t : Table α} {column : Nat} (h : t.isSortable column = true) :
    t.toggleSort column = { t with sort := nextSort t.sort column }.refresh := by
  unfold toggleSort
  rw [if_pos h]

/-- Rows compared by their values in a column. -/
def compareBy (t : Table α) (c : Column α) (a b : Nat × α) : Ordering :=
  compareValues (t.sortKey c a.2) (t.sortKey c b.2)

/-- The rows that tie with one, in the order of the records. -/
def tiedWith (t : Table α) (c : Column α) (a : Nat × α) : List (Nat × α) :=
  t.matching.filter fun b => t.compareBy c a b == .eq

/-- What comes of choosing a column once, twice and three times. -/
structure Mirrors (t : Table α) (column : Nat) (c : Column α) : Prop where
  /-- The rows fall into classes that tie.  Up, the classes come from the least to the
      greatest; down, from the greatest to the least; and in both directions a class is
      listed in the order of the records. -/
  classes : ∃ classes : List (List (Nat × α)),
    classes.flatten.Perm t.matching ∧
    (∀ members ∈ classes, members ≠ [] ∧ ∀ a ∈ members, members = t.tiedWith c a) ∧
    (classes.Pairwise fun lower higher =>
      ∀ a ∈ lower, ∀ b ∈ higher, t.compareBy c a b = .lt) ∧
    (t.toggleSort column).view = classes.flatten.map (·.1) ∧
    ((t.toggleSort column).toggleSort column).view = classes.reverse.flatten.map (·.1)
  reversed : ((t.toggleSort column).toggleSort column).view = (t.toggleSort column).view.reverse ↔
    t.matching.Pairwise fun a b => t.compareBy c a b ≠ .eq
  /-- The third time undoes the sort. -/
  undone : (((t.toggleSort column).toggleSort column).toggleSort column).view =
    t.matching.map (·.1)
  pages : ∀ page, 1 ≤ page → page ≤ max 1 t.totalPages →
    ((((t.toggleSort column).toggleSort column).toggleSort column).setPage page).pageRows =
      ((t.matching.drop ((page - 1) * t.pageSize)).take t.pageSize).map (·.2)
  same : t.sort = none → ((t.toggleSort column).toggleSort column).toggleSort column = t

theorem isSortable_toggleSort (t : Table α) (column other : Nat) :
    (t.toggleSort column).isSortable other = t.isSortable other := by
  unfold toggleSort
  split <;> rfl

/-- Three choices change nothing but the sort, which they take away, and the view. -/
theorem toggleSort_thrice {t : Table α} {column : Nat} (h : t.isSortable column = true)
    (hother : ∀ direction, t.sort ≠ some (column, direction)) :
    ∃ view, ((t.toggleSort column).toggleSort column).toggleSort column =
      { t with sort := none, view } := by
  have honce := toggleSort_eq h
  have htwice := toggleSort_eq (t := t.toggleSort column) (by rwa [isSortable_toggleSort])
  have hthrice := toggleSort_eq (t := (t.toggleSort column).toggleSort column)
    (by rwa [isSortable_toggleSort, isSortable_toggleSort])
  rw [hthrice, htwice, honce, nextSort_of_ne hother]
  simp only [refresh, nextSort_ascending, nextSort_descending]
  exact ⟨_, rfl⟩

end Table

namespace TableRequest

open Table

variable {α : Type} {t : Table α} {q : TableRequest α} {column : Nat} {c : Column α}

theorem Follows.toggleSort (h : Follows t q) (hsortable : t.isSortable column = true) :
    Follows (t.toggleSort column) { q with sort := nextSort q.sort column } := by
  have hstep : Follows (t.toggleSort column) (q.step (.toggleSort column)) :=
    h.step (.toggleSort column)
  have hcolumn : (q.columns[column]?).any (·.sortable) = true := by
    rw [← h.columns]
    exact hsortable
  rwa [TableRequest.step, if_pos hcolumn] at hstep

/-- A column that is not the active one, chosen once, twice and three times. -/
theorem Follows.toggled (h : Follows t q) (hsortable : t.isSortable column = true)
    (hother : ∀ direction, t.sort ≠ some (column, direction)) :
    Follows (t.toggleSort column) (q.sortedBy column .ascending) ∧
      Follows ((t.toggleSort column).toggleSort column) (q.sortedBy column .descending) ∧
      Follows (((t.toggleSort column).toggleSort column).toggleSort column)
        { q with sort := none } := by
  have honce := h.toggleSort hsortable
  rw [← h.sort, nextSort_of_ne hother] at honce
  have htwice := honce.toggleSort (by rwa [isSortable_toggleSort])
  have hthrice := htwice.toggleSort (by rwa [isSortable_toggleSort, isSortable_toggleSort])
  simp only [nextSort_ascending, nextSort_descending] at htwice hthrice
  exact ⟨honce, htwice, hthrice⟩

/-- Without a sort the rows are in the order of the records. -/
theorem Follows.view_of_unsorted (h : Follows t q) (hsort : q.sort = none) :
    t.view = q.kept.map (·.1) := by
  rw [h.view, sortedRows_of_inactive (by simp [active?, hsort])]

theorem Follows.pageRows_of_unsorted (h : Follows t q) (hsort : q.sort = none) {page : Nat}
    (hone : 1 ≤ page) (hlast : page ≤ max 1 t.totalPages) :
    (t.setPage page).pageRows =
      ((q.kept.drop ((page - 1) * t.pageSize)).take t.pageSize).map (·.2) := by
  have hafter : Follows (t.setPage page) (q.turnTo page) := h.setPage rfl
  have hpage : (q.turnTo page).page = page := by
    rw [← hafter.page, page_setPage, clampPage_of_le hone hlast]
  have hrows : (q.turnTo page).sortedRows = q.kept := by
    rw [sortedRows_of_inactive (by simp [active?, turnTo, hsort])]
    rfl
  have hsize : (q.turnTo page).pageSize = t.pageSize := h.pageSize.symm
  rw [hafter.pageRows, hrows, onPage_eq hafter.fromOne, hpage, hsize]

theorem Follows.compareBy (h : Follows t q) (hdata : q.HoldsData) {a b : Nat × α}
    (ha : a ∈ q.kept) (hb : b ∈ q.kept) : t.compareBy c a b = q.weighBy c a b := by
  unfold Table.compareBy weighBy
  rw [h.sortKey]
  exact compareValues_eq_weigh (isData_value c (hdata.of_mem_kept ha))
    (isData_value c (hdata.of_mem_kept hb))

theorem Follows.tiedWith (h : Follows t q) (hdata : q.HoldsData)
    (hcolumn : q.columns[column]? = some c) {a : Nat × α} (ha : a ∈ q.kept) :
    t.tiedWith c a =
      (q.sortedBy column .ascending).sortedRows.filter (q.weighBy c a · == .eq) := by
  unfold Table.tiedWith
  rw [filter_sortedRows hdata hcolumn, h.matching]
  refine List.filter_congr fun b hb => ?_
  rw [h.compareBy hdata ha hb]

theorem mem_kept_of_sorted {direction : SortDirection} {p : Nat × α}
    (h : p ∈ (q.sortedBy column direction).sortedRows) : p ∈ q.kept :=
  List.mem_mergeSort.mp h

/-- The classes of a column, as two tables show them that differ in the direction only. -/
theorem Follows.exists_mirrored (h : Follows t q) (hdata : q.HoldsData)
    (hcolumn : q.columns[column]? = some c) {up down : Table α}
    (hup : Follows up (q.sortedBy column .ascending))
    (hdown : Follows down (q.sortedBy column .descending)) :
    ∃ classes : List (List (Nat × α)),
      classes.flatten.Perm t.matching ∧
      (∀ members ∈ classes, members ≠ [] ∧ ∀ a ∈ members, members = t.tiedWith c a) ∧
      (classes.Pairwise fun lower higher =>
        ∀ a ∈ lower, ∀ b ∈ higher, t.compareBy c a b = .lt) ∧
      up.view = classes.flatten.map (·.1) ∧ down.view = classes.reverse.flatten.map (·.1) := by
  obtain ⟨classes, hclasses, hreverse⟩ := exists_classes_sortedRows hdata hcolumn
  have hmember : ∀ members ∈ classes, ∀ a ∈ members, a ∈ q.kept := by
    intro members hmembers a ha
    have hrow : a ∈ classes.flatten := List.mem_flatten_of_mem hmembers ha
    rw [hclasses.rows] at hrow
    exact mem_kept_of_sorted hrow
  refine ⟨classes, ?_, ?_, ?_, ?_, ?_⟩
  · rw [hclasses.rows, h.matching]
    exact List.mergeSort_perm _ _
  · intro members hmembers
    refine ⟨hclasses.inhabited members hmembers, fun a ha => ?_⟩
    rw [h.tiedWith hdata hcolumn (hmember members hmembers a ha), hclasses.filter_eq hmembers ha]
  · refine hclasses.ascend.imp_of_mem ?_
    intro lower higher hlower hhigher hlt a ha b hb
    rw [h.compareBy hdata (hmember lower hlower a ha) (hmember higher hhigher b hb)]
    exact hlt a ha b hb
  · rw [hup.view, hclasses.rows]
  · rw [hdown.view, hreverse]

theorem Follows.view_reverse_iff (h : Follows t q) (hdata : q.HoldsData)
    (hcolumn : q.columns[column]? = some c) {up down : Table α}
    (hup : Follows up (q.sortedBy column .ascending))
    (hdown : Follows down (q.sortedBy column .descending)) :
    down.view = up.view.reverse ↔ t.matching.Pairwise fun a b => t.compareBy c a b ≠ .eq := by
  have hties : (t.matching.Pairwise fun a b => t.compareBy c a b ≠ .eq) ↔
      q.kept.Pairwise fun a b => q.weighBy c a b ≠ .eq := by
    rw [h.matching]
    refine List.Pairwise.iff_of_mem ?_
    intro a b ha hb
    rw [h.compareBy hdata ha hb]
  have hmirror : ∀ p ∈ (q.sortedBy column .ascending).sortedRows.reverse, p ∈ q.kept :=
    fun p hp => mem_kept_of_sorted (List.mem_reverse.mp hp)
  -- the views are positions, so rows are compared by their positions
  rw [hties, hup.view, hdown.view, ← List.map_reverse,
    map_position_eq_iff (fun _ => mem_kept_of_sorted) hmirror, sortedRows_reverse_iff hdata hcolumn]

theorem Follows.mirrors (h : Follows t q) (hdata : q.HoldsData)
    (hcolumn : t.columns[column]? = some c) (hsortable : c.sortable = true)
    (hother : ∀ direction, t.sort ≠ some (column, direction)) : t.Mirrors column c := by
  have hchosen : t.isSortable column = true := by simp [isSortable, hcolumn, hsortable]
  obtain ⟨hup, hdown, hundone⟩ := h.toggled hchosen hother
  rw [h.columns] at hcolumn
  have hview : (((t.toggleSort column).toggleSort column).toggleSort column).view =
      t.matching.map (·.1) := by
    rw [h.matching]
    exact hundone.view_of_unsorted rfl
  constructor
  · exact h.exists_mirrored hdata hcolumn hup hdown
  · exact h.view_reverse_iff hdata hcolumn hup hdown
  · exact hview
  · intro page hone hlast
    have hsize : (((t.toggleSort column).toggleSort column).toggleSort column).pageSize =
        t.pageSize := hundone.pageSize.trans h.pageSize.symm
    have hpages : (((t.toggleSort column).toggleSort column).toggleSort column).totalPages =
        t.totalPages := hundone.totalPages.trans h.totalPages.symm
    rw [hundone.pageRows_of_unsorted rfl hone (by rwa [hpages]), hsize, h.matching]
    rfl
  · -- a table that was not sorted had the view of the records before
    intro hunsorted
    obtain ⟨view, hthrice⟩ := toggleSort_thrice hchosen hother
    have hsame : view = t.view := by
      rw [hthrice] at hview
      rw [h.view_of_unsorted (h.sort.symm.trans hunsorted), ← h.matching]
      exact hview
    rw [hthrice, hsame, ← hunsorted]

/-- Whatever was done to a table before, whatever its records are and whatever is searched for:
    a column that is not the active one and can be sorted by lists the rows up and down as
    `Mirrors` says, if the records have no NaN. -/
theorem directions_mirror (columns : List (Column α)) (encode : α → Json) (pageSize : Nat)
    (inputs : List (TableInput α)) (column : Nat) (c : Column α) :
    let t := (Table.new columns encode pageSize).after inputs
    (∀ r ∈ t.records, (t.encode r).isData = true) → t.columns[column]? = some c →
      c.sortable = true → (∀ direction, t.sort ≠ some (column, direction)) →
      t.Mirrors column c := by
  intro t hdata hcolumn hsortable hother
  have hfollows : Follows t _ := (follows_new columns encode pageSize).after inputs
  rw [hfollows.records, hfollows.encode] at hdata
  exact hfollows.mirrors hdata hcolumn hsortable hother

/-- Two numbers that are one floating-point number, and two lists of one length. -/
theorem directions_mirror_mixed :
    let c : Column Json := { label := "Value", accessor := .field "value", sortable := true }
    let record (value : Json) : Json := .object [("value", value)]
    let t := (Table.new [c] id 2).after [.setRecords [record (.number (.integer 9007199254740993)),
      record (.list [.null]), record (.number (.integer 9007199254740992)),
      record (.list [.text "a"]), record .null]]
    (∀ r ∈ t.records, (t.encode r).isData = true) ∧ t.columns[0]? = some c ∧
      c.sortable = true ∧ (∀ direction, t.sort ≠ some (0, direction)) ∧ t.Mirrors 0 c := by
  intro c record t
  have hdata : ∀ r ∈ t.records, (t.encode r).isData = true := by decide
  have hcolumn : t.columns[0]? = some c := rfl
  have hother : ∀ direction, t.sort ≠ some (0, direction) := nofun
  exact ⟨hdata, hcolumn, rfl, hother,
    directions_mirror [c] id 2 _ 0 c hdata hcolumn rfl hother⟩

example :
    let c : Column Json := { label := "Value", accessor := .field "value", sortable := true }
    let record (value : Json) : Json := .object [("value", value)]
    let t := (Table.new [c] id 2).setRecords [record (.list [.null]), record (.text "b"),
      record (.list [.text "a"]), record .null]
    (t.toggleSort 0).view = [3, 1, 0, 2] ∧
      ((t.toggleSort 0).toggleSort 0).view = [0, 2, 1, 3] := by
  cbv

end TableRequest

end CatalogDesk
