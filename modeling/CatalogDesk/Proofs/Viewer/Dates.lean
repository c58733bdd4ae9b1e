import CatalogDesk.Proofs.Calendar.Shown
import CatalogDesk.Proofs.Viewer.Steps

/-! # Tables sorted by time

    The viewer's tables can be sorted by when a record was created or updated.  They are sorted
    by the texts in that column, and rows whose texts are the same stay in the order of the
    records.

    Two comparisons sort rows alike if they agree on which pairs have to change places
    (`pairwise_comesFirst_iff`).  So a table that is sorted by the texts goes by the time
    unless the texts of two of its rows mislead: `tables_go_by_time_iff`. -/

namespace CatalogDesk

variable {α : Type}

/-! ## Two comparisons -/

/-- Of two items with positions the first comes first: it is smaller, or ties and stood in
    front. -/
def ComesFirst (cmp : α → α → Ordering) (a b : Nat × α) : Prop :=
  cmp a.2 b.2 = .lt ∨ cmp a.2 b.2 = .eq ∧ a.1 < b.1

section comparisons

variable {cmp cmp' : α → α → Ordering} {a b : Nat × α}

theorem comesFirst_iff_of_lt (h : a.1 < b.1) : ComesFirst cmp a b ↔ cmp a.2 b.2 ≠ .gt := by
  unfold ComesFirst
  cases cmp a.2 b.2 <;> simp [h]

theorem comesFirst_iff_of_gt [Std.OrientedCmp cmp] (h : b.1 < a.1) :
    ComesFirst cmp a b ↔ cmp b.2 a.2 = .gt := by
  have hswap : cmp b.2 a.2 = (cmp a.2 b.2).swap := Std.OrientedCmp.eq_swap
  have hpos : ¬ a.1 < b.1 := Nat.lt_asymm h
  unfold ComesFirst
  rw [hswap]
  cases cmp a.2 b.2 <;> simp [hpos]

/-- Rows sorted by one comparison are sorted by another exactly if both agree on which of them
    have to change places. -/
theorem pairwise_comesFirst_iff [Std.OrientedCmp cmp] [Std.OrientedCmp cmp']
    {l : List (Nat × α)} (hpos : l.Pairwise fun a b => a.1 ≠ b.1)
    (hl : l.Pairwise (ComesFirst cmp)) :
    l.Pairwise (ComesFirst cmp') ↔
      ∀ a ∈ l, ∀ b ∈ l, a.1 < b.1 → (cmp a.2 b.2 = .gt ↔ cmp' a.2 b.2 = .gt) := by
  constructor
  · intro hl' a ha b hb
    -- both comparisons have two items on the same sides of the list
    refine List.Pairwise.forall_of_forall_of_flip
      (R := fun a b => a.1 < b.1 → (cmp a.2 b.2 = .gt ↔ cmp' a.2 b.2 = .gt))
      (fun a _ hlt => absurd hlt (Nat.lt_irrefl a.1)) ?_ ?_ ha hb
    · refine (hl.and hl').imp fun {a b} h hlt => ?_
      rw [comesFirst_iff_of_lt hlt, comesFirst_iff_of_lt hlt] at h
      exact iff_of_false h.1 h.2
    · refine (hl.and hl').imp fun {a b} h hgt => ?_
      rw [comesFirst_iff_of_gt hgt, comesFirst_iff_of_gt hgt] at h
      exact iff_of_true h.1 h.2
  · intro hagree
    refine (hl.and hpos).imp_of_mem fun {a b} ha hb h => ?_
    obtain ⟨hfirst, hne⟩ := h
    rcases Nat.lt_or_gt_of_ne hne with hlt | hgt
    · rw [comesFirst_iff_of_lt hlt] at hfirst ⊢
      exact fun h => hfirst ((hagree a ha b hb hlt).mpr h)
    · rw [comesFirst_iff_of_gt hgt] at hfirst ⊢
      exact (hagree b hb a ha hgt).mp hfirst

end comparisons

/-! ## Sorted by a computed text -/

namespace TableRequest

variable {t : Table α} {q : TableRequest α} {c : Column α} {d : SortDirection}
  {text : α → String}

theorem compareRows_of_computed (hactive : q.active? = some (c, d))
    (hc : c.accessor = .computed text) :
    q.compareRows = fun a b => d.orient (compare (text a) (text b)) := by
  funext a b
  rw [compareRows, hactive]
  simp only [value, hc, Table.compareValues]

/-- Texts have an order whatever the records are. -/
theorem pairwise_sortedRows (hactive : q.active? = some (c, d))
    (hc : c.accessor = .computed text) :
    q.sortedRows.Pairwise (ComesFirst fun a b => d.orient (compare (text a) (text b))) := by
  rw [sortedRows, compareRows_of_computed hactive hc]
  have : Std.TransCmp fun a b : Nat × α => compare (text a.2) (text b.2) :=
    Table.transCmp_on compare fun a : Nat × α => text a.2
  exact Table.pairwise_mergeSort_ties
    (fun a b : Nat × α => d.orient (compare (text a.2) (text b.2))) q.pairwise_kept

end TableRequest

namespace Table

/-- The column that is sorted by, and how. -/
def sortLabel? (t : Table α) : Option (String × SortDirection) :=
  t.sort.bind fun (column, d) => t.columns[column]?.map fun c => (c.label, d)

/-- The rows of the view, with their positions in the records. -/
def placedRows (t : Table α) : List (Nat × α) :=
  t.view.filterMap fun i => t.records[i]?.map fun r => (i, r)

/-- Sorted by the column with the label, the rows are in the order of the times, those without
    a time before the others, and those with the same time as in the records. -/
def GoesByTime (t : Table α) (label : String) (time : α → Option Timestamp) : Prop :=
  ∀ d, t.sortLabel? = some (label, d) →
    t.placedRows.Pairwise (ComesFirst fun r s => d.orient (compare (time r) (time s)))

/-- Sorted by the column with the label, the texts of two rows mislead. -/
inductive Misled (t : Table α) (label : String) (time : α → Option Timestamp) : Prop
  | intro (d : SortDirection) (a b : Nat × α) (s s' : Timestamp)
      (hsort : t.sortLabel? = some (label, d)) (ha : a ∈ t.placedRows) (hb : b ∈ t.placedRows)
      (hlt : a.1 < b.1) (hs : time a.2 = some s) (hs' : time b.2 = some s')
      (hmisleads : s.Misleads d s')

end Table

theorem TableRequest.Follows.placedRows {t : Table α} {q : TableRequest α} (h : Follows t q) :
    t.placedRows = q.sortedRows := by
  unfold Table.placedRows
  rw [h.view, List.filterMap_map, h.records]
  conv_rhs => rw [← List.filterMap_some (l := q.sortedRows)]
  refine List.filterMap_congr fun p hp => ?_
  have hkept : p ∈ q.kept := List.mem_mergeSort.mp hp
  simp [(mem_kept.mp hkept).1]

namespace Viewer

/-- The texts of two times, of which there may be none, differ from them in their order only
    if those of instants mislead. -/
theorem instantText_agree_iff {a b : Option Timestamp} (ha : ∀ s ∈ a, s.IsInstant)
    (hb : ∀ s ∈ b, s.IsInstant) (d : SortDirection) :
    (d.orient (compare (instantText a) (instantText b)) = .gt ↔ d.orient (compare a b) = .gt) ↔
      ¬ ∃ s t, a = some s ∧ b = some t ∧ s.Misleads d t := by
  cases a with
  | none =>
    have hsame : compare (instantText none) (instantText b) = compare none b := by
      cases b with
      | none => rfl
      | some t => exact Timestamp.compare_empty_shortText t
    simp [hsame]
  | some s =>
    cases b with
    | none =>
      have hsame : compare (instantText (some s)) (instantText none) = compare (some s) none := by
        rw [Std.OrientedOrd.eq_swap (a := instantText (some s)) (b := instantText none)]
        exact congrArg Ordering.swap (Timestamp.compare_empty_shortText s)
      simp [hsame]
    | some t =>
      have hsome : compare (some s) (some t) = compare s t := rfl
      rw [hsome]
      simpa [instantText] using (ha s rfl).agree_iff_not_misleads (hb t rfl) d

end Viewer

namespace Table

section maintained

variable {columns : List (Column α)} {encode : α → Json} {t : Table α}

theorem Maintained.mem_placedRows_iff (h : t.Maintained columns encode) {a : Nat × α} :
    a ∈ t.placedRows ↔
      t.records[a.1]? = some a.2 ∧ (t.search = "" ∨ (t.encode a.2).Mentions t.search) := by
  obtain ⟨q, hq⟩ := h.request
  rw [hq.placedRows, TableRequest.sortedRows, List.mem_mergeSort, TableRequest.mem_kept,
    hq.records, hq.term, hq.encode]
  rfl

theorem Maintained.distinct_placedRows (h : t.Maintained columns encode) :
    t.placedRows.Pairwise fun a b => a.1 ≠ b.1 := by
  obtain ⟨q, hq⟩ := h.request
  have hnodup := hq.nodup_view
  rw [hq.view] at hnodup
  rw [hq.placedRows]
  exact List.pairwise_map.mp hnodup

/-- A table that is sorted by the column with a label is sorted by the texts in it. -/
theorem Maintained.pairwise_placedRows (h : t.Maintained columns encode) {label : String}
    {text : α → String} {d : SortDirection}
    (hcolumn : ∀ c ∈ columns, c.label = label → c.accessor = .computed text)
    (hsort : t.sortLabel? = some (label, d)) :
    t.placedRows.Pairwise (ComesFirst fun a b => d.orient (compare (text a) (text b))) := by
  obtain ⟨q, hq⟩ := h.request
  obtain ⟨⟨column, d'⟩, hsorted, hlabel⟩ := Option.bind_eq_some_iff.mp hsort
  obtain ⟨c, hc, heq⟩ := Option.map_eq_some_iff.mp hlabel
  obtain ⟨rfl, rfl⟩ := Prod.mk.inj heq
  have hactive : q.active? = some (c, d') := by
    simp [TableRequest.active?, ← hq.sort, ← hq.columns, hsorted, hc]
  rw [hq.placedRows]
  refine TableRequest.pairwise_sortedRows hactive (hcolumn c ?_ rfl)
  rw [← h.columns]
  exact List.mem_of_getElem? hc

theorem Maintained.goesByTime_iff (h : t.Maintained columns encode) {label : String}
    {time : α → Option Timestamp}
    (hcolumn : ∀ c ∈ columns, c.label = label →
      c.accessor = .computed fun r => Viewer.instantText (time r))
    (hinstants : ∀ r ∈ t.records, ∀ s ∈ time r, s.IsInstant) :
    t.GoesByTime label time ↔ ¬ t.Misled label time := by
  have hrows {d : SortDirection} (hsort : t.sortLabel? = some (label, d)) :
      t.placedRows.Pairwise (ComesFirst fun r s => d.orient (compare (time r) (time s))) ↔
        ∀ a ∈ t.placedRows, ∀ b ∈ t.placedRows, a.1 < b.1 →
          ¬ ∃ s s', time a.2 = some s ∧ time b.2 = some s' ∧ s.Misleads d s' := by
    have hinstant {a : Nat × α} (ha : a ∈ t.placedRows) : ∀ s ∈ time a.2, s.IsInstant :=
      hinstants a.2 (List.mem_of_getElem? (h.mem_placedRows_iff.mp ha).1)
    have : Std.TransCmp fun r s => compare (time r) (time s) := transCmp_on compare time
    have : Std.TransCmp fun r s =>
        compare (Viewer.instantText (time r)) (Viewer.instantText (time s)) :=
      transCmp_on compare fun r => Viewer.instantText (time r)
    rw [pairwise_comesFirst_iff h.distinct_placedRows (h.pairwise_placedRows hcolumn hsort)]
    refine forall₂_congr fun a ha => forall₃_congr fun b hb hlt => ?_
    exact Viewer.instantText_agree_iff (hinstant ha) (hinstant hb) d
  constructor
  · rintro hgoes ⟨d, a, b, s, s', hsort, ha, hb, hlt, hs, hs', hmisleads⟩
    exact (hrows hsort).mp (hgoes d hsort) a ha b hb hlt ⟨s, s', hs, hs', hmisleads⟩
  · rintro hnone d hsort
    refine (hrows hsort).mpr fun a ha b hb hlt => ?_
    rintro ⟨s, s', hs, hs', hmisleads⟩
    exact hnone ⟨d, a, b, s, s', hsort, ha, hb, hlt, hs, hs', hmisleads⟩

end maintained

end Table

namespace Viewer

/-- Sorted by a time, the tables go by it. -/
structure GoesByTime (v : Viewer) : Prop where
  characteristics : v.characteristics.GoesByTime "Created" (·.createdAt)
  specifications : v.specifications.GoesByTime "Created" (·.createdAt)
  offerings : v.offerings.GoesByTime "Updated" (·.updatedAt)

/-- Sorted by a time, one of the tables has rows whose texts mislead. -/
inductive Misled (v : Viewer) : Prop
  | characteristics (h : v.characteristics.Misled "Created" (·.createdAt))
  | specifications (h : v.specifications.Misled "Created" (·.createdAt))
  | offerings (h : v.offerings.Misled "Updated" (·.updatedAt))

/-- The times of the records are instants. -/
structure HoldsInstants (v : Viewer) : Prop where
  characteristics : ∀ c ∈ v.characteristics.records, ∀ t ∈ c.createdAt, t.IsInstant
  specifications : ∀ s ∈ v.specifications.records, ∀ t ∈ s.createdAt, t.IsInstant
  offerings : ∀ o ∈ v.offerings.records, ∀ t ∈ o.updatedAt, t.IsInstant

theorem Maintained.goesByTime_iff {v : Viewer} (hv : v.Maintained) (h : v.HoldsInstants) :
    v.GoesByTime ↔ ¬ v.Misled := by
  have hcharacteristics : v.characteristics.GoesByTime "Created" (·.createdAt) ↔ _ :=
    hv.characteristics.goesByTime_iff
      (by simp [characteristicColumns, sortableField, computedColumn, instantColumn])
      h.characteristics
  have hspecifications : v.specifications.GoesByTime "Created" (·.createdAt) ↔ _ :=
    hv.specifications.goesByTime_iff
      (by simp [specificationColumns, sortableField, computedColumn, instantColumn])
      h.specifications
  have hofferings : v.offerings.GoesByTime "Updated" (·.updatedAt) ↔ _ :=
    hv.offerings.goesByTime_iff
      (by simp [offeringColumns, sortableField, computedColumn, instantColumn])
      h.offerings
  constructor
  · rintro hgoes (hmisled | hmisled | hmisled)
    · exact hcharacteristics.mp hgoes.characteristics hmisled
    · exact hspecifications.mp hgoes.specifications hmisled
    · exact hofferings.mp hgoes.offerings hmisled
  · intro hnone
    exact ⟨hcharacteristics.mpr fun h => hnone (.characteristics h),
      hspecifications.mpr fun h => hnone (.specifications h),
      hofferings.mpr fun h => hnone (.offerings h)⟩

/-- After any run the tables that are sorted by a time go by it exactly if no two texts
    mislead. -/
theorem tables_go_by_time_iff (pageSize offeringPageSize : Nat) (inputs : List ViewerInput)
    (h : ((new pageSize offeringPageSize).after inputs).HoldsInstants) :
    ((new pageSize offeringPageSize).after inputs).GoesByTime ↔
      ¬ ((new pageSize offeringPageSize).after inputs).Misled :=
  (maintained_after pageSize offeringPageSize inputs).goesByTime_iff h

/-! ## Two characteristics -/

section two

/-- A characteristic of which only the time of its creation is known. -/
def characteristicAt (t : Timestamp) : Characteristic :=
  { (default : Characteristic) with createdAt := some t }

/-- Two characteristics created at these times are listed, and the table is sorted by that. -/
def sortedByCreation (t t' : Timestamp) : List ViewerInput :=
  [.apply .characteristics (.ok (.characteristics [characteristicAt t, characteristicAt t'])),
    .press { code := .char '4' }]

theorem records_sortedByCreation (t t' : Timestamp) :
    ((new 10 10).after (sortedByCreation t t')).characteristics.records =
      [characteristicAt t, characteristicAt t'] := by
  rfl

theorem holdsInstants_sortedByCreation {t t' : Timestamp} (ht : t.IsInstant)
    (ht' : t'.IsInstant) : ((new 10 10).after (sortedByCreation t t')).HoldsInstants := by
  refine ⟨fun c hc s hs => ?_, fun s hs => ?_, fun o ho => ?_⟩
  · rw [records_sortedByCreation] at hc
    rcases List.mem_pair.mp hc with rfl | rfl
    · rwa [← Option.some.inj hs]
    · rwa [← Option.some.inj hs]
  · cases hs
  · cases ho

/-- Two instants a minute apart. -/
theorem tables_go_by_time_iff_minutes :
    let v := (new 10 10).after
      (sortedByCreation ⟨⟨2024, 5, 1⟩, 36060, 0⟩ ⟨⟨2024, 5, 1⟩, 36000, 0⟩)
    v.HoldsInstants ∧ (v.GoesByTime ↔ ¬ v.Misled) := by
  intro v
  have hinstants : v.HoldsInstants :=
    holdsInstants_sortedByCreation (by decide) (by decide)
  exact ⟨hinstants, tables_go_by_time_iff 10 10 _ hinstants⟩

/-- The second of the two was created twenty seconds before the first. -/
theorem not_goesByTime_sameMinute :
    ¬ ((new 10 10).after
      (sortedByCreation ⟨⟨2024, 5, 1⟩, 36040, 0⟩ ⟨⟨2024, 5, 1⟩, 36020, 0⟩)).GoesByTime := by
  have hmaintained := maintained_after 10 10
    (sortedByCreation ⟨⟨2024, 5, 1⟩, 36040, 0⟩ ⟨⟨2024, 5, 1⟩, 36020, 0⟩)
  rw [hmaintained.goesByTime_iff (holdsInstants_sortedByCreation (by decide) (by decide)), not_not]
  have hrow {a : Nat × Characteristic} := hmaintained.characteristics.mem_placedRows_iff (a := a)
  exact .characteristics (.intro .ascending (0, characteristicAt _) (1, characteristicAt _) _ _
    rfl (hrow.mpr ⟨rfl, .inl rfl⟩) (hrow.mpr ⟨rfl, .inl rfl⟩) (by decide) rfl rfl
    (.inl ⟨rfl, rfl, by decide⟩))

end two

end Viewer

end CatalogDesk
