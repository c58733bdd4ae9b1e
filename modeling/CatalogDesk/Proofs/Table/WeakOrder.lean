import CatalogDesk.Catalog.Record
import CatalogDesk.Proofs.Table.Order

/-! # The order of cells is a weak one

    A sort may do anything with a comparison that contradicts itself.  The one of cells has six
    kinds of values to deal with, and a rule of its own for each of them.

    Main result: `orders_weakly` says that it is a weak order of all data, which values tie in it,
    and that every column of every table, in both directions, compares its records by a weak
    order too.  What is read from a text is data (`Json.isData_of_parse?`), and so are the records
    of the catalog, whatever their amounts are (`CatalogRecord.isData_encode`).  Among values that
    are no data there is no such order: a NaN would tie with a smaller and with a larger number
    (`not_ordersWeakly_nan`). -/

namespace CatalogDesk

/-! ## Records are data -/

theorem isData_encodeInstant (key : String) (t : Option Timestamp) :
    ∀ m ∈ encodeInstant key t, m.2.isData = true := by
  cases t with
  | none => exact List.forall_mem_nil _
  | some t => exact List.forall_mem_singleton.mpr rfl

theorem Json.isData_encodeTexts (xs : List String) : (encodeTexts xs).isData = true :=
  Json.isData_list_map fun _ => rfl

/-- Whatever a record of the catalog holds, it is data once it is encoded. -/
theorem CatalogRecord.isData_encode (r : CatalogRecord) : r.encode.isData = true := by
  have instants := isData_encodeInstant
  have texts := Json.isData_encodeTexts
  -- member by member, in the order in which they are written
  cases r
  all_goals
    refine Json.isData_ofMembers ?_
    simp only [List.forall_mem_append, List.forall_mem_cons, List.not_mem_nil, false_implies,
      implies_true, and_true]
  case characteristic c => exact ⟨⟨⟨rfl, rfl, rfl, rfl⟩, instants _ _⟩, instants _ _⟩
  case specification s => exact ⟨⟨⟨rfl, rfl, texts _⟩, instants _ _⟩, instants _ _⟩
  case price p =>
    refine ⟨⟨⟨⟨rfl, rfl, Json.isData_real _, rfl, rfl, rfl⟩, ?_⟩, instants _ _⟩, instants _ _⟩
    cases p.lockedBy with
    | none => exact List.forall_mem_nil _
    | some s => exact List.forall_mem_singleton.mpr rfl
  case offering o =>
    have hdescription : (Json.ofOption Json.text o.description).isData = true := by
      cases o.description <;> rfl
    have hchannels : (Json.list (o.channels.map SalesChannel.encode)).isData = true :=
      Json.isData_list_map fun _ => rfl
    exact ⟨⟨⟨⟨⟨rfl, rfl, hdescription, texts _, texts _, hchannels, rfl⟩, instants _ _⟩,
      instants _ _⟩, instants _ _⟩, instants _ _⟩

/-! ## Weak orders -/

/-- The comparison is a weak order of the items of a domain: every item ties with itself, the
    other way round a comparison says the opposite, and what is not greater than something that
    is not greater is not greater itself. -/
structure OrdersWeakly {α : Type} (domain : α → Prop) (cmp : α → α → Ordering) : Prop where
  refl : ∀ a, domain a → cmp a a = .eq
  reverse : ∀ a b, domain a → domain b → cmp b a = (cmp a b).swap
  trans : ∀ a b c, domain a → domain b → domain c →
    (cmp a b).isLE = true → (cmp b c).isLE = true → (cmp a c).isLE = true

/-- A comparison that agrees with an order on a domain orders the domain. -/
theorem OrdersWeakly.of_agrees {α : Type} {domain : α → Prop} {cmp : α → α → Ordering}
    (order : α → α → Ordering) [Std.TransCmp order]
    (h : ∀ a b, domain a → domain b → cmp a b = order a b) : OrdersWeakly domain cmp where
  refl a ha := (h a a ha ha).trans Std.ReflCmp.compare_self
  reverse a b ha hb := by
    rw [h b a hb ha, h a b ha hb]
    exact Std.OrientedCmp.eq_swap
  trans a b c ha hb hc := by
    rw [h a b ha hb, h b c hb hc, h a c ha hc]
    exact Std.TransCmp.isLE_trans

namespace Table

/-! ## Values -/

/-- Values that tie: the same one, numbers that are one floating-point number (both zeros are),
    lists of one length, and all objects. -/
inductive Alike : Json → Json → Prop
  | null : Alike .null .null
  | bool (b : Bool) : Alike (.bool b) (.bool b)
  | number {m n : Json.Number} (same : (numberValue m).rank = (numberValue n).rank) :
      Alike (.number m) (.number n)
  | text (s : String) : Alike (.text s) (.text s)
  | list {xs ys : List Json} (same : xs.length = ys.length) : Alike (.list xs) (.list ys)
  | object (ms ns : Json.Members) : Alike (.object ms) (.object ns)

variable {a b : Json}

theorem weigh_eq_iff : weigh a b = .eq ↔
    kindRank a = kindRank b ∧ amount a = amount b ∧ wording a = wording b := by
  simp only [weigh, compareLex, Ordering.then_eq_eq, Std.compare_eq_iff_eq]

theorem compareValues_eq_iff (ha : a.isData = true) (hb : b.isData = true) :
    compareValues a b = .eq ↔ Alike a b := by
  rw [compareValues_eq_weigh ha hb, weigh_eq_iff]
  constructor
  · rintro ⟨hkind, hamount, hwording⟩
    -- values of different kinds contradict `hkind`, which leaves one case for each kind
    cases a <;> cases b <;> simp only [kindRank, reduceCtorEq, Nat.reduceEqDiff] at hkind
    case null.null => exact .null
    case bool.bool x y =>
      cases x <;> cases y
      · exact .bool false
      · exact absurd hamount (by decide)
      · exact absurd hamount (by decide)
      · exact .bool true
    case number.number m n => exact .number hamount
    case text.text s t =>
      obtain rfl : s = t := hwording
      exact .text s
    case list.list xs ys => exact .list (Int.ofNat_inj.mp hamount)
    case object.object ms ns => exact .object ms ns
  · intro h
    cases h with
    | number same => exact ⟨rfl, same, rfl⟩
    | list same => exact ⟨rfl, congrArg Int.ofNat same, rfl⟩
    | _ => exact ⟨rfl, rfl, rfl⟩

theorem compareValues_ordersWeakly : OrdersWeakly (fun v => v.isData = true) compareValues :=
  .of_agrees weigh fun _ _ => compareValues_eq_weigh

/-- A NaN ties with a smaller and with a larger number. -/
theorem not_ordersWeakly_nan : ¬ OrdersWeakly (fun _ => True) compareValues := by
  intro h
  have hpassed := h.trans (.nat 1) (.number (.real .nan)) (.nat 0) trivial trivial trivial
    (by decide) (by decide)
  exact absurd hpassed (by decide)

/-! ## Records -/

variable {α : Type} {t : Table α}

/-- Two records compared for a sort by a column. -/
def compareRecords (t : Table α) (c : Column α) (direction : SortDirection) (r s : α) : Ordering :=
  direction.orient (compareValues (t.sortKey c r) (t.sortKey c s))

theorem isData_sortKey (c : Column α) {r : α} (h : (t.encode r).isData = true) :
    (t.sortKey c r).isData = true := by
  unfold sortKey
  cases c.accessor with
  | computed text => rfl
  | field key => exact Json.isData_getD h key

/-- What a table hands to a sort by a column. -/
structure HandsOver (t : Table α) (c : Column α) (direction : SortDirection) : Prop where
  weak : OrdersWeakly (fun r => (t.encode r).isData = true) (t.compareRecords c direction)
  /-- The sort asks whether one record may stand in front of another. -/
  asked : ∀ r s, inOrder direction (t.sortKey c r) (t.sortKey c s) =
    (t.compareRecords c direction r s).isLE

theorem handsOver (t : Table α) (c : Column α) (direction : SortDirection) :
    t.HandsOver c direction where
  weak := by
    -- of data, keys are compared by what they weigh, and so are they the other way round
    have := transCmp_on (fun v w => direction.orient (weigh v w)) (t.sortKey c)
    refine .of_agrees (fun r s => direction.orient (weigh (t.sortKey c r) (t.sortKey c s))) ?_
    intro r s hr hs
    have hkeys := compareValues_eq_weigh (isData_sortKey c hr) (isData_sortKey c hs)
    exact congrArg direction.orient hkeys
  asked _ _ := inOrder_eq direction _ _

/-- All data is ordered weakly: first by kind, and within a kind so that just those values tie
    that are alike.  So is what a sort by any column of any table is handed, in both directions.
    Whatever is read is data, and so are the records of the catalog. -/
theorem orders_weakly :
    OrdersWeakly (fun v => v.isData = true) compareValues ∧
      (∀ a b, kindRank a < kindRank b → compareValues a b = .lt) ∧
      (∀ a b, a.isData = true → b.isData = true → (compareValues a b = .eq ↔ Alike a b)) ∧
      (∀ (α : Type) (t : Table α) (c : Column α) (direction : SortDirection),
        t.HandsOver c direction) ∧
      (∀ (s : String) (v : Json), Json.parse? s = some v → v.isData = true) ∧
      ∀ r : CatalogRecord, r.encode.isData = true := by
  refine ⟨compareValues_ordersWeakly, fun a b hkind => ?_, fun _ _ => compareValues_eq_iff,
    fun _ => handsOver, fun _ _ => Json.isData_of_parse?, CatalogRecord.isData_encode⟩
  rw [compareValues_of_kindRank_ne (Nat.ne_of_lt hkind)]
  exact Nat.compare_eq_lt.mpr hkind

/-- Two integers tie if they are rounded to one floating-point number. -/
example : compareValues (.int 9007199254740992) (.int 9007199254740993) = .eq := by decide

end Table

end CatalogDesk
