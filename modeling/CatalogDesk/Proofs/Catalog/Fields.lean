import CatalogDesk.Catalog.Offering
import CatalogDesk.Proofs.Calendar.Written

/-! # Fields of a record, written and read

    A record is written as an object of its fields.  What is found under a key is what was
    put there last (`get?_insert`), so fields may be written in any order and an instant may
    be left out.  Each kind of leaf is read as what was written: texts, lists, names of a
    known list and null.  Instants are the exception, and `Dated` keeps what is known of an
    instant that was read. -/

namespace CatalogDesk

/-! ## Members of an object -/

namespace Json.Members
variable (key : String) (members : Members)

theorem get?_insert (k : String) (v : Json) :
    get? key (insert k v members) = if k = key then some v else get? key members := by
  induction members with
  | nil => rfl
  | cons first rest ih =>
    obtain ⟨k', v'⟩ := first
    unfold insert
    by_cases hbefore : k < k'
    · rw [if_pos hbefore]
      rfl
    · rw [if_neg hbefore]
      by_cases hsame : k = k'
      · -- the old value is gone, and no other key is touched
        rw [if_pos hsame, ← hsame]
        simp only [get?]
        split <;> rfl
      · rw [if_neg hsame]
        simp only [get?, ih]
        by_cases hfirst : k' = key
        · -- the first member answers for its key, which is not the new one
          have hother : k ≠ key := fun hk => hsame (hk.trans hfirst.symm)
          rw [if_pos hfirst, if_pos hfirst, if_neg hother]
        · rw [if_neg hfirst, if_neg hfirst]

/-- An instant that there is goes under its key; one that there is not leaves no trace. -/
theorem get?_encodeInstant (k : String) (o : Option Timestamp) :
    get? key ((encodeInstant k o).foldl (fun acc kv => insert kv.1 kv.2 acc) members) =
      if k = key then (o.map fun t => .text t.text).or (get? key members)
      else get? key members := by
  cases o with
  | none => simp [encodeInstant]
  | some t => simp [encodeInstant, get?_insert]

end Json.Members

namespace Decode
variable {α : Type} {m : Json.Members} {key : String}

/-! ## Leaves -/

/-- Items that are read as what was written make a list that is. -/
theorem list_map {read : Json → Result α} {write : α → Json} (h : ∀ a, read (write a) = .ok a)
    (xs : List α) : list read (.list (xs.map write)) = .ok xs := by
  show (xs.map write).mapM read = .ok xs
  induction xs with
  | nil => rfl
  | cons x xs ih =>
    rw [List.map_cons, List.mapM_cons, h x, ih]
    rfl

theorem text_text (s : String) : text (.text s) = .ok s := rfl

theorem list_encodeTexts (xs : List String) : list text (encodeTexts xs) = .ok xs :=
  list_map text_text xs

theorem nullable_text (o : Option String) : nullable text (.ofOption .text o) = .ok o := by
  cases o with
  | none => rfl
  | some s => rfl

/-- A field that was written is found and read. -/
theorem field?_of_get? {read : Json → Result α} {v : Json} {a : α}
    (hget : Json.Members.get? key m = some v) (hread : read v = .ok a) :
    field? m key read = .ok (some a) := by
  unfold field?
  rw [hget]
  simp only [hread, Except.map]

/-- A record was read from its members or from a list of its fields. -/
theorem record_cases {title : String} {size : Nat} {ofMembers : Json.Members → Result α}
    {ofItems : List Json → Result α} {v : Json} {a : α}
    (h : record title size ofMembers ofItems v = .ok a) :
    (∃ m, v = .object m ∧ ofMembers m = .ok a) ∨ ∃ xs, v = .list xs ∧ ofItems xs = .ok a := by
  unfold record at h
  split at h
  · exact .inl ⟨_, rfl, h⟩
  · rename_i items
    obtain ⟨a', hitems, hlength⟩ := bind_eq_ok_iff.mp h
    split at hlength
    · cases hlength
    · obtain rfl := Except.ok.inj hlength
      exact .inr ⟨items, rfl, hitems⟩
  · cases h

/-! ## Instants -/

/-- A value read as an instant is one, or null. -/
theorem isInstant_of_timestamp {v : Json} {o : Option Timestamp} (h : timestamp v = .ok o) :
    ∀ t ∈ o, t.IsInstant := by
  intro t ht
  unfold timestamp at h
  split at h
  · obtain rfl := Except.ok.inj h
    cases ht
  · obtain ⟨s, -, hs⟩ := bind_eq_ok_iff.mp h
    split at hs
    · rename_i t' hread
      obtain rfl := Except.ok.inj hs
      obtain rfl := Option.some.inj ht
      exact Timestamp.isInstant_of_ofText hread
    · cases hs

/-- The field under the key was read, and the record has what was read there: nothing if the
    field is missing or null. -/
def Dated (m : Json.Members) (key : String) (o : Option Timestamp) : Prop :=
  ∃ x, field? m key timestamp = .ok x ∧ x.join = o

section dated
variable {o : Option Timestamp}

theorem Dated.isInstant (h : Dated m key o) : ∀ t ∈ o, t.IsInstant := by
  obtain ⟨x, hx, rfl⟩ := h
  intro t ht
  unfold field? at hx
  split at hx
  · obtain rfl := Except.ok.inj hx
    cases ht
  · obtain ⟨o, ho, rfl⟩ := map_eq_ok_iff.mp hx
    exact isInstant_of_timestamp ho t ht

/-- A field written for an instant gives it back when its written form is read as itself; a
    field left out gives nothing back. -/
theorem dated_iff (hget : Json.Members.get? key m = o.map fun t => .text t.text) :
    Dated m key o ↔ ∀ t ∈ o, Timestamp.ofText t.text = .ok t := by
  unfold Dated field?
  rw [hget]
  cases o with
  | none => simp
  | some t =>
    simp only [Option.map_some, timestamp, text, bind, Except.bind, Option.mem_some_iff,
      forall_eq']
    cases hread : Timestamp.ofText t.text with
    | error e => simp [Except.map]
    | ok t' => simp [Except.map]

/-- An item of a list is an instant, or there is none. -/
theorem isInstant_of_itemOr {xs : List Json} {i : Nat} (h : itemOr xs i none timestamp = .ok o) :
    ∀ t ∈ o, t.IsInstant := by
  unfold itemOr at h
  split at h
  · exact isInstant_of_timestamp h
  · obtain rfl := Except.ok.inj h
    intro t ht
    cases ht

end dated

end Decode

/-! ## Names -/

theorem UnitOfMeasure.decode_encode (u : UnitOfMeasure) : decode u.encode = .ok u := by
  cases u <;> rfl

theorem Lifecycle.decode_encode (s : Lifecycle) : decode s.encode = .ok s := by
  cases s <;> rfl

theorem SalesChannel.decode_encode (c : SalesChannel) : decode c.encode = .ok c := by
  cases c <;> rfl

end CatalogDesk
