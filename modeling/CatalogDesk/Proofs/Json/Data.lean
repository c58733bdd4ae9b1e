import CatalogDesk.Json.Reader
import CatalogDesk.Proofs.Number.Rounding

/-! # Data

    A value whose numbers are all finite is data.  Others cannot be told from `null` once they
    are written, and none is ever read: `isData_of_parse?`.  A number that is read is formed from
    a few digits by one product or some quotients.  An infinite product is refused, and a quotient
    stays finite, since it is by a power of ten and so not beyond the number that is divided. -/

namespace CatalogDesk

/-! ## Data -/

/-- Has the number a written form? -/
def Json.Number.isData : Json.Number → Bool
  | .integer _ => true
  | .real x => x.isFinite

mutual

/-- Have all numbers in the value a written form?  Others cannot be told from `null` once
    they are written, and are never read. -/
def Json.isData : Json → Bool
  | .number n => n.isData
  | .list items => Json.areData items
  | .object members => Json.holdData members
  | _ => true

def Json.areData : List Json → Bool
  | [] => true
  | item :: rest => item.isData && Json.areData rest

def Json.holdData : List (String × Json) → Bool
  | [] => true
  | (_, value) :: rest => value.isData && Json.holdData rest

end

theorem Json.isData_of_get? {v w : Json} {key : String} (hv : v.isData = true)
    (hget : v.get? key = some w) : w.isData = true := by
  cases v with
  | object members =>
    change Members.get? key members = some w at hget
    replace hv : Json.holdData members = true := by rwa [Json.isData] at hv
    induction members with
    | nil => cases hget
    | cons m rest ih =>
      obtain ⟨name, value⟩ := m
      rw [Json.holdData, Bool.and_eq_true] at hv
      unfold Members.get? at hget
      split at hget
      · cases hget
        exact hv.1
      · exact ih hget hv.2
  | _ => cases hget

/-- A member that is missing is `null`. -/
theorem Json.isData_getD {v : Json} (hv : v.isData = true) (key : String) :
    ((v.get? key).getD .null).isData = true := by
  cases hget : v.get? key with
  | none => rfl
  | some w => exact Json.isData_of_get? hv hget

namespace Json

theorem areData_iff {items : List Json} : areData items = true ↔ ∀ v ∈ items, v.isData = true := by
  induction items with
  | nil => simp [areData]
  | cons v items ih => rw [areData, Bool.and_eq_true, ih, List.forall_mem_cons]

theorem holdData_insert {key : String} {value : Json} {members : Members}
    (hvalue : value.isData = true) (h : holdData members = true) :
    holdData (members.insert key value) = true := by
  induction members with
  | nil => simp [Members.insert, holdData, hvalue]
  | cons m rest ih =>
    obtain ⟨name, v⟩ := m
    rw [holdData, Bool.and_eq_true] at h
    unfold Members.insert
    split
    · simp [holdData, hvalue, h]
    · split
      · simp [holdData, hvalue, h]
      · simp [holdData, h, ih h.2]

/-- An object is data if its members are, in whatever order they are given. -/
theorem isData_ofMembers {members : List (String × Json)}
    (h : ∀ m ∈ members, m.2.isData = true) : (ofMembers members).isData = true := by
  rw [ofMembers, isData]
  refine List.foldlRecOn members (fun acc kv => Members.insert kv.1 kv.2 acc)
    (motive := fun acc => holdData acc = true) rfl ?_
  exact fun acc hacc m hm => holdData_insert (h m hm) hacc

theorem isData_list_map {α : Type} {f : α → Json} {items : List α} (h : ∀ a, (f a).isData = true) :
    (Json.list (items.map f)).isData = true := by
  rw [isData, areData_iff]
  exact List.forall_mem_map.mpr fun a _ => h a

/-- An amount that is not finite is written as `null`. -/
theorem isData_real (x : Binary64) : (real x).isData = true := by
  unfold real
  split
  · assumption
  · rfl

/-! ## Numbers that are read -/

/-- The powers of ten that are used are not less than one. -/
theorem one_le_powerOfTen {k : Nat} (hk : k ≤ 308) :
    (powerOfTen k).ratio.2 ≤ (powerOfTen k).ratio.1 := by
  -- the reader uses no others, so all can be tried
  have hall : ∀ k < 309, (powerOfTen k).ratio.2 ≤ (powerOfTen k).ratio.1 := by decide +kernel
  exact hall k (Nat.lt_succ_of_le hk)

/-- An infinite product is refused, and quotients are never infinite. -/
theorem isFinite_applyExponent {f g : Binary64} {exponent : Int} {fuel : Nat}
    (hf : f.isFinite = true) (h : applyExponent f exponent fuel = some g) : g.isFinite = true := by
  induction fuel generalizing f exponent with
  | zero =>
    cases h
    exact hf
  | succ fuel ih =>
    rw [applyExponent] at h
    split at h
    · rename_i hsmall
      split at h
      · dsimp only at h
        split at h
        · cases h
        · rename_i hfinite
          cases h
          exact Binary64.isFinite_of_not_isInfinite (Binary64.isNaN_ofRatio _ _ _)
            (Bool.eq_false_iff.mpr hfinite)
      · cases h
        exact Binary64.isFinite_div hf (one_le_powerOfTen hsmall)
    · split at h
      · cases h
        exact hf
      · split at h
        · cases h
        · exact ih (Binary64.isFinite_div hf (one_le_powerOfTen (Nat.le_refl _))) h

theorem takeSignificand_le {n : Nat} (hn : n ≤ maxSignificand) (cs : List Char) :
    (takeSignificand n cs).1 ≤ maxSignificand := by
  induction cs generalizing n with
  | nil => exact hn
  | cons c cs ih =>
    rw [takeSignificand]
    split
    · rename_i hnext
      exact ih hnext
    · exact hn

theorem isFinite_ofNat {n : Nat} (hn : n ≤ maxSignificand) :
    (Binary64.ofNat n).isFinite = true := by
  refine Binary64.isFinite_ofRatio _ Nat.one_pos ?_
  rw [Nat.mul_one]
  exact hn.trans (by decide +kernel)

variable {negative : Bool} {significand : Nat} {exponent : Int} {cs rest : List Char} {n : Number}

theorem isData_realOf (hs : significand ≤ maxSignificand)
    (h : realOf negative significand exponent = some n) : n.isData = true := by
  obtain ⟨f, hf, rfl⟩ := Option.map_eq_some_iff.mp h
  have hfinite := isFinite_applyExponent (isFinite_ofNat hs) hf
  cases negative with
  | false => exact hfinite
  | true => exact Binary64.isFinite_neg hfinite

theorem isData_finishReal (hs : significand ≤ maxSignificand)
    (h : finishReal negative significand exponent cs = some (n, rest)) : n.isData = true := by
  have hreal {exponent : Int} {left : List Char}
      (h : (realOf negative significand exponent).map (·, left) = some (n, rest)) :
      n.isData = true := by
    obtain ⟨m, hm, hpair⟩ := Option.map_eq_some_iff.mp h
    cases hpair
    exact isData_realOf hs hm
  unfold finishReal at h
  split at h
  · exact hreal h
  · split at h
    · split at h
      · cases h
      · dsimp only at h
        split at h
        · split at h
          · cases h
          · cases h
            exact Binary64.isFinite_ofMagnitude _ (by decide)
        · exact hreal h
    · exact hreal h

theorem isData_readFraction (hs : significand ≤ maxSignificand)
    (h : readFraction negative significand exponent cs = some (n, rest)) : n.isData = true := by
  unfold readFraction at h
  dsimp only at h
  split at h
  · cases h
  · exact isData_finishReal (takeSignificand_le hs _) h

theorem isData_readMagnitude (h : readMagnitude negative cs = some (n, rest)) :
    n.isData = true := by
  have hs := takeSignificand_le (Nat.zero_le maxSignificand) (cs.takeWhile Char.isDigit)
  unfold readMagnitude at h
  dsimp only at h
  split at h
  · cases h
  · cases h
  · split at h
    case h_5 =>
      -- an integer, or a negative one that is kept as a real number
      split at h
      · cases h
        rfl
      · split at h
        · cases h
          exact Binary64.isFinite_neg (isFinite_ofNat hs)
        · cases h
          rfl
    all_goals
      split at h
      · exact isData_readFraction hs h
      · exact isData_finishReal hs h

theorem isData_readNumber (h : readNumber cs = some (n, rest)) : n.isData = true := by
  unfold readNumber at h
  split at h
  · exact isData_readMagnitude h
  · exact isData_readMagnitude h

/-! ## Values that are read -/

section Items

variable {value : List Char → Option (Json × List Char)}
  (hvalue : ∀ {cs : List Char} {v : Json} {rest : List Char}, value cs = some (v, rest) →
    v.isData = true)
include hvalue

theorem isData_readItems {acc items : List Json} {fuel : Nat} {cs rest : List Char}
    (hacc : ∀ v ∈ acc, v.isData = true) (h : readItems value acc fuel cs = some (items, rest)) :
    ∀ v ∈ items, v.isData = true := by
  induction fuel generalizing acc cs with
  | zero => cases h
  | succ fuel ih =>
    rw [readItems] at h
    split at h
    · cases h
    · rename_i item _ hitem
      have hnext : ∀ v ∈ item :: acc, v.isData = true :=
        List.forall_mem_cons.mpr ⟨hvalue hitem, hacc⟩
      split at h
      · cases h
        exact fun v hv => hnext v (List.mem_reverse.mp hv)
      · exact ih hnext h
      · cases h

theorem holdData_readMembers {acc members : Members} {fuel : Nat} {cs rest : List Char}
    (hacc : holdData acc = true) (h : readMembers value acc fuel cs = some (members, rest)) :
    holdData members = true := by
  induction fuel generalizing acc cs with
  | zero => cases h
  | succ fuel ih =>
    rw [readMembers] at h
    split at h
    · split at h
      · cases h
      · split at h
        · split at h
          · cases h
          · rename_i hitem
            split at h
            · cases h
              exact holdData_insert (hvalue hitem) hacc
            · exact ih (holdData_insert (hvalue hitem) hacc) h
            · cases h
        · cases h
    · cases h

end Items

theorem isData_readValue {depth : Nat} {cs rest : List Char} {v : Json}
    (h : readValue depth cs = some (v, rest)) : v.isData = true := by
  -- both kinds of values that hold others recurse on the levels that are left
  induction depth using Nat.strongRecOn generalizing cs rest v with
  | ind depth ih =>
    unfold readValue at h
    split at h
    case h_1 => cases h
    case h_6 =>
      split at h
      · cases h
      · rename_i depth
        split at h
        · cases h
          rfl
        · obtain ⟨⟨items, left⟩, hitems, hpair⟩ := Option.map_eq_some_iff.mp h
          cases hpair
          rw [isData, areData_iff]
          exact isData_readItems (ih depth (Nat.lt_succ_self depth)) (List.forall_mem_nil _) hitems
    case h_7 =>
      split at h
      · cases h
      · rename_i depth
        split at h
        · cases h
          rfl
        · obtain ⟨⟨members, left⟩, hmembers, hpair⟩ := Option.map_eq_some_iff.mp h
          cases hpair
          rw [isData]
          exact holdData_readMembers (ih depth (Nat.lt_succ_self depth)) rfl hmembers
    case h_8 =>
      obtain ⟨⟨n, left⟩, hnumber, hpair⟩ := Option.map_eq_some_iff.mp h
      cases hpair
      exact isData_readNumber hnumber
    all_goals
      obtain ⟨left, -, hpair⟩ := Option.map_eq_some_iff.mp h
      cases hpair
      rfl

/-- Whatever is read is data: no text stands for a number that is not finite. -/
theorem isData_of_parse? {s : String} {v : Json} (h : parse? s = some v) : v.isData = true := by
  unfold parse? at h
  split at h
  · rename_i hread
    split at h
    · cases h
      exact isData_readValue hread
    · cases h
  · cases h

end Json

end CatalogDesk
