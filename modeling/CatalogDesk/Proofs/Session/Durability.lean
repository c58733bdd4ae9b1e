import CatalogDesk.Proofs.Json.Texts
import CatalogDesk.Proofs.Session.Items
import CatalogDesk.Session.StoredItems

/-! # What a file of items remembers

    A file that was written holds the items that were written (`ofText_toText`), so a call
    whose rewrite goes well is remembered.  The items in memory change before the file is
    written, though, and a rewrite that fails leaves them changed: memory is then ahead of
    the file, and a removal that is tried again finds nothing to remove and leaves the item
    in the file.

    Main results: `durable_iff` says of any calls on an opened file that all of them are
    `Durable` if and only if each one is `Spared`; `retriedRemoval_left` is the removal that
    is reported to have gone well and has not. -/

namespace CatalogDesk

namespace Items

/-! ## A file is read back -/

/-- How a file is laid out: an item on each line, indented. -/
def layout : Json.Layout :=
  ⟨['\n', ' ', ' '], [' '], ['\n']⟩

theorem layout_blank : layout.Blank := by
  constructor <;> simp [layout, Json.isSpace]

theorem members_layout (item : String × String) (items : Items) :
    layout.members (item :: items) =
      '\n' :: ((String.intercalate ",\n" ((item :: items).map itemLine)).toList ++
        ['\n', '\x7d']) := by
  have hmember (item : String × String) : layout.member item = '\n' :: (itemLine item).toList := by
    simp [Json.Layout.member, layout, itemLine]
  induction items generalizing item with
  | nil =>
    rw [Json.Layout.members, hmember]
    simp [layout]
  | cons item' items ih =>
    rw [Json.Layout.members, hmember, ih]
    simp [String.toList_intercalate]

theorem toList_toText (item : String × String) (items : Items) :
    (toText (item :: items)).toList = '\x7b' :: layout.members (item :: items) := by
  rw [members_layout]
  simp [toText]

/-- What is written is read again. -/
theorem ofText_toText {items : Items} (h : Ascending items) : ofText (toText items) = items := by
  cases items with
  | nil => rfl
  | cons item items =>
    have htake : ∀ acc : Items, ∀ m ∈ item :: items, ∀ cs,
        take acc m.1 ((Json.quote m.2).toList ++ cs) =
          (pure (set m.1 m.2 acc) : Option Items).map (·, cs) := by
      intro acc m _ cs
      unfold take
      rw [Json.readQuoted_quote]
      rfl
    obtain ⟨cs, hfirst⟩ := Json.Layout.skipSpace_members layout_blank item items
    have hread := Json.readFields_members layout_blank item items htake []
      (Json.Layout.length_le_members layout (item :: items))
    rw [List.foldlM_pure, foldl_set h] at hread
    unfold ofText ofText?
    rw [toList_toText, Json.skipSpace_cons rfl]
    unfold readObject
    simp only [hfirst, hread]
    rfl

theorem ascending_nil : Ascending [] :=
  List.Pairwise.nil

theorem ascending_take {acc acc' : Items} {key : String} {cs rest : List Char}
    (h : Ascending acc) (htaken : take acc key cs = some (acc', rest)) : Ascending acc' := by
  obtain ⟨⟨value, tail⟩, -, hset⟩ := Option.map_eq_some_iff.mp htaken
  cases hset
  exact ascending_set h key value

theorem ascending_readObject {cs rest : List Char} {items : Items}
    (h : readObject cs = some (items, rest)) : Ascending items := by
  unfold readObject at h
  split at h
  · cases h
    exact ascending_nil
  · exact Json.readFields_preserves ascending_take ascending_nil h

/-- Whatever a file holds, its items are read in the order of their keys. -/
theorem ascending_ofText (s : String) : Ascending (ofText s) := by
  unfold ofText ofText? Json.readWhole
  split
  · rename_i items rest h
    split at h
    · split
      · exact ascending_readObject h
      · exact ascending_nil
    · cases h
  · exact ascending_nil

end Items

/-! ## Calls -/

/-- A call on a file of items, and how its rewrite goes if it comes to one. -/
inductive FileCall
  | set (key value : String) (rewrite : Rewrite)
  | remove (key : String) (rewrite : Rewrite)

namespace FileCall

def key : FileCall → String
  | .set key _ _ => key
  | .remove key _ => key

/-- What is to be under the key. -/
def wanted : FileCall → Option String
  | .set _ value _ => some value
  | .remove _ _ => none

def rewrite : FileCall → Rewrite
  | .set _ _ rewrite => rewrite
  | .remove _ rewrite => rewrite

/-- The items as they are to be. -/
def change (c : FileCall) (items : Items) : Items :=
  match c with
  | .set key value _ => Items.set key value items
  | .remove key _ => Items.remove key items

theorem get?_change (c : FileCall) (items : Items) :
    Items.get? c.key (c.change items) = c.wanted := by
  cases c with
  | set key value => exact Items.get?_set_self key value items
  | remove key => exact Items.get?_remove_self key items

theorem ascending_change (c : FileCall) {items : Items} (h : items.Ascending) :
    (c.change items).Ascending := by
  cases c with
  | set key value => exact Items.ascending_set h key value
  | remove key => exact Items.ascending_remove h key

/-- A change that is there already is none. -/
theorem change_of_get? (c : FileCall) {items : Items} (h : items.Ascending)
    (hget : Items.get? c.key items = c.wanted) : c.change items = items := by
  cases c with
  | set key value => exact Items.set_of_get? h hget
  | remove key => exact Items.remove_of_get? hget

end FileCall

namespace ItemFile

def call (f : ItemFile) : FileCall → Rewrite × ItemFile
  | .set key value rewrite => f.set key value rewrite
  | .remove key rewrite => f.remove key rewrite

/-- What a call promises. -/
structure Durable (f : ItemFile) (c : FileCall) : Prop where
  /-- If it goes well, the file has what was asked for when it is opened again. -/
  kept : (f.call c).1 = .ok () → (f.call c).2.reopen.get? c.key = c.wanted
  /-- If it fails, neither memory nor the file has changed. -/
  undone : ∀ e, (f.call c).1 = .error e → (f.call c).2 = f

/-- The rewrite goes well, or what is asked for is there already. -/
def Spared (f : ItemFile) (c : FileCall) : Prop :=
  c.rewrite = .ok () ∨ f.get? c.key = c.wanted

/-- Something holds of each call, and the file as it is then. -/
def Along (P : ItemFile → FileCall → Prop) : ItemFile → List FileCall → Prop
  | _, [] => True
  | f, c :: calls => P f c ∧ Along P (f.call c).2 calls

/-- The items are in order, and the file holds them. -/
structure Synced (f : ItemFile) : Prop where
  ascending : f.items.Ascending
  reopened : f.reopen = f

theorem synced_open {octets : Option (List UInt8)} {decode : List UInt8 → Option String}
    {f : ItemFile} (h : open? octets decode = .ok f) : f.Synced := by
  unfold open? at h
  split at h
  · cases h
    exact ⟨Items.ascending_nil, rfl⟩
  · split at h
    · rename_i s _
      cases h
      exact ⟨Items.ascending_ofText s, rfl⟩
    · cases h

/-- A removal that finds nothing is over at once; any other call writes the file anew. -/
theorem call_eq (f : ItemFile) (c : FileCall) :
    f.call c = f.persist (c.change f.items) c.rewrite ∨
      f.get? c.key = c.wanted ∧ f.call c = (.ok (), f) := by
  cases c with
  | set key value rewrite => exact .inl rfl
  | remove key rewrite =>
    cases hget : f.get? key with
    | some value =>
      refine .inl ?_
      show f.remove key rewrite = _
      unfold remove
      rw [hget]
      rfl
    | none =>
      refine .inr ⟨hget, ?_⟩
      show f.remove key rewrite = _
      unfold remove
      rw [hget]
      rfl

theorem synced_persist {f : ItemFile} {items : Items} (h : items.Ascending) :
    (f.persist items (.ok ())).2.Synced := by
  refine ⟨h, ?_⟩
  show (⟨Items.ofText items.toText, some items.toText⟩ : ItemFile) = ⟨items, some items.toText⟩
  rw [Items.ofText_toText h]

/-- **Step lemma.** -/
theorem synced_call {f : ItemFile} (h : f.Synced) {c : FileCall} (hs : f.Spared c) :
    (f.call c).2.Synced := by
  -- A rewrite that may fail is one of items that have not changed.
  rcases f.call_eq c with hcall | ⟨-, hcall⟩
  · rw [hcall]
    rcases hs with hok | hget
    · rw [hok]
      exact synced_persist (c.ascending_change h.ascending)
    · rw [c.change_of_get? h.ascending hget]
      cases hrewrite : c.rewrite with
      | ok => exact synced_persist h.ascending
      | error e => exact h
  · rw [hcall]
    exact h

theorem durable_of_spared {f : ItemFile} (h : f.Synced) {c : FileCall} (hs : f.Spared c) :
    f.Durable c := by
  have hsynced := synced_call h hs
  constructor
  · intro hok
    rw [hsynced.reopened]
    rcases f.call_eq c with hcall | ⟨hget, hcall⟩
    · rw [hcall]
      unfold persist
      cases c.rewrite <;> exact c.get?_change f.items
    · rw [hcall]
      exact hget
  · intro e herror
    rcases f.call_eq c with hcall | ⟨-, hcall⟩
    · rw [hcall] at herror ⊢
      rcases hs with hok | hget
      · rw [hok] at herror
        cases herror
      · rw [c.change_of_get? h.ascending hget]
        unfold persist
        cases hrewrite : c.rewrite with
        | ok =>
          rw [hrewrite] at herror
          cases herror
        | error e' => rfl
    · rw [hcall]

/-- A rewrite that fails leaves memory changed. -/
theorem spared_of_durable {f : ItemFile} {c : FileCall} (hd : f.Durable c) : f.Spared c := by
  rcases f.call_eq c with hcall | ⟨hget, -⟩
  · cases hrewrite : c.rewrite with
    | ok => exact .inl hrewrite
    | error e =>
      have hfails : (f.call c).1 = .error e := by
        rw [hcall, hrewrite]
        rfl
      have hitems : c.change f.items = f.items := by
        have hsame := hd.undone e hfails
        rw [hcall, hrewrite] at hsame
        exact congrArg ItemFile.items hsame
      refine .inr ?_
      show Items.get? c.key f.items = c.wanted
      rw [← hitems]
      exact c.get?_change f.items
  · exact .inr hget

/-- **Run lemma**, from any file that holds what is in memory. -/
theorem along_durable_iff {f : ItemFile} (h : f.Synced) (calls : List FileCall) :
    Along Durable f calls ↔ Along Spared f calls := by
  induction calls generalizing f with
  | nil => exact Iff.rfl
  | cons c calls ih =>
    constructor
    · rintro ⟨hd, hrest⟩
      have hs := spared_of_durable hd
      exact ⟨hs, (ih (synced_call h hs)).mp hrest⟩
    · rintro ⟨hs, hrest⟩
      exact ⟨durable_of_spared h hs, (ih (synced_call h hs)).mpr hrest⟩

/-- Calls on an opened file keep what they promise if and only if no rewrite fails but of
    items that are as they were asked for already. -/
theorem durable_iff {octets : Option (List UInt8)} {decode : List UInt8 → Option String}
    {f : ItemFile} (h : open? octets decode = .ok f) (calls : List FileCall) :
    Along Durable f calls ↔ Along Spared f calls :=
  along_durable_iff (synced_open h) calls

/-- A removal whose rewrite fails takes the item out of memory only; when it is tried again
    it finds nothing to remove and goes well, and the item is still in the file. -/
theorem retriedRemoval_left {f : ItemFile} (h : f.Synced) {key value : String}
    (present : f.get? key = some value) (e : StorageError) (rewrite : Rewrite) :
    let tried := (f.call (.remove key (.error e))).2
    tried.call (.remove key rewrite) = (.ok (), tried) ∧ tried.reopen.get? key = some value := by
  have htried : f.remove key (.error e) = (.error e, ⟨Items.remove key f.items, f.content⟩) := by
    unfold remove
    rw [present]
    rfl
  intro tried
  have htried : tried = ⟨Items.remove key f.items, f.content⟩ := congrArg Prod.snd htried
  rw [htried]
  constructor
  · show remove _ key rewrite = _
    unfold remove
    rw [if_neg]
    show ¬ (Items.get? key (Items.remove key f.items)).isSome = true
    rw [Items.get?_remove_self]
    exact Bool.false_ne_true
  · show f.reopen.get? key = some value
    rw [h.reopened]
    exact present

end ItemFile

end CatalogDesk
