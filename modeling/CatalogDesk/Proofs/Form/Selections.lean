import CatalogDesk.Proofs.Builder.Picking
import CatalogDesk.Proofs.Catalog.ReadBack
import CatalogDesk.Proofs.Form.Checks

/-! # Selections as sets

    A form keeps what is selected in lists.  An item that is toggled is added at the end or, if
    it is there, one occurrence of it is removed; a form that is opened with a record takes over
    the lists of the record as they are.  So an item that the record lists twice is sent twice,
    and is still selected after it was toggled.

    Main result: `selectsSets_iff` says that the selections of a form are sets, whatever is done
    to the form, if it was opened empty, and otherwise if and only if no list of the record has an
    item twice.  That no item is there twice is the invariant: every toggle keeps it, and nothing
    else adds to a selection. -/

namespace CatalogDesk

/-! ## Toggled items -/

/-- What toggling an item makes of a list: the item comes in, or goes out once, and the others
    stay as they were, in their order. -/
structure Toggled [DecidableEq ι] (x : ι) (before after : List ι) : Prop where
  own : after.count x = if x ∈ before then before.count x - 1 else 1
  others : after.filter (· ≠ x) = before.filter (· ≠ x)

theorem toggled_toggle [DecidableEq ι] (l : List ι) (x : ι) : Toggled x l (toggle l x) := by
  unfold toggle
  split
  · rename_i hmem
    rw [List.contains_iff_mem] at hmem
    constructor
    · rw [List.count_erase_self, if_pos hmem]
    · -- only an occurrence of the item goes, which the filter drops anyway
      obtain ⟨l₁, l₂, -, hl, herase⟩ := List.exists_erase_eq hmem
      rw [herase, hl]
      simp
  · rename_i hmem
    rw [List.contains_iff_mem] at hmem
    constructor
    · rw [List.count_append, List.count_eq_zero.mpr hmem, List.count_singleton_self, if_neg hmem]
    · simp

namespace Toggled

variable [DecidableEq ι] {x : ι} {before after : List ι}

/-- An item changes sides just if it was not there twice. -/
theorem flips_iff (h : Toggled x before after) :
    (x ∈ after ↔ x ∉ before) ↔ before.count x ≤ 1 := by
  have hown := h.own
  rw [← List.count_pos_iff, hown]
  split
  · rename_i hmem
    have hpos := List.count_pos_iff.mpr hmem
    simp only [hmem, not_true_eq_false, iff_false]
    omega
  · rename_i hmem
    have hzero := List.count_eq_zero.mpr hmem
    simp only [hmem, not_false_eq_true, iff_true]
    omega

theorem count_of_ne (h : Toggled x before after) {y : ι} (hy : y ≠ x) :
    after.count y = before.count y := by
  have hothers := congrArg (List.count y) h.others
  rwa [List.count_filter (by simpa using hy), List.count_filter (by simpa using hy)] at hothers

theorem mem_iff_of_ne (h : Toggled x before after) {y : ι} (hy : y ≠ x) :
    y ∈ after ↔ y ∈ before := by
  rw [← List.count_pos_iff, h.count_of_ne hy, List.count_pos_iff]

theorem nodup (h : Toggled x before after) (hbefore : before.Nodup) : after.Nodup := by
  rw [List.nodup_iff_count_le_one] at hbefore ⊢
  intro y
  by_cases hy : y = x
  · subst hy
    have hown := h.own
    have hle := hbefore y
    split at hown <;> omega
  · rw [h.count_of_ne hy]
    exact hbefore y

/-- A list goes on as before behind one that does not have the item. -/
theorem append_left (h : Toggled x before after) {rest : List ι} (hx : x ∉ rest) :
    Toggled x (rest ++ before) (rest ++ after) where
  own := by
    have hzero := List.count_eq_zero.mpr hx
    simp only [List.count_append, List.mem_append, hzero, hx, false_or, Nat.zero_add, h.own]
  others := by rw [List.filter_append, List.filter_append, h.others]

theorem append_right (h : Toggled x before after) {rest : List ι} (hx : x ∉ rest) :
    Toggled x (before ++ rest) (after ++ rest) where
  own := by
    have hzero := List.count_eq_zero.mpr hx
    simp only [List.count_append, List.mem_append, hzero, hx, or_false, Nat.add_zero, h.own]
  others := by rw [List.filter_append, List.filter_append, h.others]

end Toggled

/-- Items of one list among others of a form are toggled under another name. -/
theorem toggled_map_toggle [DecidableEq α] [DecidableEq ι] {name : α → ι}
    (hname : Function.Injective name) (l : List α) (a : α) :
    Toggled (name a) (l.map name) ((toggle l a).map name) := by
  rw [← toggle_map hname]
  exact toggled_toggle _ _

/-! ## Kinds of forms with selections -/

/-- A kind of forms in which items are selected. -/
structure SelectionKind (φ ε ι : Type) where
  selected : φ → List ι
  /-- What a form is like after a change. -/
  change : φ → ε → φ
  /-- The change that toggles an item. -/
  toggle : ι → ε
  /-- A check of the form makes a payload with these items. -/
  Sends : φ → List ι → Prop

namespace SelectionKind

variable {φ ε ι : Type} [DecidableEq ι]

/-- What is selected after an item was toggled. -/
def toggled (K : SelectionKind φ ε ι) (f : φ) (x : ι) : List ι :=
  K.selected (K.change f (K.toggle x))

/-- What is selected in the form is a set: an item that is toggled changes sides, and the others
    stay. -/
structure IsSet (K : SelectionKind φ ε ι) (f : φ) : Prop where
  flips : ∀ x, x ∈ K.toggled f x ↔ x ∉ K.selected f
  /-- The other items stay in their order, too. -/
  others : ∀ x, (K.toggled f x).filter (· ≠ x) = (K.selected f).filter (· ≠ x)
  restores : ∀ x y, y ∈ K.toggled (K.change f (K.toggle x)) x ↔ y ∈ K.selected f
  sends : ∀ items, K.Sends f items → items = K.selected f ∧ items.Nodup

/-- What is selected is a set, whatever was done to the form. -/
def AreSets (K : SelectionKind φ ε ι) (f : φ) : Prop :=
  ∀ changes : List ε, K.IsSet (changes.foldl K.change f)

/-- What the kinds have in common. -/
structure IsRegular (K : SelectionKind φ ε ι) : Prop where
  toggled : ∀ f x, Toggled x (K.selected f) (K.toggled f x)
  /-- Every other change leaves the selection as it is, or one that has no item twice. -/
  change : ∀ f e, (∃ x, e = K.toggle x) ∨
    K.selected (K.change f e) = K.selected f ∨ (K.selected (K.change f e)).Nodup
  sends : ∀ f items, K.Sends f items → items = K.selected f

variable {K : SelectionKind φ ε ι} {f : φ}

theorem IsRegular.isSet_of_nodup (hK : K.IsRegular) (h : (K.selected f).Nodup) : K.IsSet f := by
  have hflips {g : φ} (hg : (K.selected g).Nodup) (x : ι) :
      x ∈ K.toggled g x ↔ x ∉ K.selected g :=
    (hK.toggled g x).flips_iff.mpr (List.nodup_iff_count_le_one.mp hg x)
  refine ⟨hflips h, fun x => (hK.toggled f x).others, fun x y => ?_, fun items hsends => ?_⟩
  · by_cases hy : y = x
    · -- the first toggle leaves a list without repetitions, so that the second one flips back
      subst hy
      calc
        _ ↔ y ∉ K.toggled f y := hflips ((hK.toggled f y).nodup h) y
        _ ↔ y ∈ K.selected f := by rw [hflips h, not_not]
    · calc
        _ ↔ y ∈ K.toggled f x := (hK.toggled _ x).mem_iff_of_ne hy
        _ ↔ y ∈ K.selected f := (hK.toggled f x).mem_iff_of_ne hy
  · obtain rfl := hK.sends f items hsends
    exact ⟨rfl, h⟩

/-- An item that is there twice is still there after it was toggled. -/
theorem IsRegular.isSet_iff (hK : K.IsRegular) : K.IsSet f ↔ (K.selected f).Nodup := by
  refine ⟨fun h => ?_, hK.isSet_of_nodup⟩
  rw [List.nodup_iff_count_le_one]
  exact fun x => (hK.toggled f x).flips_iff.mp (h.flips x)

/-- **Step lemma.** -/
theorem IsRegular.nodup_change (hK : K.IsRegular) (h : (K.selected f).Nodup) (e : ε) :
    (K.selected (K.change f e)).Nodup := by
  obtain ⟨x, rfl⟩ | hsame | hnew := hK.change f e
  · exact (hK.toggled f x).nodup h
  · rwa [hsame]
  · exact hnew

/-- **Run lemma.** -/
theorem IsRegular.nodup_foldl (hK : K.IsRegular) (h : (K.selected f).Nodup) (changes : List ε) :
    (K.selected (changes.foldl K.change f)).Nodup := by
  induction changes generalizing f with
  | nil => exact h
  | cons e changes ih => exact ih (hK.nodup_change h e)

/-- What one kind of forms has to be like. -/
theorem IsRegular.areSets_iff (hK : K.IsRegular) : K.AreSets f ↔ (K.selected f).Nodup := by
  constructor
  · -- the form need not be changed at all to show an item that is there twice
    exact fun h => hK.isSet_iff.mp (h [])
  · exact fun h changes => hK.isSet_of_nodup (hK.nodup_foldl h changes)

end SelectionKind

/-! ## Specifications -/

/-- What can be done to the form of a specification. -/
inductive SpecificationChange
  | rename (name : String)
  | toggle (id : RecordId)
  | beginOptions
  | applyOptions (result : Except Failure (List Characteristic))
  | prepare
  | complete (result : Except Failure Specification)

def SpecificationForm.change (f : SpecificationForm) : SpecificationChange → SpecificationForm
  | .rename name => { f with name }
  | .toggle id => f.toggleCharacteristic id
  | .beginOptions => f.beginOptions
  | .applyOptions result => (f.applyOptions result).2
  | .prepare => f.prepare.2
  | .complete result => (f.complete result).2.2

namespace SelectionKind

def specification : SelectionKind SpecificationForm SpecificationChange RecordId where
  selected f := f.characteristicIds
  change := SpecificationForm.change
  toggle := .toggle
  Sends f ids := ∃ r, f.prepare.1 = some r ∧ r.payload.characteristicIds = ids

end SelectionKind

namespace SpecificationForm

variable (f : SpecificationForm)

theorem characteristicIds_prepare : f.prepare.2.characteristicIds = f.characteristicIds := by
  unfold prepare
  cases f.validate <;> rfl

theorem characteristicIds_of_prepare {r : SaveRequest SpecificationDraft}
    (h : f.prepare.1 = some r) : r.payload.characteristicIds = f.characteristicIds := by
  obtain ⟨rfl, -⟩ := (FormKind.isRegular_specification.checksWell f).passed r h
  rfl

theorem characteristicIds_applyOptions (result : Except Failure (List Characteristic)) :
    (f.applyOptions result).2.characteristicIds = f.characteristicIds := by
  cases result <;> rfl

theorem characteristicIds_complete (result : Except Failure Specification) :
    (f.complete result).2.2.characteristicIds = f.characteristicIds ∨
      (f.complete result).2.2.characteristicIds = [] := by
  cases result with
  | error e => exact .inl rfl
  | ok saved =>
    unfold complete
    dsimp only
    split
    · exact .inl rfl
    · exact .inr rfl

end SpecificationForm

theorem SelectionKind.isRegular_specification : specification.IsRegular where
  toggled f x := toggled_toggle f.characteristicIds x
  change f e := by
    cases e with
    | toggle id => exact .inl ⟨id, rfl⟩
    | rename name => exact .inr (.inl rfl)
    | beginOptions => exact .inr (.inl rfl)
    | applyOptions result => exact .inr (.inl (f.characteristicIds_applyOptions result))
    | prepare => exact .inr (.inl f.characteristicIds_prepare)
    | complete result =>
      refine .inr ((f.characteristicIds_complete result).imp_right fun hempty => ?_)
      exact (congrArg List.Nodup hempty).mpr List.nodup_nil
  sends f ids := by
    rintro ⟨r, hr, rfl⟩
    exact f.characteristicIds_of_prepare hr

/-! ## Offerings -/

/-- What can be selected in the form of an offering. -/
inductive OfferingItem
  | specification (id : RecordId)
  | price (id : RecordId)
  | channel (c : SalesChannel)
  deriving DecidableEq

namespace OfferingItem

theorem specification_injective : Function.Injective specification := fun _ _ => specification.inj

theorem price_injective : Function.Injective price := fun _ _ => price.inj

theorem channel_injective : Function.Injective channel := fun _ _ => channel.inj

/-- The items of three lists. -/
def ofLists (specifications prices : List RecordId) (channels : List SalesChannel) :
    List OfferingItem :=
  specifications.map .specification ++ (prices.map .price ++ channels.map .channel)

theorem nodup_ofLists_iff (specifications prices : List RecordId) (channels : List SalesChannel) :
    (ofLists specifications prices channels).Nodup ↔
      specifications.Nodup ∧ prices.Nodup ∧ channels.Nodup := by
  -- items of different lists are of different kinds
  have hfirst : (specifications.map specification).Disjoint
      (prices.map price ++ channels.map channel) := by
    simp [List.disjoint_left]
  have hsecond : (prices.map price).Disjoint (channels.map channel) := by
    simp [List.disjoint_left]
  unfold ofLists
  rw [List.nodup_append', List.nodup_append', List.nodup_map_iff specification_injective,
    List.nodup_map_iff price_injective, List.nodup_map_iff channel_injective]
  simp only [hfirst, hsecond, and_true]

end OfferingItem

/-- The items that are sent. -/
def OfferingDraft.items (d : OfferingDraft) : List OfferingItem :=
  OfferingItem.ofLists d.specificationIds d.priceIds d.channels

/-- What can be done to the form of an offering. -/
inductive OfferingChange
  | rename (name : String)
  | describe (description : String)
  | toggle (item : OfferingItem)
  | beginOptions
  | applyOptions (result : Except Failure OfferingOptions)
  | prepareDraft
  | preparePublish
  | completeDraft (result : Except Failure Offering)
  | completePublish (result : Except PublishFailure Offering)

namespace OfferingForm

/-- The items that are selected. -/
def items (f : OfferingForm) : List OfferingItem :=
  OfferingItem.ofLists f.specificationIds f.priceIds f.channels

def toggleItem (f : OfferingForm) : OfferingItem → OfferingForm
  | .specification id => f.toggleSpecification id
  | .price id => f.togglePrice id
  | .channel c => f.toggleChannel c

def change (f : OfferingForm) : OfferingChange → OfferingForm
  | .rename name => { f with name }
  | .describe description => { f with description }
  | .toggle item => f.toggleItem item
  | .beginOptions => f.beginOptions
  | .applyOptions result => (f.applyOptions result).2
  | .prepareDraft => f.prepareDraft.2
  | .preparePublish => f.preparePublish.2.2
  | .completeDraft result => (f.completeDraft result).2.2
  | .completePublish result => (f.completePublish result).2.2

end OfferingForm

namespace SelectionKind

/-- Of the check before publishing, the payload is that of the request that saves. -/
def offering : SelectionKind OfferingForm OfferingChange OfferingItem where
  selected := OfferingForm.items
  change := OfferingForm.change
  toggle := .toggle
  Sends f items := ∃ r, (f.prepareDraft.1 = some r ∨ f.preparePublish.1 = .ready r) ∧
    r.payload.items = items

end SelectionKind

namespace OfferingForm

variable (f : OfferingForm)

theorem toggled_items (x : OfferingItem) : Toggled x f.items (f.toggleItem x).items := by
  cases x with
  | specification id =>
    exact (toggled_map_toggle OfferingItem.specification_injective _ id).append_right (by simp)
  | price id =>
    have hprices := toggled_map_toggle OfferingItem.price_injective f.priceIds id
    exact (hprices.append_right (by simp)).append_left (by simp)
  | channel c =>
    have hchannels := toggled_map_toggle OfferingItem.channel_injective f.channels c
    exact (hchannels.append_left (by simp)).append_left (by simp)

theorem items_prepareDraft : f.prepareDraft.2.items = f.items := by
  unfold prepareDraft
  cases f.validate <;> rfl

theorem items_of_prepareDraft {r : SaveRequest OfferingDraft} (h : f.prepareDraft.1 = some r) :
    r.payload.items = f.items := by
  obtain ⟨rfl, -⟩ := (FormKind.isRegular_offering.checksWell f).passed r h
  rfl

/-- What publishing asks for beyond a draft is asked of the draft, and changes nothing. -/
theorem preparePublish_eq_prepareDraft : f.preparePublish.2.2 = f.prepareDraft.2 ∧
    ∀ r, f.preparePublish.1 = .ready r → f.prepareDraft.1 = some r := by
  unfold preparePublish
  rcases f.prepareDraft with ⟨_ | request, g⟩
  · exact ⟨rfl, nofun⟩
  · dsimp only
    split
    · exact ⟨rfl, fun r hr => congrArg some (PublishCheck.ready.inj hr)⟩
    · exact ⟨rfl, nofun⟩

theorem items_preparePublish : f.preparePublish.2.2.items = f.items := by
  rw [f.preparePublish_eq_prepareDraft.1, f.items_prepareDraft]

theorem items_applyOptions (result : Except Failure OfferingOptions) :
    (f.applyOptions result).2.items = f.items := by
  cases result <;> rfl

/-- Of an emptied form, one sales channel is selected. -/
theorem nodup_items_reset : f.reset.items.Nodup :=
  List.nodup_singleton _

theorem items_completeDraft (result : Except Failure Offering) :
    (f.completeDraft result).2.2.items = f.items ∨
      (f.completeDraft result).2.2.items.Nodup := by
  cases result with
  | error e => exact .inl rfl
  | ok saved =>
    unfold completeDraft
    dsimp only
    split
    · exact .inl rfl
    · exact .inr f.nodup_items_reset

theorem items_completePublish (result : Except PublishFailure Offering) :
    (f.completePublish result).2.2.items = f.items ∨
      (f.completePublish result).2.2.items.Nodup := by
  cases result with
  | error e => exact .inl rfl
  | ok offering => exact .inr f.nodup_items_reset

end OfferingForm

namespace SelectionKind

theorem isRegular_offering : offering.IsRegular where
  toggled f x := f.toggled_items x
  change f e := by
    dsimp only [offering]
    cases e with
    | toggle item => exact .inl ⟨item, rfl⟩
    | rename name => exact .inr (.inl rfl)
    | describe description => exact .inr (.inl rfl)
    | beginOptions => exact .inr (.inl rfl)
    | applyOptions result => exact .inr (.inl (f.items_applyOptions result))
    | prepareDraft => exact .inr (.inl f.items_prepareDraft)
    | preparePublish => exact .inr (.inl f.items_preparePublish)
    | completeDraft result => exact .inr (f.items_completeDraft result)
    | completePublish result => exact .inr (f.items_completePublish result)
  sends f items := by
    rintro ⟨r, hr, rfl⟩
    exact f.items_of_prepareDraft (hr.elim id (f.preparePublish_eq_prepareDraft.2 r))

end SelectionKind

/-! ## Forms that were opened -/

/-- The ways in which a form with selections is opened. -/
inductive FormOpening
  | newSpecification
  | specification (s : Specification)
  | newOffering
  | offering (o : Offering)

namespace FormOpening

/-- What is selected in the form stays a set, whatever is done to it.  An offering that cannot be
    edited has no form. -/
def SelectsSets : FormOpening → Prop
  | .newSpecification => SelectionKind.specification.AreSets .new
  | .specification s => SelectionKind.specification.AreSets (.edit s)
  | .newOffering => SelectionKind.offering.AreSets .new
  | .offering o => ∀ f, OfferingForm.edit o = .ok f → SelectionKind.offering.AreSets f

/-- No list that the form takes over has an item twice. -/
def ListsOnce : FormOpening → Prop
  | .newSpecification => True
  | .specification s => s.characteristicIds.Nodup
  | .newOffering => True
  | .offering o => o.isEditable = true →
      o.specificationIds.Nodup ∧ o.priceIds.Nodup ∧ o.channels.Nodup

theorem selectsSets_offering_iff (o : Offering) :
    (offering o).SelectsSets ↔ (offering o).ListsOnce := by
  dsimp only [SelectsSets, ListsOnce]
  unfold OfferingForm.edit
  split
  · rename_i heditable
    simp only [heditable, true_imp_iff, Except.ok.injEq, forall_eq']
    exact SelectionKind.isRegular_offering.areSets_iff.trans (OfferingItem.nodup_ofLists_iff _ _ _)
  · rename_i hlocked
    exact iff_of_true nofun fun heditable => absurd heditable hlocked

/-- Whatever is done to a form that was opened empty, what is selected is a set; if it was opened
    with a record, this is so if and only if no list of the record has an item twice. -/
theorem selectsSets_iff (opening : FormOpening) : opening.SelectsSets ↔ opening.ListsOnce := by
  have hspecification := SelectionKind.isRegular_specification
  have hoffering := SelectionKind.isRegular_offering
  cases opening with
  | newSpecification => exact iff_of_true (hspecification.areSets_iff.mpr List.nodup_nil) trivial
  | specification s => exact hspecification.areSets_iff
  | newOffering =>
    exact iff_of_true (hoffering.areSets_iff.mpr OfferingForm.new.nodup_items_reset) trivial
  | offering o => exact selectsSets_offering_iff o

/-- A specification that lists a characteristic twice. -/
def listedTwice : Specification where
  id := "s1"
  name := "Router"
  characteristicIds := ["c1", "c1", "c2"]
  createdAt := none
  updatedAt := none

/-- The backend can send such a record, and its characteristic is still selected after it was
    toggled. -/
theorem not_selectsSets_listedTwice :
    Specification.decode listedTwice.encode = .ok listedTwice ∧
      ¬ (specification listedTwice).SelectsSets := by
  refine ⟨(Specification.decode_encode_iff listedTwice).mpr nofun, fun h => ?_⟩
  have hflips := (h []).flips "c1"
  revert hflips
  decide

end FormOpening

end CatalogDesk
