import CatalogDesk.Proofs.Builder.Typing
import CatalogDesk.Proofs.Screen.Checklist

/-! # The lists of the builder

    Two panels show lists of options: one of characteristics, and three of specifications,
    pricing plans and sales channels.  One of them has the focus, if the panel that is shown says
    so (`refocus_step`).

    A key never moves a cursor beyond the last of some options, but options can arrive that end
    before it.  As long as none do, every cursor is in its list (`inRange_step`). -/

namespace CatalogDesk

/-! ## The lists -/

/-- The lists of options that the builder shows. -/
inductive PickList
  | characteristics
  | specifications
  | prices
  | channels
  deriving DecidableEq

namespace Builder

/-- A list with all that it shows. -/
def list (b : Builder) : PickList → ChecklistView
  | .characteristics => b.specification.list
  | .specifications => b.offering.specificationList
  | .prices => b.offering.priceList
  | .channels => b.offering.channelList

/-- Is the focus at the list? -/
def pointsAt (b : Builder) : PickList → Bool
  | .characteristics => b.tab == .specification && b.specification.field == 1
  | .specifications => b.tab == .offering && b.offering.field == 2
  | .prices => b.tab == .offering && b.offering.field == 3
  | .channels => b.tab == .offering && b.offering.field == 4

theorem focused_refocus (b : Builder) (L : PickList) :
    (b.refocus.list L).state.focused = b.pointsAt L := by
  cases L <;> rfl

theorem selected_refocus (b : Builder) (L : PickList) :
    (b.refocus.list L).selected = (b.list L).selected := by
  cases L <;> rfl

end Builder

/-! ## Cursors -/

/-- The cursor is at one of the options, if there are any. -/
def ChecklistView.InRange (v : ChecklistView) : Prop :=
  v.options = [] ∨ v.state.cursor < v.options.length

theorem Checklist.cursor_press (c : Checklist) (k : Key) (options : List SelectOption)
    (h : options = [] ∨ c.cursor < options.length) :
    options = [] ∨ (c.press k options).2.cursor < options.length := by
  refine h.imp_right fun hcursor => ?_
  unfold press
  -- two keys move up and two down; the latter stop at the last option
  split
  · exact Nat.lt_of_le_of_lt (Nat.sub_le _ _) hcursor
  · exact Nat.lt_of_le_of_lt (Nat.sub_le _ _) hcursor
  · split
    · exact hcursor
    · dsimp only
      omega
  · split
    · exact hcursor
    · dsimp only
      omega
  · exact hcursor
  · exact hcursor
  · exact hcursor

namespace SpecificationPanel

theorem inRange_submit {p : SpecificationPanel} (h : p.list.InRange) :
    p.submit.2.list.InRange := by
  unfold submit
  split
  · exact h
  · obtain ⟨r, errors, hprepare, -⟩ | ⟨errors, hprepare⟩ := SpecificationForm.prepare_cases
      { p.form with name := p.name.value }
    · dsimp only at hprepare ⊢
      rw [hprepare]
      exact h
    · dsimp only at hprepare ⊢
      rw [hprepare]
      exact h

theorem inRange_pressField {p : SpecificationPanel} (h : p.list.InRange) (k : Key) :
    (p.pressField k).list.InRange := by
  unfold pressField
  split
  · exact h
  · have hcursor := p.characteristics.cursor_press k p.form.options h
    split
    · rename_i id characteristics hpick
      rw [hpick] at hcursor
      exact hcursor
    · rename_i characteristics hpick
      rw [hpick] at hcursor
      exact hcursor

theorem inRange_press {p : SpecificationPanel} (h : p.list.InRange) (k : Key) :
    (p.press k).2.list.InRange := by
  unfold press
  -- a form that is emptied has no options, and only a key for a field can move the cursor
  split
  · exact inRange_submit h
  · split
    · exact h
    · split
      · exact .inl rfl
      · split
        · exact h
        · exact h
        · split
          · exact inRange_submit h
          · exact inRange_pressField h k
        · exact inRange_pressField h k

theorem inRange_complete {p : SpecificationPanel} (h : p.list.InRange)
    (result : Except Failure Specification) : (p.complete result).2.list.InRange := by
  cases result with
  | error e => exact h
  | ok s =>
    unfold complete SpecificationForm.complete
    cases p.form.mode.isEdit <;> exact h

end SpecificationPanel

namespace OfferingPanel

/-- Every cursor of the panel is at one of the options, if there are any. -/
structure InRange (p : OfferingPanel) : Prop where
  specifications : p.specificationList.InRange
  prices : p.priceList.InRange
  channels : p.channelList.InRange

variable {p : OfferingPanel}

theorem inRange_saveDraft (h : p.InRange) : p.saveDraft.2.InRange := by
  unfold saveDraft
  split
  · exact h
  · obtain ⟨r, errors, hprepare, -⟩ | ⟨errors, hprepare⟩ := OfferingForm.prepareDraft_cases p.typed
    · rw [hprepare]
      exact ⟨h.specifications, h.prices, h.channels⟩
    · rw [hprepare]
      exact ⟨h.specifications, h.prices, h.channels⟩

theorem inRange_publish (h : p.InRange) : p.publish.2.2.InRange := by
  unfold publish
  split
  · exact h
  · obtain ⟨r, toasts, errors, hprepare, -⟩ | ⟨check, toasts, errors, hprepare, -⟩ :=
      OfferingForm.preparePublish_cases p.typed
    · rw [hprepare]
      exact ⟨h.specifications, h.prices, h.channels⟩
    · rw [hprepare]
      cases check <;> exact ⟨h.specifications, h.prices, h.channels⟩

theorem inRange_pressField (h : p.InRange) (k : Key) : (p.pressField k).InRange := by
  unfold pressField
  -- the two texts have no cursor of this kind; of the lists, only the one with the focus moves its
  split
  · exact ⟨h.specifications, h.prices, h.channels⟩
  · exact ⟨h.specifications, h.prices, h.channels⟩
  · have hcursor := p.specifications.cursor_press k p.form.specificationOptions h.specifications
    split
    · rename_i id specifications hpick
      rw [hpick] at hcursor
      exact ⟨hcursor, h.prices, h.channels⟩
    · rename_i specifications hpick
      rw [hpick] at hcursor
      exact ⟨hcursor, h.prices, h.channels⟩
  · have hcursor := p.prices.cursor_press k p.form.priceOptions h.prices
    split
    · rename_i id prices hpick
      rw [hpick] at hcursor
      exact ⟨h.specifications, hcursor, h.channels⟩
    · rename_i prices hpick
      rw [hpick] at hcursor
      exact ⟨h.specifications, hcursor, h.channels⟩
  · have hcursor := p.channels.cursor_press k channelOptions h.channels
    dsimp only
    split
    · exact ⟨h.specifications, h.prices, hcursor⟩
    · exact ⟨h.specifications, h.prices, hcursor⟩

theorem inRange_press (h : p.InRange) (k : Key) : (p.press k).2.2.InRange := by
  unfold press
  dsimp only
  split
  · exact inRange_saveDraft h
  · split
    · exact inRange_publish h
    · split
      · exact ⟨h.specifications, h.prices, h.channels⟩
      · split
        · exact ⟨.inl rfl, .inl rfl, h.channels⟩
        · split
          · exact ⟨h.specifications, h.prices, h.channels⟩
          · exact ⟨h.specifications, h.prices, h.channels⟩
          · exact inRange_pressField h k

theorem inRange_completeDraft (h : p.InRange) (result : Except Failure Offering) :
    (p.completeDraft result).2.InRange := by
  cases result with
  | error e => exact ⟨h.specifications, h.prices, h.channels⟩
  | ok o =>
    unfold completeDraft OfferingForm.completeDraft
    cases p.form.mode.isEdit <;> exact ⟨h.specifications, h.prices, h.channels⟩

theorem inRange_completePublish (h : p.InRange) (result : Except PublishFailure Offering) :
    (p.completePublish result).2.2.InRange := by
  cases result <;> exact ⟨h.specifications, h.prices, h.channels⟩

end OfferingPanel

namespace Builder

variable {b : Builder}

def InRange (b : Builder) : Prop := ∀ L, (b.list L).InRange

theorem inRange_iff : b.InRange ↔ b.specification.list.InRange ∧ b.offering.InRange := by
  constructor
  · intro h
    exact ⟨h .characteristics, h .specifications, h .prices, h .channels⟩
  · rintro ⟨hspecification, hoffering⟩ L
    cases L with
    | characteristics => exact hspecification
    | specifications => exact hoffering.specifications
    | prices => exact hoffering.prices
    | channels => exact hoffering.channels

theorem inRange_refocus (h : b.InRange) : b.refocus.InRange := by
  intro L
  cases L with
  | characteristics => exact h .characteristics
  | specifications => exact h .specifications
  | prices => exact h .prices
  | channels => exact h .channels

theorem inRange_showTab (h : b.InRange) (tab : BuilderTab) : (b.showTab tab).2.InRange := by
  have hshown : ({ b with tab } : Builder).refocus.InRange := inRange_refocus fun L => by
    cases L with
    | characteristics => exact h .characteristics
    | specifications => exact h .specifications
    | prices => exact h .prices
    | channels => exact h .channels
  cases tab with
  | characteristic => exact hshown
  | pricing => exact hshown
  | specification =>
    rw [inRange_iff] at hshown ⊢
    exact hshown
  | offering =>
    rw [inRange_iff] at hshown ⊢
    exact ⟨hshown.1, hshown.2.specifications, hshown.2.prices, hshown.2.channels⟩

theorem inRange_pressPanel (h : b.InRange) (k : Key) : (b.pressPanel k).2.2.InRange := by
  rw [inRange_iff] at h
  unfold pressPanel
  split
  · exact inRange_iff.mpr h
  · exact inRange_iff.mpr ⟨SpecificationPanel.inRange_press h.1 k, h.2⟩
  · exact inRange_iff.mpr h
  · exact inRange_iff.mpr ⟨h.1, OfferingPanel.inRange_press h.2 k⟩

theorem inRange_press (h : b.InRange) (k : Key) : (b.press k).2.2.InRange := by
  unfold press
  split
  · exact inRange_showTab h _
  · exact inRange_refocus (inRange_pressPanel h k)

/-- A record is opened in a form that has no options yet, and then its tab is shown. -/
theorem edit_shows {b' : Builder} {r : CatalogRecord} {a : BuilderAction}
    (h : b.edit r = .ok (a, b')) :
    ∃ opened : Builder, b' = (opened.showTab r.tab).2 ∧ (b.InRange → opened.InRange) := by
  cases r with
  | characteristic c =>
    refine ⟨_, (congrArg Prod.snd (Except.ok.inj h)).symm, fun hrange => ?_⟩
    exact inRange_iff.mpr (inRange_iff.mp hrange)
  | specification s =>
    refine ⟨_, (congrArg Prod.snd (Except.ok.inj h)).symm, fun hrange => ?_⟩
    exact inRange_iff.mpr ⟨.inl rfl, (inRange_iff.mp hrange).2⟩
  | price p =>
    simp only [edit, PricingForm.edit] at h
    split at h
    · refine ⟨_, (congrArg Prod.snd (Except.ok.inj h)).symm, fun hrange => ?_⟩
      exact inRange_iff.mpr (inRange_iff.mp hrange)
    · cases h
  | offering o =>
    simp only [edit, OfferingForm.edit] at h
    split at h
    · refine ⟨_, (congrArg Prod.snd (Except.ok.inj h)).symm, fun hrange => ?_⟩
      obtain ⟨hspecification, hoffering⟩ := inRange_iff.mp hrange
      exact inRange_iff.mpr ⟨hspecification, .inl rfl, .inl rfl, hoffering.channels⟩
    · cases h

theorem inRange_edit (h : b.InRange) {b' : Builder} {r : CatalogRecord} {a : BuilderAction}
    (hedit : b.edit r = .ok (a, b')) : b'.InRange := by
  obtain ⟨opened, rfl, hopened⟩ := edit_shows hedit
  exact inRange_showTab (hopened h) r.tab

theorem inRange_settle (h : b.InRange) (o : FormOutcome) : (b.settle o).InRange := by
  have hpanels := inRange_iff.mp h
  cases o with
  | characteristic r => exact inRange_refocus (inRange_iff.mpr hpanels)
  | specification r =>
    exact inRange_refocus
      (inRange_iff.mpr ⟨SpecificationPanel.inRange_complete hpanels.1 r, hpanels.2⟩)
  | pricing r => exact inRange_refocus (inRange_iff.mpr hpanels)
  | draft r =>
    exact inRange_refocus
      (inRange_iff.mpr ⟨hpanels.1, OfferingPanel.inRange_completeDraft hpanels.2 r⟩)
  | publish r =>
    exact inRange_refocus
      (inRange_iff.mpr ⟨hpanels.1, OfferingPanel.inRange_completePublish hpanels.2 r⟩)

end Builder

/-! ## The focus -/

namespace Builder

theorem refocus_showTab (b : Builder) (tab : BuilderTab) :
    (b.showTab tab).2.refocus = (b.showTab tab).2 := by
  cases tab <;> rfl

theorem refocus_press (b : Builder) (k : Key) : (b.press k).2.2.refocus = (b.press k).2.2 := by
  unfold press
  split
  · exact b.refocus_showTab _
  · rfl

theorem refocus_edit {b b' : Builder} {r : CatalogRecord} {a : BuilderAction}
    (h : b.edit r = .ok (a, b')) : b'.refocus = b' := by
  obtain ⟨opened, rfl, -⟩ := edit_shows h
  exact opened.refocus_showTab r.tab

theorem refocus_settle (b : Builder) (o : FormOutcome) : (b.settle o).refocus = b.settle o := by
  cases o <;> rfl

theorem refocus_specificationOptions (b : Builder)
    (result : Except Failure (List Characteristic)) :
    (b.applySpecificationOptions result).2.refocus =
      (b.refocus.applySpecificationOptions result).2 := by
  cases result <;> rfl

theorem refocus_offeringOptions (b : Builder) (result : Except Failure OfferingOptions) :
    (b.applyOfferingOptions result).2.refocus = (b.refocus.applyOfferingOptions result).2 := by
  cases result <;> rfl

end Builder

/-! ## Events -/

namespace FormLedger

/-- **Step lemma.** The focus stays where the panel that is shown has it. -/
theorem refocus_step {l : FormLedger} (h : l.builder.refocus = l.builder)
    (e : BuilderEvent) : (l.step e).2.builder.refocus = (l.step e).2.builder := by
  cases e with
  | press k =>
    show (l.press k).2.builder.refocus = (l.press k).2.builder
    rw [builder_press]
    exact l.builder.refocus_press k
  | showTab tab => exact l.builder.refocus_showTab tab
  | edit r =>
    show (l.edit r).2.builder.refocus = (l.edit r).2.builder
    unfold edit
    split
    · exact h
    · rename_i action builder hedit
      exact Builder.refocus_edit hedit
  | specificationOptions result =>
    refine (l.builder.refocus_specificationOptions result).trans ?_
    rw [h]
    rfl
  | offeringOptions result =>
    refine (l.builder.refocus_offeringOptions result).trans ?_
    rw [h]
    rfl
  | complete place o =>
    show (l.complete place o).builder.refocus = (l.complete place o).builder
    rw [builder_complete]
    split
    · exact l.builder.refocus_settle o
    · exact h

/-- Options that arrive do not end before the cursor of their list, unless there are none. -/
def Fits (l : FormLedger) : BuilderEvent → Prop
  | .specificationOptions (.ok cs) =>
    cs = [] ∨ l.builder.specification.characteristics.cursor < cs.length
  | .offeringOptions (.ok options) =>
    (options.specifications = [] ∨
      l.builder.offering.specifications.cursor < options.specifications.length) ∧
    (options.prices = [] ∨ l.builder.offering.prices.cursor < options.prices.length)
  | _ => True

/-- **Step lemma.** Cursors stay in their lists while options arrive that fit. -/
theorem inRange_step {l : FormLedger} (h : l.builder.InRange) {e : BuilderEvent}
    (hfits : l.Fits e) : (l.step e).2.builder.InRange := by
  have hpanels := Builder.inRange_iff.mp h
  -- options are made of records, one of each
  have hmap {α : Type} {xs : List α} {f : α → SelectOption} {cursor : Nat}
      (hxs : xs = [] ∨ cursor < xs.length) : xs.map f = [] ∨ cursor < (xs.map f).length := by
    rw [List.map_eq_nil_iff, List.length_map]
    exact hxs
  cases e with
  | press k =>
    show (l.press k).2.builder.InRange
    rw [builder_press]
    exact Builder.inRange_press h k
  | showTab tab => exact Builder.inRange_showTab h tab
  | edit r =>
    show (l.edit r).2.builder.InRange
    unfold edit
    split
    · exact h
    · rename_i action builder hedit
      exact Builder.inRange_edit h hedit
  | specificationOptions result =>
    cases result with
    | error e => exact Builder.inRange_iff.mpr hpanels
    | ok cs => exact Builder.inRange_iff.mpr ⟨hmap hfits, hpanels.2⟩
  | offeringOptions result =>
    cases result with
    | error e =>
      have hoffering := hpanels.2
      exact Builder.inRange_iff.mpr
        ⟨hpanels.1, hoffering.specifications, hoffering.prices, hoffering.channels⟩
    | ok options =>
      exact Builder.inRange_iff.mpr
        ⟨hpanels.1, hmap hfits.1, hmap hfits.2, hpanels.2.channels⟩
  | complete place o =>
    show (l.complete place o).builder.InRange
    rw [builder_complete]
    split
    · exact Builder.inRange_settle h o
    · exact h

end FormLedger

end CatalogDesk
