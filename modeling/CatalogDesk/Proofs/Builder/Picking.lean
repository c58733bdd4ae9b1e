import CatalogDesk.Proofs.Builder.Lists
import Mathlib.Data.List.Basic

/-! # What is picked from the lists of the builder

    A key that picks toggles the option at the cursor of the list that has the focus, as the
    cursor was left by the last key.  The list is drawn with the cursor moved into the options
    that it has now, and without options while they are loading.

    Main result: `toggles_iff_at_option` says that a run always toggles what is highlighted, and
    nothing if no options are drawn, if and only if at every key that picks there is an option at
    the cursor exactly when options are drawn.  While no options arrive that end before a cursor,
    only keys that are pressed during loading matter (`toggles_iff_waits`). -/

namespace CatalogDesk

open Draw

/-! ## Keys that pick -/

theorem Key.isControl_of_picks {k : Key} (hk : k.picks = true) {c : Char} (hc : c ≠ ' ') :
    ¬ k.isControl c = true := by
  intro hcontrol
  rw [isControl, Bool.and_eq_true, beq_iff_eq] at hcontrol
  rcases picks_iff.mp hk with hcode | hcode
  · rw [hcode] at hcontrol
    exact hc (KeyCode.char.inj hcontrol.2).symm
  · rw [hcode] at hcontrol
    cases hcontrol.2

theorem Builder.tabOf?_of_picks {k : Key} (hk : k.picks = true) : tabOf? k = none := by
  have hdigit : k.digit? 4 = none := by
    rcases Key.picks_iff.mp hk with hcode | hcode
    · rw [Key.digit?, hcode]
      rfl
    · rw [Key.digit?, hcode]
  unfold tabOf?
  rw [hdigit]
  split <;> rfl

/-- A list of labels is toggled as the list of what they name. -/
theorem toggle_map [BEq α] [LawfulBEq α] [BEq β] [LawfulBEq β] {f : α → β}
    (hf : Function.Injective f) (selection : List α) (item : α) :
    toggle (selection.map f) (f item) = (toggle selection item).map f := by
  have hmem : (selection.map f).contains (f item) = selection.contains item := by
    rw [Bool.eq_iff_iff, List.contains_iff_mem, List.contains_iff_mem]
    exact List.mem_map_of_injective hf
  unfold toggle
  rw [hmem]
  split
  · exact (List.map_erase hf selection).symm
  · rw [List.map_append, List.map_singleton]

theorem SalesChannel.label_injective : Function.Injective SalesChannel.label := by
  intro c d h
  cases c <;> cases d <;> first | rfl | exact absurd h (by decide)

theorem SalesChannel.ofLabel?_label (c : SalesChannel) : ofLabel? c.label = some c := by
  cases c <;> rfl

namespace SpecificationPanel

variable {p : SpecificationPanel} {k : Key}

/-- Outside the name, a key that picks is one for the list. -/
theorem press_of_picks (hk : k.picks = true) (hfield : p.field = 1) :
    (p.press k).2 = p.pressField k := by
  unfold press
  rw [if_neg (Key.isControl_of_picks hk (by decide)),
    if_neg (Key.isControl_of_picks hk (by decide)),
    if_neg (Key.isControl_of_picks hk (by decide))]
  rcases Key.picks_iff.mp hk with hcode | hcode
  · rw [hcode]
  · rw [hcode, hfield]
    rfl

theorem pressField_of_picks (hk : k.picks = true) (hfield : p.field = 1) :
    p.pressField k = { p with form := { p.form with characteristicIds := p.list.afterPick } } := by
  obtain ⟨form, name, characteristics, field, busy⟩ := p
  cases hfield
  simp only [pressField, Checklist.press_of_picks _ hk, ChecklistView.afterPick, list]
  cases form.options[characteristics.cursor]? <;> rfl

end SpecificationPanel

namespace OfferingPanel

variable {p : OfferingPanel} {k : Key}

theorem press_of_picks (hk : k.picks = true) : (p.press k).2.2 = p.pressField k := by
  unfold press
  dsimp only
  rw [if_neg (Key.isControl_of_picks hk (by decide)),
    if_neg (Key.isControl_of_picks hk (by decide)),
    if_neg (Key.isControl_of_picks hk (by decide)),
    if_neg (Key.isControl_of_picks hk (by decide))]
  rcases Key.picks_iff.mp hk with hcode | hcode
  · rw [hcode]
  · rw [hcode]

theorem pressField_specifications (hk : k.picks = true) (hfield : p.field = 2) :
    p.pressField k =
      { p with form := { p.form with specificationIds := p.specificationList.afterPick } } := by
  obtain ⟨form, name, description, specifications, prices, channels, field, busy⟩ := p
  cases hfield
  simp only [pressField, Checklist.press_of_picks _ hk, ChecklistView.afterPick, specificationList]
  cases form.specificationOptions[specifications.cursor]? <;> rfl

theorem pressField_prices (hk : k.picks = true) (hfield : p.field = 3) :
    p.pressField k = { p with form := { p.form with priceIds := p.priceList.afterPick } } := by
  obtain ⟨form, name, description, specifications, prices, channels, field, busy⟩ := p
  cases hfield
  simp only [pressField, Checklist.press_of_picks _ hk, ChecklistView.afterPick, priceList]
  cases form.priceOptions[prices.cursor]? <;> rfl

/-- The channels are picked by their labels, and selected as what these name. -/
theorem pressField_channels (hk : k.picks = true) (hfield : p.field = 4) :
    ∃ selected : List SalesChannel, selected.map (·.label) = p.channelList.afterPick ∧
      p.pressField k = { p with form := { p.form with channels := selected } } := by
  obtain ⟨form, name, description, specifications, prices, channels, field, busy⟩ := p
  cases hfield
  have hoption : channelOptions[channels.cursor]? =
      (SalesChannel.all[channels.cursor]?).map fun c => ⟨c.label, c.label⟩ := List.getElem?_map
  simp only [pressField, Checklist.press_of_picks _ hk, ChecklistView.afterPick, channelList,
    hoption]
  cases SalesChannel.all[channels.cursor]? with
  | none => exact ⟨form.channels, rfl, rfl⟩
  | some c =>
    refine ⟨toggle form.channels c, ?_, ?_⟩
    · exact (toggle_map SalesChannel.label_injective form.channels c).symm
    · simp only [Option.map_some, Option.bind_some, SalesChannel.ofLabel?_label]
      rfl

end OfferingPanel

namespace Builder

variable {b : Builder} {k : Key} {L : PickList}

/-- A key that picks toggles the option at the cursor of the list that has the focus, and leaves
    the other lists alone. -/
theorem selected_press (hsettled : b.refocus = b) (hk : k.picks = true)
    (hfocus : (b.list L).state.focused = true) (other : PickList) :
    ((b.press k).2.2.list other).selected =
      if other = L then (b.list L).afterPick else (b.list other).selected := by
  rw [← hsettled, focused_refocus] at hfocus
  have hpress : ((b.press k).2.2.list other).selected =
      ((b.pressPanel k).2.2.list other).selected := by
    unfold press
    rw [tabOf?_of_picks hk]
    exact selected_refocus _ _
  rw [hpress]
  -- the panel that is shown replaces one selection, and every list reads its own
  cases L with
  | characteristics =>
    simp only [pointsAt, Bool.and_eq_true, beq_iff_eq] at hfocus
    obtain ⟨htab, hfield⟩ := hfocus
    have hpanel := (SpecificationPanel.press_of_picks hk hfield).trans
      (SpecificationPanel.pressField_of_picks hk hfield)
    simp only [pressPanel, htab, hpanel]
    cases other <;> rfl
  | specifications =>
    simp only [pointsAt, Bool.and_eq_true, beq_iff_eq] at hfocus
    obtain ⟨htab, hfield⟩ := hfocus
    have hpanel := (OfferingPanel.press_of_picks hk).trans
      (OfferingPanel.pressField_specifications hk hfield)
    simp only [pressPanel, htab, hpanel]
    cases other <;> rfl
  | prices =>
    simp only [pointsAt, Bool.and_eq_true, beq_iff_eq] at hfocus
    obtain ⟨htab, hfield⟩ := hfocus
    have hpanel := (OfferingPanel.press_of_picks hk).trans
      (OfferingPanel.pressField_prices hk hfield)
    simp only [pressPanel, htab, hpanel]
    cases other <;> rfl
  | channels =>
    simp only [pointsAt, Bool.and_eq_true, beq_iff_eq] at hfocus
    obtain ⟨htab, hfield⟩ := hfocus
    obtain ⟨selected, hselected, hfields⟩ := OfferingPanel.pressField_channels hk hfield
    have hpanel := (OfferingPanel.press_of_picks hk).trans hfields
    simp only [pressPanel, htab, hpanel]
    cases other with
    | channels => exact hselected
    | _ => rfl

end Builder

/-! ## Runs -/

/-- A list whose cursor is in range differs from what it draws only while it is loading. -/
theorem ChecklistView.stands_iff_of_inRange {v : ChecklistView} (h : v.InRange) :
    v.Stands ↔ (v.loading = true → v.options.length ≤ v.state.cursor) := by
  unfold Stands showsOptions
  cases hloading : v.loading with
  | true => simp
  | false =>
    have hshown : v.options ≠ [] ↔ v.state.cursor < v.options.length := by
      constructor
      · exact h.resolve_left
      · rintro hcursor hempty
        rw [hempty] at hcursor
        exact absurd hcursor (Nat.not_lt_zero _)
    simpa using hshown

namespace FormLedger

/-- The key toggles the option that the list highlights, or nothing if it draws no options; other
    lists stay as they are. -/
structure Toggles (l : FormLedger) (k : Key) (L : PickList) (height : Nat) : Prop where
  list : (l.builder.list L).Obeys height ((l.press k).2.builder.list L).selected
  others : ∀ other, other ≠ L →
    ((l.press k).2.builder.list other).selected = (l.builder.list other).selected

/-- A key that picks toggles what is highlighted, wherever the list that has the focus is drawn
    with at least one row. -/
def TogglesHighlighted (l : FormLedger) (e : BuilderEvent) : Prop :=
  ∀ k, e = .press k → k.picks = true → ∀ L, (l.builder.list L).state.focused = true →
    ∀ a : Area, 0 < a.within.height → l.Toggles k L a.within.height

/-- At a key that picks, the list that has the focus has an option at its cursor exactly when it
    draws options. -/
def AtOption (l : FormLedger) (e : BuilderEvent) : Prop :=
  ∀ k, e = .press k → k.picks = true → ∀ L, (l.builder.list L).state.focused = true →
    (l.builder.list L).Stands

/-- No key picks while options are loading, unless there is no option at the cursor. -/
def Waits (l : FormLedger) (e : BuilderEvent) : Prop :=
  ∀ k, e = .press k → k.picks = true → ∀ L, (l.builder.list L).state.focused = true →
    (l.builder.list L).loading = true →
      (l.builder.list L).options.length ≤ (l.builder.list L).state.cursor

/-- **Step lemma.** -/
theorem togglesHighlighted_iff {l : FormLedger} (hsettled : l.builder.refocus = l.builder)
    (e : BuilderEvent) : l.TogglesHighlighted e ↔ l.AtOption e := by
  have hselected {k : Key} {L : PickList} (hk : k.picks = true)
      (hfocus : (l.builder.list L).state.focused = true) (other : PickList) :
      ((l.press k).2.builder.list other).selected =
        if other = L then (l.builder.list L).afterPick else (l.builder.list other).selected := by
    rw [builder_press]
    exact Builder.selected_press hsettled hk hfocus other
  constructor
  · intro h k he hk L hfocus
    -- any area with a row will do
    have hlist := (h k he hk L hfocus ⟨0, 0, 3, 3⟩ (by decide)).list
    rw [hselected hk hfocus, if_pos rfl] at hlist
    exact (ChecklistView.obeys_iff_stands hfocus (by decide)).mp hlist
  · intro h k he hk L hfocus a hheight
    constructor
    · rw [hselected hk hfocus, if_pos rfl]
      exact (ChecklistView.obeys_iff_stands hfocus hheight).mpr (h k he hk L hfocus)
    · intro other hother
      rw [hselected hk hfocus, if_neg hother]

theorem atOption_iff_waits {l : FormLedger} (h : l.builder.InRange) (e : BuilderEvent) :
    l.AtOption e ↔ l.Waits e := by
  unfold AtOption Waits
  simp only [ChecklistView.stands_iff_of_inRange (h _)]

/-- **Run lemma**, from any ledger whose lists know where the focus is. -/
theorem along_togglesHighlighted_iff {l : FormLedger} (hsettled : l.builder.refocus = l.builder)
    (events : List BuilderEvent) :
    Along TogglesHighlighted l events ↔ Along AtOption l events := by
  induction events generalizing l with
  | nil => exact Iff.rfl
  | cons e events ih =>
    exact and_congr (togglesHighlighted_iff hsettled e) (ih (refocus_step hsettled e))

/-- A run of the builder always toggles what is highlighted, and nothing if no options are drawn,
    if and only if at every key that picks there is an option at the cursor exactly when options
    are drawn. -/
theorem toggles_iff_at_option (events : List BuilderEvent) :
    Along TogglesHighlighted {} events ↔ Along AtOption {} events :=
  along_togglesHighlighted_iff rfl events

/-- **Run lemma**, from any ledger whose cursors are in their lists. -/
theorem along_atOption_iff_waits {l : FormLedger} (hrange : l.builder.InRange)
    {events : List BuilderEvent} (hfits : Along Fits l events) :
    Along AtOption l events ↔ Along Waits l events := by
  induction events generalizing l with
  | nil => exact Iff.rfl
  | cons e events ih =>
    obtain ⟨he, hrest⟩ := hfits
    exact and_congr (atOption_iff_waits hrange e) (ih (inRange_step hrange he) hrest)

/-- As long as no options arrive that end before a cursor, only keys that pick while options are
    loading can toggle what is not highlighted. -/
theorem toggles_iff_waits {events : List BuilderEvent} (hfits : Along Fits {} events) :
    Along TogglesHighlighted {} events ↔ Along Waits {} events := by
  have hstart : Builder.InRange ({} : FormLedger).builder := by
    intro L
    cases L with
    | channels => exact .inr (by decide)
    | _ => exact .inl rfl
  exact (along_togglesHighlighted_iff rfl events).trans (along_atOption_iff_waits hstart hfits)

/-! ## A list that has shrunk -/

def colour (id name : String) : Characteristic :=
  { id, name, value := "1", unit := .none, createdAt := none, updatedAt := none }

/-- The cursor is moved to the second of two characteristics; then they are loaded anew, and
    there is only one. -/
def shrunk : List BuilderEvent :=
  [.showTab .specification,
    .specificationOptions (.ok [colour "c1" "Red", colour "c2" "Blue"]),
    .press { code := .tab }, .press { code := .down },
    .press { code := .char 'r', control := true },
    .specificationOptions (.ok [colour "c1" "Red"]), .press { code := .char ' ' }]

/-- Not every run toggles what is highlighted: here the only option is, and the key does
    nothing. -/
theorem not_toggles_shrunk : ¬ Along TogglesHighlighted {} shrunk := by
  intro h
  obtain ⟨-, -, -, -, -, -, hstands, -⟩ := (along_togglesHighlighted_iff rfl shrunk).mp h
  have hoption := (hstands _ rfl rfl .characteristics rfl).mp rfl
  exact absurd hoption (by decide)

end FormLedger

end CatalogDesk
