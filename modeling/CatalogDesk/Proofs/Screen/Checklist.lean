import CatalogDesk.Screen.Checklist

/-! # What a checklist highlights, and what it toggles

    A list is drawn with its cursor moved to the last option, if it is beyond it, and scrolled to
    the cursor; a key picks the option at the cursor as it is.  So a list that has the focus
    highlights one of the options that it draws, in a row that is in sight
    (`highlights_iff`, `exists_highlights`), and that option is the one that a key toggles if and
    only if the cursor stands at an option exactly when options are drawn (`obeys_iff_stands`). -/

namespace CatalogDesk

open Draw

/-- Are all texts of the line shown as selected? -/
def Draw.Line.IsHighlighted (l : Line) : Prop :=
  l.spans ≠ [] ∧ ∀ span ∈ l.spans, span.style = Palette.selectedStyle

/-- Does the key pick the option at the cursor? -/
def Key.picks (k : Key) : Bool := k.code == .char ' ' || k.code == .enter

theorem Key.picks_iff {k : Key} : k.picks = true ↔ k.code = .char ' ' ∨ k.code = .enter := by
  rw [picks, Bool.or_eq_true, beq_iff_eq, beq_iff_eq]

/-- A selection in which an option was toggled, if there is one. -/
def toggleOption (selection : List RecordId) : Option SelectOption → List RecordId
  | some o => toggle selection o.id
  | none => selection

theorem toggle_ne [BEq α] [LawfulBEq α] (selection : List α) (item : α) :
    toggle selection item ≠ selection := by
  intro hsame
  have hlength := congrArg List.length hsame
  unfold toggle at hlength
  split at hlength
  · rename_i hmem
    rw [List.contains_iff_mem] at hmem
    have hpos := List.length_pos_of_mem hmem
    rw [List.length_erase_of_mem hmem] at hlength
    omega
  · rw [List.length_append, List.length_singleton] at hlength
    omega

/-! ## The cursor -/

namespace Checklist

variable (c : Checklist) {height : Nat}

theorem press_of_picks {k : Key} (hk : k.picks = true) (options : List SelectOption) :
    c.press k options = ((options[c.cursor]?).map (·.id), c) := by
  rcases Key.picks_iff.mp hk with hcode | hcode
  · simp only [press, hcode]
  · simp only [press, hcode]

@[simp] theorem cursor_scrollTo : (c.scrollTo height).cursor = c.cursor := by
  unfold scrollTo
  split
  · rfl
  · split
    · rfl
    · split <;> rfl

@[simp] theorem focused_scrollTo : (c.scrollTo height).focused = c.focused := by
  unfold scrollTo
  split
  · rfl
  · split
    · rfl
    · split <;> rfl

/-- A list that was scrolled to its cursor has it in one of its rows. -/
theorem scrollTo_bounds (hheight : 0 < height) :
    (c.scrollTo height).offset ≤ c.cursor ∧ c.cursor < (c.scrollTo height).offset + height := by
  unfold scrollTo
  rw [if_neg (by simpa using Nat.ne_of_gt hheight)]
  split
  · exact ⟨Nat.le_refl _, Nat.lt_add_of_pos_right hheight⟩
  · rename_i hbelow
    split
    · dsimp only
      omega
    · rename_i habove
      exact ⟨Nat.not_lt.mp hbelow, Nat.not_le.mp habove⟩

end Checklist

/-! ## What is drawn -/

/-- Lines that are cut off have one row each. -/
theorem Draw.Prose.rows_of_cut {p : Prose} (hcut : p.overflow = .cut) (columns : Nat) :
    p.rows columns = p.lines.map fun l =>
      (cutOff columns 0 (l.glyphs {}), l.placement.getD p.placement) := by
  unfold Prose.rows
  rw [hcut]
  exact List.map_eq_flatMap.symm

theorem Draw.Prose.not_isHighlighted_of_ofText {text : String} {style : Style} {line : Line}
    (h : line ∈ (Prose.ofText text style).lines) : ¬ line.IsHighlighted := by
  rintro ⟨hspans, hstyles⟩
  -- a text that is drawn in one style leaves the spans of its lines without any
  have hplain : ∀ span ∈ line.spans, span.style = {} := by
    change line ∈ Line.ofTextLines text at h
    unfold Line.ofTextLines at h
    split at h
    · rw [List.mem_singleton.mp h] at hspans
      exact absurd rfl hspans
    · obtain ⟨t, -, rfl⟩ := List.mem_map.mp h
      intro span hspan
      obtain ⟨u, -, rfl⟩ := List.mem_map.mp hspan
      rfl
  obtain ⟨span, hspan⟩ := List.exists_mem_of_ne_nil _ hspans
  have hclash := (hplain span hspan).symm.trans (hstyles span hspan)
  exact absurd hclash (by decide)

namespace ChecklistView

variable (v : ChecklistView) {height row : Nat} {o : SelectOption}

/-- The cursor and the scrolling with which the list is drawn. -/
def drawnState (height : Nat) : Checklist := v.state.inSight v.options.length height

/-- The list draws an option in a row, and shows it as selected. -/
structure Highlights (v : ChecklistView) (height row : Nat) (o : SelectOption) : Prop where
  inside : row < height
  option : ∃ i, (v.shown (v.drawnState height) height)[row]? = some (i, o)
  /-- The line of the option is what stands in the row, as far as it fits. -/
  line : ∃ line, (v.body height).lines[row]? = some line ∧ line.IsHighlighted ∧
    ∀ columns, ((v.body height).rows columns)[row]? =
      some (cutOff columns 0 (line.glyphs {}), line.placement.getD .left)

theorem optionLine_isHighlighted_iff (state : Checklist) (i : Nat) (o : SelectOption) :
    (v.optionLine state i o).IsHighlighted ↔ state.focused = true ∧ i = state.cursor := by
  have hstyle : (v.optionLine state i o).IsHighlighted ↔
      (if state.focused && i == state.cursor then Palette.selectedStyle
        else if v.selected.contains o.id then .colored Palette.success
        else .colored .plain) = Palette.selectedStyle := by
    simp only [Line.IsHighlighted, optionLine, List.mem_cons, List.not_mem_nil, or_false,
      forall_eq_or_imp, forall_eq, and_self, ne_eq, reduceCtorEq, not_false_eq_true, true_and]
  rw [hstyle, ← beq_iff_eq (a := i), ← Bool.and_eq_true]
  split
  · rename_i hcursor
    exact iff_of_true rfl hcursor
  · rename_i hcursor
    refine iff_of_false ?_ hcursor
    split <;> decide

theorem getElem?_shown (state : Checklist) (hrow : row < height) :
    (v.shown state height)[row]? =
      (v.options[state.offset + row]?).map fun o => (state.offset + row, o) := by
  rw [shown, List.getElem?_take_of_lt hrow, List.getElem?_drop, List.zip, List.getElem?_zipWith]
  cases hoption : v.options[state.offset + row]? with
  | none => cases (List.range v.options.length)[state.offset + row]? <;> rfl
  | some o =>
    have hlength := (List.getElem?_eq_some_iff.mp hoption).1
    rw [List.getElem?_range hlength]
    rfl

theorem body_lines (hshows : v.showsOptions = true) :
    (v.body height).lines = (v.shown (v.drawnState height) height).map fun io =>
      v.optionLine (v.drawnState height) io.1 io.2 := by
  simp only [showsOptions, Bool.and_eq_true, Bool.not_eq_true'] at hshows
  unfold body
  rw [if_neg (by rw [hshows.1]; exact Bool.false_ne_true),
    if_neg (by rw [hshows.2]; exact Bool.false_ne_true)]
  rfl

theorem rows_body (columns : Nat) :
    (v.body height).rows columns = (v.body height).lines.map fun l =>
      (cutOff columns 0 (l.glyphs {}), l.placement.getD .left) := by
  unfold body
  split
  · exact Prose.rows_of_cut rfl columns
  · split
    · exact Prose.rows_of_cut rfl columns
    · exact Prose.rows_of_cut rfl columns

/-- A list without options to draw highlights none of its lines. -/
theorem not_isHighlighted_of_shows_none (hnone : v.showsOptions = false) {line : Line}
    (h : line ∈ (v.body height).lines) : ¬ line.IsHighlighted := by
  unfold body at h
  split at h
  · exact Prose.not_isHighlighted_of_ofText h
  · rename_i hloaded
    split at h
    · exact Prose.not_isHighlighted_of_ofText h
    · rename_i hoptions
      rw [showsOptions, Bool.eq_false_iff.mpr hloaded, Bool.eq_false_iff.mpr hoptions] at hnone
      cases hnone

/-- A list with the focus highlights the option at the cursor with which it is drawn. -/
theorem highlights_iff :
    v.Highlights height row o ↔ v.showsOptions = true ∧ v.state.focused = true ∧ row < height ∧
      (v.drawnState height).offset + row = (v.drawnState height).cursor ∧
      v.options[(v.drawnState height).cursor]? = some o := by
  have hfocused : (v.drawnState height).focused = v.state.focused := Checklist.focused_scrollTo _
  constructor
  · rintro ⟨hrow, ⟨i, hoption⟩, line, hline, hlit, -⟩
    have hshows : v.showsOptions = true := by
      cases hshows : v.showsOptions with
      | true => rfl
      | false =>
        have hmem := List.mem_of_getElem? hline
        exact absurd hlit (v.not_isHighlighted_of_shows_none hshows hmem)
    rw [v.body_lines hshows, List.getElem?_map, hoption, Option.map_some] at hline
    rw [← Option.some.inj hline, optionLine_isHighlighted_iff, hfocused] at hlit
    rw [v.getElem?_shown _ hrow] at hoption
    obtain ⟨o', ho', heq⟩ := Option.map_eq_some_iff.mp hoption
    obtain ⟨rfl, rfl⟩ := Prod.mk.inj heq
    exact ⟨hshows, hlit.1, hrow, hlit.2, hlit.2 ▸ ho'⟩
  · rintro ⟨hshows, hfocus, hrow, hplace, ho⟩
    have hoption : (v.shown (v.drawnState height) height)[row]? =
        some ((v.drawnState height).cursor, o) := by
      rw [v.getElem?_shown _ hrow, hplace, ho]
      rfl
    have hline : (v.body height).lines[row]? =
        some (v.optionLine (v.drawnState height) (v.drawnState height).cursor o) := by
      rw [v.body_lines hshows, List.getElem?_map, hoption, Option.map_some]
    refine ⟨hrow, ⟨_, hoption⟩, _, hline, ?_, ?_⟩
    · rw [optionLine_isHighlighted_iff, hfocused]
      exact ⟨hfocus, rfl⟩
    · intro columns
      rw [v.rows_body, List.getElem?_map, hline, Option.map_some]

variable {v}

theorem cursor_drawnState :
    (v.drawnState height).cursor = min v.state.cursor (v.options.length - 1) :=
  Checklist.cursor_scrollTo _

/-- The cursor with which the list is drawn is in one of its rows. -/
theorem drawnState_bounds (hheight : 0 < height) :
    (v.drawnState height).offset ≤ (v.drawnState height).cursor ∧
      (v.drawnState height).cursor < (v.drawnState height).offset + height := by
  rw [cursor_drawnState]
  exact (v.state.clamp v.options.length).scrollTo_bounds hheight

/-- A list with the focus that draws options highlights one in its rows. -/
theorem exists_highlights (hshows : v.showsOptions = true) (hfocus : v.state.focused = true)
    (hheight : 0 < height) : ∃ row o, v.Highlights height row o := by
  obtain ⟨hbelow, habove⟩ := v.drawnState_bounds hheight
  have hsome : 0 < v.options.length := by
    simp only [showsOptions, Bool.and_eq_true, Bool.not_eq_true',
      List.isEmpty_eq_false_iff] at hshows
    exact List.length_pos_iff.mpr hshows.2
  have hcursor : (v.drawnState height).cursor < v.options.length := by
    rw [cursor_drawnState]
    omega
  refine ⟨(v.drawnState height).cursor - (v.drawnState height).offset,
    v.options[(v.drawnState height).cursor], v.highlights_iff.mpr ⟨hshows, hfocus, ?_, ?_, ?_⟩⟩
  · exact Nat.sub_lt_left_of_lt_add hbelow habove
  · exact Nat.add_sub_cancel' hbelow
  · exact List.getElem?_eq_getElem hcursor

/-! ## What a key toggles -/

/-- The selection after the option at the cursor was toggled, if there is one. -/
def afterPick (v : ChecklistView) : List RecordId :=
  toggleOption v.selected v.options[v.state.cursor]?

/-- There is an option at the cursor exactly when options are drawn. -/
def Stands (v : ChecklistView) : Prop :=
  v.showsOptions = true ↔ v.state.cursor < v.options.length

/-- The list highlights one of the options that it draws, and the selection becomes the one in
    which that option is toggled; it stays as it is if no options are drawn. -/
structure Obeys (v : ChecklistView) (height : Nat) (selected : List RecordId) : Prop where
  highlighted : v.showsOptions = true → ∃ row o, v.Highlights height row o
  unique : ∀ row row' o o', v.Highlights height row o → v.Highlights height row' o' →
    row = row' ∧ o = o'
  toggles : ∀ row o, v.Highlights height row o → selected = toggle v.selected o.id
  spares : v.showsOptions = false → selected = v.selected

theorem afterPick_eq_iff : v.afterPick = v.selected ↔ v.options.length ≤ v.state.cursor := by
  rw [← List.getElem?_eq_none_iff, afterPick]
  cases v.options[v.state.cursor]? with
  | none => exact iff_of_true rfl rfl
  | some o => exact iff_of_false (toggle_ne _ _) nofun

/-- What a key toggles is what is highlighted, if and only if there is an option at the cursor
    exactly when options are drawn. -/
theorem obeys_iff_stands (hfocus : v.state.focused = true) (hheight : 0 < height) :
    v.Obeys height v.afterPick ↔ v.Stands := by
  constructor
  · intro h
    by_cases hshows : v.showsOptions = true
    · -- the highlighted option is toggled, and that changes the selection
      obtain ⟨row, o, hrow⟩ := h.highlighted hshows
      have hchanged : ¬ v.options.length ≤ v.state.cursor := by
        rw [← afterPick_eq_iff, h.toggles row o hrow]
        exact toggle_ne _ _
      exact iff_of_true hshows (Nat.not_le.mp hchanged)
    · have hkept := h.spares (Bool.eq_false_iff.mpr hshows)
      exact iff_of_false hshows (Nat.not_lt.mpr (afterPick_eq_iff.mp hkept))
  · intro h
    refine ⟨fun hshows => exists_highlights hshows hfocus hheight, ?_, ?_, ?_⟩
    · intro row row' o o' hrow hrow'
      obtain ⟨-, -, -, hplace, ho⟩ := v.highlights_iff.mp hrow
      obtain ⟨-, -, -, hplace', ho'⟩ := v.highlights_iff.mp hrow'
      exact ⟨Nat.add_left_cancel (hplace.trans hplace'.symm), Option.some.inj (ho.symm.trans ho')⟩
    · intro row o hrow
      obtain ⟨hshows, -, -, -, ho⟩ := v.highlights_iff.mp hrow
      have hcursor : v.state.cursor < v.options.length := h.mp hshows
      have hsame : (v.drawnState height).cursor = v.state.cursor := by
        rw [cursor_drawnState]
        omega
      rw [hsame] at ho
      rw [afterPick, ho]
      rfl
    · intro hnone
      have hcursor : ¬ v.state.cursor < v.options.length := by
        intro hcursor
        rw [h.mpr hcursor] at hnone
        cases hnone
      exact afterPick_eq_iff.mpr (Nat.not_lt.mp hcursor)

end ChecklistView

end CatalogDesk
