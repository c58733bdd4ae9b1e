import CatalogDesk.Proofs.Draw.Painted
import CatalogDesk.Proofs.Viewer.Commands
import CatalogDesk.Screen.TableView

/-! # Is the selected row in sight?

    A table is drawn from the first row of its page on, as far as there is room, and the row
    that is selected is highlighted.  The selection moves over the whole page, but the rows are
    not moved with it: a row for which there is no room can be selected and is not drawn.

    A line of the area belongs to each row (`line`).  `shows_row` and `line_unchanged` say what
    stands there after the table is drawn: the row with that number, or what stood there
    before.  Nothing else that is drawn comes into these lines.

    Main result: `keepsInSight_iff`. -/

namespace CatalogDesk

open Draw

variable {α : Type}

/-! ## Highlighted cells -/

/-- A cell of the area has the color of what is selected behind its sign. -/
def Draw.Surface.Lights (s : Surface) (a : Area) : Prop :=
  ∃ x y c, a.Has x y ∧ s.cell? x y = some c ∧ c.back = Palette.accent

namespace TableView

/-! ## The lines of an area -/

/-- The number of rows for which there is room between the border, the headings and the page
    numbers. -/
def room (a : Area) : Nat := a.height - 4

/-- The line in which the row with this number stands. -/
def line (a : Area) (i : Nat) : Area := ⟨a.x + 1, a.y + 2 + i, a.width - 2, 1⟩

/-- The part of the area for headings and rows. -/
def body (a : Area) : Area := ⟨a.x + 1, a.y + 1, a.width - 2, a.height - 3⟩

/-- The line for page numbers. -/
def footer (a : Area) : Area := ⟨a.x + 1, a.y + a.height - 2, a.width - 2, 1⟩

/-- How many rows are drawn. -/
def drawn (v : TableView α) (a : Area) : Nat :=
  if 2 < a.width then min v.table.pageRows.length (room a) else 0

/-- The columns of a line. -/
def columns (v : TableView α) (a : Area) : List (Nat × Nat) :=
  Share.divide (a.width - 2) 2 (shares v.table)

/-- In the line stands the row, drawn over what stood there before. -/
def Shows (columns : List (Nat × Nat)) (line : Area) (row : GridRow) (s s' : Surface) : Prop :=
  ∃ before, (Brush.outside line).Paints s before ∧
    (Brush.outside line).Paints (Grid.drawRow row columns line before) s'

/-- A record as the selected row. -/
def selectedRow (v : TableView α) (r : α) : GridRow :=
  ⟨v.table.columns.map fun c => v.table.cell c r, Palette.selectedStyle⟩

/-- The record that actions apply to stands in a line, which is the only one highlighted. -/
def ShowsSelected (v : TableView α) (a : Area) (s : Surface) : Prop :=
  ∃ r i, v.table.selected? = some r ∧ i < room a ∧
    Shows (v.columns a) (line a i) (v.selectedRow r) s (v.draw a s) ∧
    ∀ j < room a, (v.draw a s).Lights (line a j) ↔ j = i

/-- If rows are drawn, the selected one is among them, on every surface that has the area and
    on which nothing is highlighted there. -/
def KeepsInSight (v : TableView α) (a : Area) : Prop :=
  v.focused = true → v.table.loading = false → 0 < v.drawn a →
    ∀ s : Surface, s.Holds a → ¬ s.Lights a → v.ShowsSelected a s

variable {v : TableView α} {a : Area} {s s' : Surface} {i : Nat} {row : GridRow}

theorem parts_eq (hwidth : 2 < a.width) (hroom : i < room a) :
    a.within.downward [.growing 1, .exactly 1] 0 = body a ∧
      a.within.downward [.growing 1, .exactly 1] 1 = footer a := by
  unfold room at hroom
  have hdivide (n : Nat) :
      Share.divide n 0 [.growing 1, .exactly 1] = [(0, n - 1), (n - 1, min 1 n)] := by
    simp [Share.divide, Share.grant, Share.settleFloors, Share.totalWeight, Share.weight,
      Share.sizes, Share.place, Share.nearest, Share.exact]
    omega
  simp only [Area.downward, hdivide, Area.within, Area.right, Area.bottom, body, footer,
    Area.mk.injEq, List.getD_cons_zero, List.getD_cons_succ, true_and]
  omega

/-- The rows follow the headings. -/
theorem row_eq_line (hroom : i < room a) : (body a).row (i + 1) = line a i := by
  unfold room at hroom
  simp only [Area.row, body, line, Area.mk.injEq, true_and]
  omega

/-! ## What comes into a line -/

/-- What is drawn in other lines does not. -/
theorem allows_apart (x width : Nat) {y height : Nat} (hone : height ≤ 1)
    (hy : y < a.y + 2 + i ∨ a.y + 2 + i < y) (style : Style) :
    (Brush.outside (line a i)).Allows ⟨x, y, width, height⟩ style := by
  refine Brush.allows_keeping (fun u v hplace hline => ?_) style
  simp only [Area.Has, line, Area.right, Area.bottom] at hplace hline
  omega

theorem paints_row_apart {b : Area} (columns : List (Nat × Nat))
    (hb : b.y < a.y + 2 + i ∨ a.y + 2 + i < b.y) (row : GridRow) (s : Surface) :
    (Brush.outside (line a i)).Paints s (Grid.drawRow row columns b s) := by
  have hone : min 1 (b.height - 0) ≤ 1 := Nat.min_le_left 1 _
  exact Brush.paints_drawRow (allows_apart _ _ hone hb row.style)
    (fun x width => allows_apart _ width hone hb {}) columns s

theorem paints_frame_apart (hs : s.Holds a) (hwidth : 2 < a.width) (hroom : i < room a) :
    (Brush.outside (line a i)).Paints s (v.frame.draw a s) := by
  unfold room at hroom
  have ha : a.isEmpty = false := Area.isEmpty_eq_false_iff.mpr (by omega)
  have htop : a.y < a.y + 2 + i := by omega
  have hbottom : a.y + 2 + i < a.bottom - 1 := by
    unfold Area.bottom
    omega
  refine Brush.paints_frame hs ha rfl (fun hrim _ _ hline => ?_)
    (fun style _ => allows_apart _ _ (Nat.le_refl 1) (.inl htop) style)
    (fun style _ => allows_apart _ _ (Nat.le_refl 1) (.inr hbottom) style)
  simp only [Area.Rim, Area.Has, line, Area.right, Area.bottom] at hrim hline
  omega

theorem paints_footer_apart (hroom : i < room a) (s : Surface) :
    (Brush.outside (line a i)).Paints s
      (if 1 < v.table.totalPages then
        Prose.draw { lines := [pagination v.table], placement := .center } (footer a) s
      else s) := by
  unfold room at hroom
  have hbelow : a.y + 2 + i < a.y + a.height - 2 := by omega
  have hallows := allows_apart (a.x + 1) (a.width - 2) (Nat.le_refl 1) (.inr hbelow)
  split
  · exact Brush.paints_prose rfl rfl (hallows {}) (fun _ _ style _ => hallows style) s
  · exact Brush.paints_refl s

/-- Border, titles and headings. -/
theorem paints_top_apart (hs : s.Holds a) (hwidth : 2 < a.width) (hroom : i < room a) :
    (Brush.outside (line a i)).Paints s
      (Grid.drawRow (header v.table) (v.columns a) (body a) (v.frame.draw a s)) := by
  have hheader : a.y + 1 < a.y + 2 + i := by omega
  exact (paints_frame_apart hs hwidth hroom).trans
    (paints_row_apart (v.columns a) (.inl hheader) (header v.table) _)

/-- A table with rows is drawn in four steps. -/
theorem draw_eq (hempty : v.table.showsEmptyState = false) (hwidth : 2 < a.width)
    (hroom : i < room a) (s : Surface) :
    v.draw a s =
      let shown := (v.rows a.height).take (room a)
      let s := Grid.drawRow (header v.table) (v.columns a) (body a) (v.frame.draw a s)
      let s := (shown.zip (List.range shown.length)).foldl (fun s p =>
        Grid.drawRow p.1 (v.columns a) ((body a).row (p.2 + 1)) s) s
      if 1 < v.table.totalPages then
        Prose.draw { lines := [pagination v.table], placement := .center } (footer a) s
      else s := by
  obtain ⟨hbody, hfooter⟩ := parts_eq hwidth hroom
  have hdata : (body a).isEmpty = false := by
    unfold room at hroom
    exact Area.isEmpty_eq_false_iff.mpr (by dsimp only [body]; omega)
  unfold draw Grid.draw
  simp only [hempty, hbody, hfooter, hdata, Bool.false_eq_true, if_false]
  rfl

/-- One row that is drawn does not come into the line of another. -/
theorem paints_other_row {j : Nat} (hother : j ≠ i) (columns : List (Nat × Nat)) (row : GridRow)
    (s : Surface) :
    (Brush.outside (line a i)).Paints s
      (Grid.drawRow row columns ((body a).row (j + 1)) s) := by
  have hapart : a.y + 1 + (j + 1) < a.y + 2 + i ∨ a.y + 2 + i < a.y + 1 + (j + 1) := by omega
  exact paints_row_apart columns hapart row s

/-- A row for which there is room stands in its line. -/
theorem shows_row (hempty : v.table.showsEmptyState = false) (hs : s.Holds a)
    (hwidth : 2 < a.width) (hroom : i < room a) (hrow : (v.rows a.height)[i]? = some row) :
    Shows (v.columns a) (line a i) row s (v.draw a s) := by
  have htop := paints_top_apart (v := v) hs hwidth hroom
  have hshown : ((v.rows a.height).take (room a))[i]? = some row := by
    rw [List.getElem?_take_of_lt hroom, hrow]
  rw [draw_eq hempty hwidth hroom]
  generalize (v.rows a.height).take (room a) = shown at hshown ⊢
  have hlt : i < shown.length := (List.getElem?_eq_some_iff.mp hshown).1
  have hturn : (row, i) ∈ shown.zip (List.range shown.length) :=
    List.mem_of_getElem? (List.getElem?_zip_eq_some.mpr ⟨hshown, List.getElem?_range hlt⟩)
  have hkeys : ((shown.zip (List.range shown.length)).map Prod.snd).Nodup := by
    rw [List.map_snd_zip (Nat.le_of_eq List.length_range)]
    exact List.nodup_range
  obtain ⟨before, hbefore, hafter⟩ := Brush.Paints.exists_turn _ Prod.snd hkeys hturn
    (fun p _ hother => paints_other_row hother (v.columns a) p.1) _
  rw [row_eq_line hroom] at hafter
  exact ⟨before, htop.trans hbefore, hafter.trans (paints_footer_apart hroom _)⟩

/-- Where there is no row, the line stays as it was. -/
theorem line_unchanged (hempty : v.table.showsEmptyState = false) (hs : s.Holds a)
    (hwidth : 2 < a.width) (hroom : i < room a) (hrow : (v.rows a.height)[i]? = none) :
    (Brush.outside (line a i)).Paints s (v.draw a s) := by
  have htop := paints_top_apart (v := v) hs hwidth hroom
  have hfew : ((v.rows a.height).take (room a)).length ≤ i :=
    Nat.le_trans (List.length_take_le' _ _) (List.getElem?_eq_none_iff.mp hrow)
  rw [draw_eq hempty hwidth hroom]
  generalize (v.rows a.height).take (room a) = shown at hfew ⊢
  have hother : ∀ p ∈ shown.zip (List.range shown.length), p.2 ≠ i := by
    intro p hp
    have hlt := List.mem_range.mp (List.of_mem_zip hp).2
    omega
  have hrows := htop.trans (Brush.Paints.foldl (shown.zip (List.range shown.length)) _
    fun p hp => paints_other_row (hother p hp) (v.columns a) p.1)
  exact hrows.trans (paints_footer_apart hroom _)

/-! ## Highlighted lines -/

theorem has_of_line (hroom : i < room a) {x y : Nat} (h : (line a i).Has x y) : a.Has x y := by
  unfold room at hroom
  simp only [Area.Has, line, Area.right, Area.bottom] at h ⊢
  omega

theorem lights_of_line (hroom : i < room a) (h : s.Lights (line a i)) : s.Lights a := by
  obtain ⟨x, y, c, hplace, hc, hback⟩ := h
  exact ⟨x, y, c, has_of_line hroom hplace, hc, hback⟩

theorem lights_of_paints (h : (Brush.outside (line a i)).Paints s s')
    (hlights : s'.Lights (line a i)) : s.Lights (line a i) := by
  obtain ⟨x, y, c, hplace, hc, hback⟩ := hlights
  exact ⟨x, y, c, hplace, (h.cell?_eq hplace).symm.trans hc, hback⟩

/-- The first cell of a highlighted row keeps its color, whatever text stands in it. -/
theorem Shows.lights {columns : List (Nat × Nat)} (h : Shows columns (line a i) row s s')
    (hs : s.Holds a) (hwidth : 2 < a.width) (hroom : i < room a)
    (hrow : row.style.back = some Palette.accent) : s'.Lights (line a i) := by
  obtain ⟨before, hbefore, hafter⟩ := h
  have hfirst : (line a i).Has (a.x + 1) (a.y + 2 + i) := by
    simp only [Area.Has, line, Area.right, Area.bottom]
    omega
  obtain ⟨c, hc⟩ := hs.cell? (has_of_line hroom hfirst)
  have hwashed := Brush.cell?_wash hfirst ((hbefore.cell?_eq hfirst).trans hc) row.style
  have hback : (c.styled row.style).back = Palette.accent := by
    simp [Cell.styled, hrow]
  obtain ⟨c', hc', hsame | ⟨hright, -⟩⟩ :=
    (Brush.dims_cells (row.cells.zip columns) _).cell_after hwashed
  · exact ⟨_, _, c', hfirst, (hafter.cell?_eq hfirst).trans hc', hsame.trans hback⟩
  · exact absurd hright (Nat.lt_irrefl _)

/-- A row without a style is not highlighted. -/
theorem Shows.not_lights {columns : List (Nat × Nat)} (h : Shows columns (line a i) row s s')
    (hrow : row.style = {}) (hdark : ¬ s.Lights (line a i)) : ¬ s'.Lights (line a i) := by
  obtain ⟨before, hbefore, hafter⟩ := h
  intro hlights
  obtain ⟨x, y, c, hplace, hc, hback⟩ := lights_of_paints hafter hlights
  have hwash : (Brush.dimming (line a i).x).Allows (line a i) row.style :=
    Brush.allows_dimming (Nat.le_refl _) (congrArg Style.back hrow)
  have hdim : (Brush.dimming (line a i).x).Paints before
      (Grid.drawRow row columns (line a i) before) :=
    (Brush.paints_wash hwash before).trans (Brush.dims_cells (row.cells.zip columns) _)
  obtain ⟨c', hc', hsame | ⟨-, hplain⟩⟩ := hdim.cell_before hc
  · exact hdark (lights_of_paints hbefore ⟨x, y, c', hplace, hc', hsame ▸ hback⟩)
  · rw [hplain] at hback
    cases hback

/-! ## The rows of a page -/

theorem getElem?_rows (hloading : v.table.loading = false) (n i : Nat) :
    (v.rows n)[i]? = (v.table.pageRows[i]?).map fun r =>
      if v.focused = true ∧ i = v.table.selected then v.selectedRow r
      else ⟨v.table.columns.map fun c => v.table.cell c r, {}⟩ := by
  unfold rows
  simp only [hloading, Bool.false_eq_true, if_false, List.getElem?_map, Table.pageCells,
    List.length_map]
  cases hrow : v.table.pageRows[i]? with
  | none =>
    have hlength : v.table.pageRows.length ≤ i := List.getElem?_eq_none_iff.mp hrow
    rw [List.getElem?_eq_none (by simpa using hlength)]
    rfl
  | some r =>
    have hlt : i < v.table.pageRows.length := (List.getElem?_eq_some_iff.mp hrow).1
    have hzip : ((List.range v.table.pageRows.length).zip
        (v.table.pageRows.map fun r => v.table.columns.map fun c => v.table.cell c r))[i]? =
        some (i, v.table.columns.map fun c => v.table.cell c r) := by
      rw [List.getElem?_zip_eq_some]
      exact ⟨List.getElem?_range hlt, by simp [hrow]⟩
    simp only [hzip, Option.map_some, Bool.and_eq_true, beq_iff_eq]
    split <;> rfl

/-- Of all lines only the one that belongs to the selected row is highlighted. -/
theorem lights_iff (hfocused : v.focused = true) (hloading : v.table.loading = false)
    (hempty : v.table.showsEmptyState = false)
    (hselected : v.table.selected < v.table.pageRows.length) (hs : s.Holds a)
    (hdark : ¬ s.Lights a) (hwidth : 2 < a.width) (hroom : i < room a) :
    (v.draw a s).Lights (line a i) ↔ i = v.table.selected := by
  have hline : ¬ s.Lights (line a i) := fun hlights => hdark (lights_of_line hroom hlights)
  have hrows := getElem?_rows hloading a.height i
  cases hr : v.table.pageRows[i]? with
  | none =>
    rw [hr] at hrows
    have hbelow : v.table.pageRows.length ≤ i := List.getElem?_eq_none_iff.mp hr
    have hsame := line_unchanged hempty hs hwidth hroom hrows
    exact iff_of_false (fun hlights => hline (lights_of_paints hsame hlights)) (by omega)
  | some r =>
    rw [hr, Option.map_some] at hrows
    have hshows := shows_row hempty hs hwidth hroom hrows
    by_cases hi : i = v.table.selected
    · rw [if_pos ⟨hfocused, hi⟩] at hshows
      exact iff_of_true (hshows.lights hs hwidth hroom rfl) hi
    · rw [if_neg fun h => hi h.2] at hshows
      exact iff_of_false (hshows.not_lights rfl hline) hi

/-! ## Tables -/

theorem not_lights_blank (width height : Nat) : ¬ (Surface.blank width height).Lights a := by
  rintro ⟨x, y, c, -, hc, hback⟩
  rw [Surface.cell?_blank hc] at hback
  cases hback

variable {columns : List (Column α)} {encode : α → Json}

theorem drawn_pos_iff :
    0 < v.drawn a ↔ 2 < a.width ∧ 0 < v.table.pageRows.length ∧ 0 < room a := by
  unfold drawn
  split <;> omega

/-- What drawing takes of a table that was new once. -/
theorem spec_of_maintained (h : v.table.Maintained columns encode)
    (hrows : 0 < v.table.pageRows.length) (hloading : v.table.loading = false) :
    v.table.showsEmptyState = false ∧
      ∃ r, v.table.pageRows[v.table.selected]? = some r ∧ v.table.selected? = some r := by
  obtain ⟨q, hq⟩ := h.request
  have hlength := hq.length_pageRows
  have hindices := v.table.length_pageIndices
  have hselected : v.table.selected < v.table.pageRows.length := by
    rcases h.placed.selected with hin | ⟨-, hnone⟩ <;> omega
  have hview : v.table.view ≠ [] := by
    intro hnil
    have hnone : v.table.view.length = 0 := by rw [hnil]; rfl
    omega
  refine ⟨?_, v.table.pageRows[v.table.selected], List.getElem?_eq_getElem hselected, ?_⟩
  · simp [Table.showsEmptyState, hview]
  · rw [h.selected?_eq_some_iff]
    exact ⟨hloading, List.getElem?_eq_getElem hselected⟩

theorem keepsInSight_iff_of_maintained (h : v.table.Maintained columns encode) :
    v.KeepsInSight a ↔ (v.focused = true → v.table.loading = false → 0 < v.drawn a →
      v.table.selected < room a) := by
  constructor
  · intro hkeeps hfocused hloading hdrawn
    obtain ⟨hwidth, hrows, -⟩ := drawn_pos_iff.mp hdrawn
    obtain ⟨hempty, r, hr, -⟩ := spec_of_maintained h hrows hloading
    have hselected := (List.getElem?_eq_some_iff.mp hr).1
    have hs : (Surface.blank a.right a.bottom).Holds a :=
      Surface.holds_blank a.right a.bottom (Nat.le_refl _) (Nat.le_refl _)
    have hdark := not_lights_blank (a := a) a.right a.bottom
    obtain ⟨_, i, -, hi, -, honly⟩ := hkeeps hfocused hloading hdrawn _ hs hdark
    have hlit := (honly i hi).mpr rfl
    rw [lights_iff hfocused hloading hempty hselected hs hdark hwidth hi] at hlit
    rwa [← hlit]
  · intro hsees hfocused hloading hdrawn s hs hdark
    have hroom := hsees hfocused hloading hdrawn
    obtain ⟨hwidth, hrows, -⟩ := drawn_pos_iff.mp hdrawn
    obtain ⟨hempty, r, hr, hselects⟩ := spec_of_maintained h hrows hloading
    have hselected := (List.getElem?_eq_some_iff.mp hr).1
    refine ⟨r, v.table.selected, hselects, hroom, ?_, fun j hj =>
      lights_iff hfocused hloading hempty hselected hs hdark hwidth hj⟩
    refine shows_row hempty hs hwidth hroom ?_
    rw [getElem?_rows hloading, hr, Option.map_some, if_pos ⟨hfocused, rfl⟩]

/-- Whatever was done to a table: where rows of it are drawn, the selected one is in sight
    exactly if there is room for all rows up to it. -/
theorem keepsInSight_iff (columns : List (Column α)) (encode : α → Json) (pageSize : Nat)
    (message title : String) (focused : Bool) (inputs : List (TableInput α)) (a : Area) :
    let table : Table α :=
      { Table.new columns encode pageSize with emptyMessage := message }
    let v : TableView α := { table := table.after inputs, title, focused }
    v.KeepsInSight a ↔ (v.focused = true → v.table.loading = false → 0 < v.drawn a →
      v.table.selected < room a) := by
  intro table v
  exact keepsInSight_iff_of_maintained
    (Table.maintained_after columns encode pageSize message inputs)

/-- Two rows of which the second one is selected, in an area with room for one. -/
theorem not_keepsInSight_second :
    let table : Table String :=
      (Table.new [{ label := "Name", accessor := .computed id }] .text 20).after
        [.setRecords ["Basic", "Premium"], .selectNext]
    ¬ KeepsInSight { table, title := "Prices", focused := true } ⟨0, 0, 30, 5⟩ := by
  intro table hkeeps
  have hmaintained := Table.maintained_after [{ label := "Name", accessor := .computed id }]
    Json.text 20 "No data available" [.setRecords ["Basic", "Premium"], .selectNext]
  have hsees := (keepsInSight_iff_of_maintained hmaintained).mp hkeeps rfl rfl
  exact absurd (hsees (by decide)) (by decide)

end TableView

end CatalogDesk
