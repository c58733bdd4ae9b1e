import CatalogDesk.Draw.Grid
import CatalogDesk.Draw.Prose
import CatalogDesk.Proofs.Draw.Brush

/-! # What is painted

    For each kind of thing that can be drawn there is one lemma which says that it paints with
    every brush that allows its styles in its area: `paints_line`, `paints_prose`,
    `paints_frame`, `paints_drawRow`.  Each follows the recursion by which it is drawn, so what
    it needs is that texts are cut off where the area ends. -/

namespace CatalogDesk.Draw

namespace Brush

variable {B : Brush} {s : Surface} {a : Area} {style : Style} {x y : Nat}

/-! ## Spans -/

/-- A glyph without columns joins the cell before it, which is in the area because the glyph is
    not the first one. -/
theorem paints_sign (h : B.Allows a style) (ha : a.isEmpty = false) {first : Bool} {w : Nat}
    (hx : a.x ≤ x) (hfits : x + w ≤ a.right) (hfirst : first = true → x = a.x) (g : String)
    (s : Surface) : B.Paints s
      (if first then s.set x a.y g style
        else if x == a.x then s.append x a.y g style
        else if w == 0 then s.append (x - 1) a.y g style
        else s.set x a.y g style) := by
  obtain ⟨hwidth, hheight⟩ := Area.isEmpty_eq_false_iff.mp ha
  have hstop : a.x < a.right := Nat.lt_add_of_pos_right hwidth
  have hrow : a.y ≤ a.y ∧ a.y < a.bottom :=
    ⟨Nat.le_refl a.y, Nat.lt_add_of_pos_right hheight⟩
  split
  · rename_i hf
    rw [hfirst hf]
    exact paints_set h ⟨Nat.le_refl a.x, hstop, hrow⟩ g s
  · split
    · rename_i hleft
      rw [eq_of_beq hleft]
      exact paints_append h ⟨Nat.le_refl a.x, hstop, hrow⟩ g s
    · rename_i hleft
      rw [beq_iff_eq] at hleft
      split
      · exact paints_append h ⟨by omega, by omega, hrow⟩ g s
      · rename_i hw
        rw [beq_iff_eq] at hw
        exact paints_set h ⟨hx, by omega, hrow⟩ g s

/-- The glyphs of a text begin at the left of the area. -/
theorem paints_drawGlyphs (h : B.Allows a style) (ha : a.isEmpty = false) {first : Bool}
    (hx : a.x ≤ x) (hfirst : first = true → x = a.x) (gs : List (String × Nat)) (s : Surface) :
    B.Paints s (drawGlyphs a.x a.right a.y style x first gs s) := by
  have hrow : a.y ≤ a.y ∧ a.y < a.bottom :=
    ⟨Nat.le_refl a.y, Nat.lt_add_of_pos_right (Area.isEmpty_eq_false_iff.mp ha).2⟩
  induction gs generalizing x first s with
  | nil => exact paints_refl s
  | cons glyph rest ih =>
    obtain ⟨g, w⟩ := glyph
    unfold drawGlyphs
    split
    · exact paints_refl s
    · rename_i hfits
      have hclear (s : Surface) : B.Paints s (s.clearRun (x + 1) a.y (w - 1)) := by
        rcases Nat.eq_zero_or_pos (w - 1) with hnone | hsome
        · rw [hnone]
          exact paints_refl s
        · exact paints_clearRun h hrow (by omega) (by omega) s
      have hnext : false = true → x + w = a.x := fun hf => absurd hf Bool.false_ne_true
      exact ((paints_sign h ha hx (Nat.not_lt.mp hfits) hfirst g s).trans (hclear _)).trans
        (ih (by omega) hnext _)

theorem paints_span {span : Span} (h : B.Allows a span.style) (s : Surface) :
    B.Paints s (span.draw a s) := by
  unfold Span.draw
  dsimp only
  split
  · exact paints_refl s
  · rename_i hempty
    exact paints_drawGlyphs (h.inter s.area) (Bool.eq_false_iff.mpr hempty)
      (Nat.le_refl _) (fun _ => rfl) _ s

theorem paints_drawSpans {spans : List Span} (h : ∀ span ∈ spans, B.Allows a span.style)
    (s : Surface) : B.Paints s (drawSpans a spans s) := by
  induction spans generalizing a s with
  | nil => exact paints_refl s
  | cons span rest ih =>
    unfold drawSpans
    split
    · exact paints_refl s
    · exact (paints_span (h span List.mem_cons_self) s).trans
        (ih (fun other hother => (h other (List.mem_cons_of_mem span hother)).indent _) _)

theorem paints_drawSpansFrom (skip : Nat) {spans : List Span}
    (h : ∀ span ∈ spans, B.Allows a span.style) (s : Surface) :
    B.Paints s (drawSpansFrom skip a spans s) := by
  induction spans generalizing skip s with
  | nil => exact paints_refl s
  | cons span rest ih =>
    have hrest : ∀ other ∈ rest, B.Allows a other.style :=
      fun other hother => h other (List.mem_cons_of_mem span hother)
    unfold drawSpansFrom
    dsimp only
    split
    · exact paints_drawSpans h s
    · split
      · exact ih _ hrest s
      · refine paints_drawSpans (fun other hother => ?_) s
        rcases List.mem_cons.mp hother with rfl | hother
        · exact (h span List.mem_cons_self).indent _
        · exact (hrest other hother).indent _

end Brush

/-! ## Lines -/

/-- The styles in which a line is drawn. -/
def Line.styles (l : Line) : List Style := l.style :: l.spans.map (·.style)

/-- The lines of a plain text have no style. -/
theorem Line.styles_ofTextLines {text : String} {l : Line} (hl : l ∈ ofTextLines text)
    {style : Style} (hstyle : style ∈ l.styles) : style = {} := by
  have hplain : l.style = {} ∧ ∀ span ∈ l.spans, span.style = {} := by
    unfold ofTextLines at hl
    split at hl
    · rw [List.mem_singleton] at hl
      obtain rfl := hl
      exact ⟨rfl, List.forall_mem_nil _⟩
    · obtain ⟨t, -, rfl⟩ := List.mem_map.mp hl
      refine ⟨rfl, fun span hspan => ?_⟩
      obtain ⟨t', -, rfl⟩ := List.mem_map.mp hspan
      rfl
  rcases List.mem_cons.mp hstyle with rfl | hspan
  · exact hplain.1
  · obtain ⟨span, hmem, rfl⟩ := List.mem_map.mp hspan
    exact hplain.2 span hmem

namespace Brush

variable {B : Brush} {s : Surface} {a : Area} {style : Style} {l : Line} {x y : Nat}

theorem paints_line (h : ∀ style ∈ l.styles, B.Allows a style) (s : Surface) :
    B.Paints s (l.draw a s) := by
  have hline : B.Allows a l.style := h l.style List.mem_cons_self
  have hspans (n : Nat) : ∀ span ∈ l.spans,
      B.Allows (((a.inter s.area).row 0).indent n) span.style := by
    intro span hspan
    have hstyle : span.style ∈ l.styles := List.mem_cons_of_mem _ (List.mem_map_of_mem hspan)
    exact (((h span.style hstyle).inter s.area).row 0).indent n
  unfold Line.draw Line.drawPlaced
  dsimp only
  split
  · exact paints_refl s
  · refine (paints_wash ((hline.inter s.area).row 0) s).trans ?_
    split
    · exact paints_drawSpansFrom 0 (hspans 0) _
    · exact paints_drawSpansFrom _ (hspans _) _
    · exact paints_drawSpansFrom _ (hspans _) _

/-! ## Prose -/

theorem Allows.overlay {below above : Style} (h : B.Allows a below) (h' : B.Allows a above) :
    B.Allows a (below.overlay above) where
  sign hxy c sign := by
    rw [← Cell.styled_styled]
    exact B.trans (h.sign hxy c sign) (h'.sign hxy _ _)
  empty := h.empty

end Brush

theorem Style.plain_overlay (style : Style) : ({} : Style).overlay style = style := by
  simp [Style.overlay, Marks.union]

/-- What is left of a line fits into its columns. -/
theorem columnsOf_cutOff (limit : Nat) (gs : List Glyph) {used : Nat} (h : used ≤ limit) :
    used + columnsOf (cutOff limit used gs) ≤ limit := by
  induction gs generalizing used with
  | nil => exact h
  | cons g rest ih =>
    unfold cutOff
    split
    · exact ih h
    · split
      · exact h
      · rename_i hfits
        have hrest := ih (Nat.not_lt.mp hfits)
        have hsum (gs : List Glyph) : columnsOf (g :: gs) = g.width + columnsOf gs := rfl
        rw [hsum]
        omega

theorem mem_of_mem_cutOff {limit used : Nat} {gs : List Glyph} {g : Glyph}
    (h : g ∈ cutOff limit used gs) : g ∈ gs := by
  induction gs generalizing used with
  | nil => exact h
  | cons g' rest ih =>
    unfold cutOff at h
    split at h
    · exact List.mem_cons_of_mem g' (ih h)
    · split at h
      · cases h
      · rcases List.mem_cons.mp h with rfl | h
        · exact List.mem_cons_self
        · exact List.mem_cons_of_mem g' (ih h)

theorem Prose.offset_add_le {columns rowColumns : Nat} (h : rowColumns ≤ columns)
    (place : Placement) : offset columns rowColumns place + rowColumns ≤ columns := by
  cases place <;> simp only [offset] <;> omega

namespace Brush

variable {B : Brush} {a : Area} {x y : Nat}

theorem paints_glyphs {gs : List Glyph} (h : ∀ g ∈ gs, B.Allows a g.style)
    (hy : a.y ≤ y ∧ y < a.bottom) (hx : a.x ≤ x) (hstop : x + columnsOf gs ≤ a.right)
    (s : Surface) : B.Paints s (Prose.drawRow x y gs s) := by
  induction gs generalizing x s with
  | nil => exact paints_refl s
  | cons g rest ih =>
    have hsum : columnsOf (g :: rest) = g.width + columnsOf rest := rfl
    have hrest : ∀ g' ∈ rest, B.Allows a g'.style :=
      fun g' hg' => h g' (List.mem_cons_of_mem g hg')
    unfold Prose.drawRow
    split
    · exact ih hrest hx (by omega) s
    · rename_i hwidth
      rw [beq_iff_eq] at hwidth
      exact (paints_set (h g List.mem_cons_self) ⟨hx, by omega, hy⟩ g.sign s).trans
        (ih hrest (by omega) (by omega) _)

/-- Lines that are not wrapped, without a frame. -/
theorem paints_prose {p : Prose} (hframe : p.frame = none) (hcut : p.overflow = .cut)
    (hstyle : B.Allows a p.style) (hlines : ∀ l ∈ p.lines, ∀ style ∈ l.styles, B.Allows a style)
    (s : Surface) : B.Paints s (p.draw a s) := by
  have hwash := hstyle.inter s.area
  unfold Prose.draw
  simp only [hframe, Option.isSome_none, Bool.false_eq_true, if_false]
  split
  · exact paints_wash hwash s
  · refine ((paints_wash hwash s).trans (paints_wash hwash _)).trans ?_
    refine Paints.foldl _ _ fun row hrow s' => ?_
    obtain ⟨⟨gs, place⟩, dy⟩ := row
    obtain ⟨hmem, hdy⟩ := List.of_mem_zip hrow
    rw [List.mem_range, List.length_take] at hdy
    obtain ⟨l, hl, hgs⟩ := List.mem_flatMap.mp (List.mem_of_mem_take hmem)
    simp only [hcut, List.mem_singleton, Prod.mk.injEq] at hgs
    obtain ⟨rfl, -⟩ := hgs
    have hfits := columnsOf_cutOff (a.inter s.area).width (l.glyphs {})
      (Nat.zero_le (a.inter s.area).width)
    have hplace := Prose.offset_add_le (Nat.zero_add _ ▸ hfits) place
    dsimp only
    refine paints_glyphs (a := a.inter s.area) (fun g hg => ?_) ⟨by omega, ?_⟩ (by omega) ?_ s'
    · obtain ⟨span, hspan, hg⟩ := List.mem_flatMap.mp (mem_of_mem_cutOff hg)
      obtain ⟨piece, -, rfl⟩ := List.mem_map.mp hg
      have hline : B.Allows a l.style := hlines l hl l.style List.mem_cons_self
      have hspan : B.Allows a span.style :=
        hlines l hl span.style (List.mem_cons_of_mem _ (List.mem_map_of_mem hspan))
      rw [Style.plain_overlay]
      exact (hline.overlay hspan).inter s.area
    · unfold Area.bottom
      omega
    · unfold Area.right
      omega

end Brush

/-! ## Frames -/

/-- The places of the border. -/
def Area.Rim (a : Area) (x y : Nat) : Prop :=
  a.Has x y ∧ (x = a.x ∨ x + 1 = a.right ∨ y = a.y ∨ y + 1 = a.bottom)

/-- The styles of the titles below. -/
def Frame.footStyles (f : Frame) : List Style :=
  (f.footLeft.toList ++ f.footRight.toList).flatMap Line.styles

namespace Brush

variable {B : Brush} {s : Surface} {a : Area} {f : Frame} {l : Line}

theorem paints_drawBorder (ha : a.isEmpty = false)
    (h : ∀ {x y}, a.Rim x y → ∀ c sign, B.may x y c ({ c with sign }.styled f.border))
    (s : Surface) : B.Paints s (f.drawBorder a s) := by
  obtain ⟨hwidth, hheight⟩ := Area.isEmpty_eq_false_iff.mp ha
  have hside {x y : Nat} (hx : x = a.x ∨ x = a.right - 1) (hy : a.y ≤ y ∧ y < a.bottom)
      (sign : String) (s : Surface) : B.Paints s (s.set x y sign f.border) := by
    refine paints_change (fun c => h ⟨⟨?_, ?_, hy⟩, ?_⟩ c sign) s
    all_goals
      unfold Area.right at *
      omega
  have hrow {x y : Nat} (hx : a.x ≤ x ∧ x < a.right) (hy : y = a.y ∨ y = a.bottom - 1)
      (sign : String) (s : Surface) : B.Paints s (s.set x y sign f.border) := by
    refine paints_change (fun c => h ⟨⟨hx.1, hx.2, ?_, ?_⟩, ?_⟩ c sign) s
    all_goals
      unfold Area.bottom at *
      omega
  have hsides (s : Surface) : B.Paints s ((List.range a.height).foldl (fun s dy =>
      (s.set a.x (a.y + dy) "│" f.border).set (a.right - 1) (a.y + dy) "│" f.border) s) := by
    refine Paints.foldl _ s fun dy hdy s' => ?_
    have hy : a.y ≤ a.y + dy ∧ a.y + dy < a.bottom :=
      ⟨Nat.le_add_right a.y dy, Nat.add_lt_add_left (List.mem_range.mp hdy) a.y⟩
    exact (hside (.inl rfl) hy _ s').trans (hside (.inr rfl) hy _ _)
  have hrows (s : Surface) : B.Paints s ((List.range a.width).foldl (fun s dx =>
      (s.set (a.x + dx) a.y "─" f.border).set (a.x + dx) (a.bottom - 1) "─" f.border) s) := by
    refine Paints.foldl _ s fun dx hdx s' => ?_
    have hx : a.x ≤ a.x + dx ∧ a.x + dx < a.right :=
      ⟨Nat.le_add_right a.x dx, Nat.add_lt_add_left (List.mem_range.mp hdx) a.x⟩
    exact (hrow hx (.inl rfl) _ s').trans (hrow hx (.inr rfl) _ _)
  have htop : a.y ≤ a.y ∧ a.y < a.bottom := ⟨Nat.le_refl a.y, Nat.lt_add_of_pos_right hheight⟩
  have hbottom : a.y ≤ a.bottom - 1 ∧ a.bottom - 1 < a.bottom := by
    unfold Area.bottom
    omega
  exact (((((hsides s).trans (hrows _)).trans (hside (.inr rfl) hbottom _ _)).trans
    (hside (.inr rfl) htop _ _)).trans (hside (.inl rfl) hbottom _ _)).trans
    (hside (.inl rfl) htop _ _)

theorem paints_drawLeft (h : ∀ style ∈ l.styles, B.Allows a style) (s : Surface) :
    B.Paints s (Frame.drawLeft l a s) := by
  unfold Frame.drawLeft
  split
  · exact paints_refl s
  · refine paints_line (fun style hstyle => ?_) s
    refine (h style hstyle).mono (Nat.le_refl a.x) fun hxy => ?_
    simp only [Area.Has, Area.right, Area.bottom] at hxy ⊢
    omega

theorem paints_drawRight (h : ∀ style ∈ l.styles, B.Allows a style) (s : Surface) :
    B.Paints s (Frame.drawRight l a s) := by
  unfold Frame.drawRight
  split
  · exact paints_refl s
  · refine paints_line (fun style hstyle => ?_) s
    refine (h style hstyle).mono ?_ fun hxy => ?_
    · simp only [Area.right]
      omega
    · simp only [Area.Has, Area.right, Area.bottom] at hxy ⊢
      omega

/-- A frame that lays no style over its area. -/
theorem paints_frame (hs : s.Holds a) (ha : a.isEmpty = false) (hstyle : f.style = {})
    (hborder : ∀ {x y}, a.Rim x y → ∀ c sign, B.may x y c ({ c with sign }.styled f.border))
    (htitle : ∀ style ∈ f.title.styles, B.Allows (Frame.titleArea a a.y) style)
    (hfoot : ∀ style ∈ f.footStyles, B.Allows (Frame.titleArea a (a.bottom - 1)) style) :
    B.Paints s (f.draw a s) := by
  have hwash : s.wash a {} = s := rfl
  have hleft {l : Line} (hl : f.footLeft = some l) (s : Surface) :
      B.Paints s (Frame.drawLeft l (Frame.titleArea a (a.bottom - 1)) s) := by
    refine paints_drawLeft (fun style hmem => hfoot style ?_) s
    simp [Frame.footStyles, hl, hmem]
  have hright {l : Line} (hl : f.footRight = some l) (s : Surface) :
      B.Paints s (Frame.drawRight l (Frame.titleArea a (a.bottom - 1)) s) := by
    refine paints_drawRight (fun style hmem => hfoot style ?_) s
    simp [Frame.footStyles, hl, hmem]
  have htop := (paints_drawBorder ha hborder s).trans (paints_drawLeft htitle _)
  unfold Frame.draw
  simp only [hs.inter, hstyle, hwash, ha, Bool.false_eq_true, if_false]
  cases hl : f.footLeft with
  | none =>
    cases hr : f.footRight with
    | none => exact htop
    | some r => exact htop.trans (hright hr _)
  | some l =>
    cases hr : f.footRight with
    | none => exact htop.trans (hleft hl _)
    | some r => exact (htop.trans (hleft hl _)).trans (hright hr _)

/-! ## Rows of cells -/

theorem paints_drawCell (h : B.Allows a {}) (text : String) (s : Surface) :
    B.Paints s (Grid.drawCell text a s) := by
  unfold Grid.drawCell
  split
  · exact paints_refl s
  · rename_i l rest hlines
    refine paints_line (fun style hstyle => ?_) s
    have hl : l ∈ Line.ofTextLines text := hlines ▸ List.mem_cons_self
    rw [Line.styles_ofTextLines hl hstyle]
    exact h

theorem paints_cells (hcells : ∀ x width, B.Allows { a with x := a.x + x, width } {})
    (texts : List (String × Nat × Nat)) (s : Surface) :
    B.Paints s (texts.foldl (fun s (text, x, width) =>
      Grid.drawCell text { a with x := a.x + x, width } s) s) :=
  Paints.foldl _ s fun cell _ s' => paints_drawCell (hcells _ _) cell.1 s'

theorem paints_drawRow {row : GridRow} (hrow : B.Allows (a.row 0) row.style)
    (hcells : ∀ x width, B.Allows { a.row 0 with x := a.x + x, width } {})
    (columns : List (Nat × Nat)) (s : Surface) : B.Paints s (Grid.drawRow row columns a s) :=
  (paints_wash hrow s).trans (paints_cells hcells _ _)

/-- The texts of a row do not change the color behind its first cell, nor bring in another
    one. -/
theorem dims_cells (texts : List (String × Nat × Nat)) (s : Surface) :
    (dimming a.x).Paints s (texts.foldl (fun s (text, x, width) =>
      Grid.drawCell text { a with x := a.x + x, width } s) s) :=
  paints_cells (fun x _ => allows_dimming (Nat.le_add_right a.x x) rfl) texts s

end Brush

end CatalogDesk.Draw
