import CatalogDesk.Proofs.Draw.Painted
import CatalogDesk.Screen.TextField

/-! # Where the cursor of a field is drawn

    The border, the label, what is wrong and the text of a field stay inside its area, however
    small that is (`paints_text`): they are cut off where it ends.  The cursor is not.  It is
    set in the row below the upper border, if it is left of the right border.  An area of one
    row, or of none, has no row below the upper border, so the cursor is set in the row below
    the area; and if the surface ends there, in none.

    Main result: `staysInside_iff`. -/

namespace CatalogDesk

open Draw

namespace TextField

/-- The field insists on no cell that the surface does not have, and changes no cell outside
    its area. -/
structure KeepsTo (f : TextField) (a : Area) (s : Surface) : Prop where
  sound : (f.draw a s).spoilt = s.spoilt
  outside : ∀ {x y}, ¬ a.Has x y → (f.draw a s).cell? x y = s.cell? x y

/-- So it is on all surfaces that have the area. -/
def StaysInside (f : TextField) (a : Area) : Prop := ∀ s : Surface, s.Holds a → f.KeepsTo a s

/-- A cursor is drawn, but the area has no row for it. -/
def CursorBelow (f : TextField) (a : Area) : Prop :=
  f.focused = true ∧ f.cursor < a.width - 2 ∧ a.height ≤ 1

instance (f : TextField) (a : Area) : Decidable (f.CursorBelow a) :=
  inferInstanceAs (Decidable (_ ∧ _ ∧ _))

variable {f : TextField} {a : Area} {s : Surface}

/-! ## The text -/

/-- The border, the titles and the text. -/
def drawText (f : TextField) (a : Area) (s : Surface) : Surface :=
  (Prose.ofText f.display (.colored (if f.value.isEmpty then .darkGray else .white))).draw a.within
    (f.frame.draw a s)

theorem has_of_within {x y : Nat} (h : a.within.Has x y) : a.Has x y := by
  simp only [Area.Has, Area.within, Area.right, Area.bottom] at h ⊢
  omega

/-- Nothing outside the area is changed by these. -/
theorem paints_text (hs : s.Holds a) : (Brush.inside a).Paints s (f.drawText a s) := by
  have hframe : (Brush.inside a).Paints s (f.frame.draw a s) := by
    cases ha : a.isEmpty with
    | true =>
      rw [Frame.draw]
      simp only [hs.inter, ha, if_true]
      exact Brush.paints_refl s
    | false =>
      obtain ⟨hwidth, hheight⟩ := Area.isEmpty_eq_false_iff.mp ha
      refine Brush.paints_frame hs ha rfl (fun hrim _ _ hout => absurd hrim.1 hout) ?_ ?_
      all_goals
        intro style _
        refine Brush.allows_inside (fun x y hxy => ?_) style
        simp only [Area.Has, Frame.titleArea, Area.right, Area.bottom] at hxy ⊢
        omega
  have htext (style : Style) : (Brush.inside a).Allows a.within style :=
    Brush.allows_inside (fun _ _ => has_of_within) style
  exact hframe.trans (Brush.paints_prose rfl rfl (htext _) (fun _ _ style _ => htext style) _)

/-! ## The cursor -/

/-- The cursor is drawn if it is left of the right border. -/
theorem draw_eq (f : TextField) (a : Area) (s : Surface) :
    f.draw a s =
      if f.focused = true ∧ f.cursor < a.width - 2 then
        (f.drawText a s).insist (a.x + 1 + f.cursor) (min (a.y + 1) a.bottom)
          (·.styled ((Style.colored .black).on .white))
      else f.drawText a s := by
  have hplace : (f.focused && decide (0 < a.within.width) &&
      decide (a.within.x + f.cursor < a.within.right)) = true ↔
      f.focused = true ∧ f.cursor < a.width - 2 := by
    rw [Bool.and_eq_true, Bool.and_eq_true, decide_eq_true_iff, decide_eq_true_iff, and_assoc]
    refine and_congr_right fun _ => ?_
    simp only [Area.within, Area.right]
    omega
  have hleft (h : f.cursor < a.width - 2) : a.within.x = a.x + 1 := by
    simp only [Area.within, Area.right]
    omega
  unfold draw
  simp only [hplace]
  split
  · rename_i hdrawn
    rw [hleft hdrawn.2]
    rfl
  · rfl

/-- A cursor that has a row is drawn inside. -/
theorem keepsTo_of_not_below (h : ¬ f.CursorBelow a) (hs : s.Holds a) : f.KeepsTo a s := by
  have htext : (Brush.inside a).Paints s (f.drawText a s) := paints_text hs
  have hdraw : (Brush.inside a).Paints s (f.draw a s) := by
    rw [draw_eq]
    split
    · rename_i hdrawn
      have hheight : 1 < a.height :=
        Nat.lt_of_not_le fun hflat => h ⟨hdrawn.1, hdrawn.2, hflat⟩
      have hplace : a.Has (a.x + 1 + f.cursor) (min (a.y + 1) a.bottom) := by
        have hcursor := hdrawn.2
        simp only [Area.Has, Area.right, Area.bottom]
        omega
      have hcovers : (f.drawText a s).covers (a.x + 1 + f.cursor) (min (a.y + 1) a.bottom) =
          true := by
        obtain ⟨-, hx, -, hy⟩ := hplace
        rw [Surface.covers_iff, htext.width, htext.height]
        exact ⟨Nat.lt_of_lt_of_le hx hs.right, Nat.lt_of_lt_of_le hy hs.bottom⟩
      rw [Surface.insist, if_pos hcovers]
      exact htext.trans (Brush.paints_change (fun c hout => absurd hplace hout) _)
    · exact htext
  exact ⟨hdraw.spoilt, fun hout => hdraw.cell?_eq hout⟩

/-- A cursor that has none is drawn below the area. -/
theorem CursorBelow.cell? (h : f.CursorBelow a) (hs : s.Holds a) (hbottom : a.bottom < s.height) :
    (f.draw a s).cell? (a.x + 1 + f.cursor) a.bottom =
      (s.cell? (a.x + 1 + f.cursor) a.bottom).map
        (·.styled ((Style.colored .black).on .white)) := by
  obtain ⟨hfocused, hcursor, hheight⟩ := h
  have htext : (Brush.inside a).Paints s (f.drawText a s) := paints_text hs
  have hrow : min (a.y + 1) a.bottom = a.bottom := by
    unfold Area.bottom
    omega
  have hright := hs.right
  unfold Area.right at hright
  have hcovers : (f.drawText a s).covers (a.x + 1 + f.cursor) a.bottom = true := by
    rw [Surface.covers_iff, htext.width, htext.height]
    exact ⟨by omega, hbottom⟩
  have hout : ¬ a.Has (a.x + 1 + f.cursor) a.bottom := fun hin => Nat.lt_irrefl _ hin.2.2.2
  rw [draw_eq, if_pos ⟨hfocused, hcursor⟩, hrow, Surface.insist, if_pos hcovers,
    Surface.cell?_change, if_pos ⟨rfl, rfl⟩, htext.cell?_eq hout]

/-- On a surface that ends with the area there is no cell below it. -/
theorem CursorBelow.not_staysInside (h : f.CursorBelow a) : ¬ f.StaysInside a := by
  intro hinside
  obtain ⟨hfocused, hcursor, hheight⟩ := h
  have hs : (Surface.blank a.right a.bottom).Holds a :=
    Surface.holds_blank a.right a.bottom (Nat.le_refl _) (Nat.le_refl _)
  have htext : (Brush.inside a).Paints (Surface.blank a.right a.bottom)
      (f.drawText a (Surface.blank a.right a.bottom)) := paints_text hs
  have hbelow : ¬ (f.drawText a (Surface.blank a.right a.bottom)).covers (a.x + 1 + f.cursor)
      (min (a.y + 1) a.bottom) = true := by
    rw [Surface.covers_iff, htext.width, htext.height]
    simp only [Surface.blank, Area.bottom]
    omega
  have hsound := (hinside _ hs).sound
  rw [draw_eq, if_pos ⟨hfocused, hcursor⟩, Surface.insist, if_neg hbelow] at hsound
  cases hsound

/-- A field stays inside its area unless a cursor is drawn in an area of one row or of none. -/
theorem staysInside_iff (f : TextField) (a : Area) : f.StaysInside a ↔ ¬ f.CursorBelow a :=
  ⟨fun hinside hbelow => hbelow.not_staysInside hinside,
    fun h _ hs => keepsTo_of_not_below h hs⟩

/-- The first field of the sign-in screen on a terminal of one row. -/
theorem not_staysInside_flat :
    ¬ StaysInside { label := "Username", focused := true } ⟨6, 1, 48, 0⟩ := by
  have hbelow : CursorBelow { label := "Username", focused := true } ⟨6, 1, 48, 0⟩ := by decide
  exact hbelow.not_staysInside

end TextField

end CatalogDesk
