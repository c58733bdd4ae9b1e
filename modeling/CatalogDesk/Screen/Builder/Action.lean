import CatalogDesk.Draw.Area
import CatalogDesk.Form.CharacteristicForm
import CatalogDesk.Form.OfferingForm
import CatalogDesk.Form.PricingForm
import CatalogDesk.Form.SpecificationForm
import CatalogDesk.Screen.Checklist
import CatalogDesk.Screen.TextField

/-! # What the panels of the builder have in common

    A panel shows one form.  Its fields are numbered from the top; one of them has the
    focus.  Work that takes time leaves the panel as an action, and its outcome comes
    back later. -/

namespace CatalogDesk

open Draw

/-- Work that a panel asks for. -/
inductive BuilderAction
  | none
  | saveCharacteristic (r : SaveRequest CharacteristicDraft)
  | saveSpecification (r : SaveRequest SpecificationDraft)
  | savePricing (r : SaveRequest PriceDraft)
  | saveDraft (r : SaveRequest OfferingDraft)
  | publish (r : SaveRequest OfferingDraft)
  | loadSpecificationOptions
  | loadOfferingOptions
  deriving DecidableEq, Repr

namespace Panel

/-- The field after one of `count` fields, and the first after the last. -/
def nextField (field count : Nat) : Nat := (field + 1) % count

/-- The field before one of `count` fields, and the last before the first. -/
def previousField (field count : Nat) : Nat := (field + count - 1) % count

/-- Does the key go to the next value of a choice? -/
def cycles (k : Key) : Bool :=
  k.code == .char ' ' || k.code == .enter || k.code == .left || k.code == .right

/-- The title of a form: what is done to what, and what is going on. -/
def title (entity : String) (mode : FormMode) (busy : Option String) : String :=
  " " ++ (if mode.isEdit then "Edit " else "New ") ++ entity ++
    (match busy with
      | some status => " · " ++ status
      | none => "") ++ " "

/-- The frame of a form. -/
def frame (entity : String) (mode : FormMode) (busy : Option String) : Frame where
  title := Line.ofText (title entity mode busy)
  border := Palette.borderStyle true

/-- Draws one value of several between arrows. -/
def drawChoice (label value : String) (focused : Bool) : Drawing :=
  let style :=
    if focused then (Style.colored Palette.accent).bold else .colored Palette.text
  Prose.draw
    { lines :=
        [{ spans := [⟨"‹ ", Palette.mutedStyle⟩, ⟨value, style⟩, ⟨" ›", Palette.mutedStyle⟩] }]
      frame := some
        { title := Line.ofText (" " ++ label ++ " "), border := Palette.borderStyle focused } }

end Panel

end CatalogDesk
