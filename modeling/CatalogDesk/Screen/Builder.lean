import CatalogDesk.Catalog.Record
import CatalogDesk.Screen.Builder.Characteristic
import CatalogDesk.Screen.Builder.Offering
import CatalogDesk.Screen.Builder.Pricing
import CatalogDesk.Screen.Builder.Specification
import CatalogDesk.Screen.Bars

/-! # The builder

    Four panels behind tabs, one for each kind of record.  A panel keeps its form while
    another one is shown.  The tabs whose forms select from other records ask for their
    options whenever they are shown. -/

namespace CatalogDesk

open Draw

/-- The panels of the builder. -/
inductive BuilderTab
  | characteristic
  | specification
  | pricing
  | offering
  deriving DecidableEq, Repr

namespace BuilderTab

/-- The tabs from left to right. -/
def all : List BuilderTab := [.characteristic, .specification, .pricing, .offering]

def title : BuilderTab → String
  | .characteristic => "Characteristic"
  | .specification => "Specification"
  | .pricing => "Pricing"
  | .offering => "Offering"

end BuilderTab

/-- The builder. -/
structure Builder where
  tab : BuilderTab := .characteristic
  characteristic : CharacteristicPanel := {}
  specification : SpecificationPanel := {}
  pricing : PricingPanel := .new
  offering : OfferingPanel := {}
  deriving DecidableEq, Repr

namespace Builder

/-- Gives the focus to the panel that is shown, and to no other. -/
def refocus (b : Builder) : Builder :=
  { b with
    characteristic := b.characteristic.setFocused (b.tab == .characteristic)
    specification := b.specification.setFocused (b.tab == .specification)
    pricing := b.pricing.setFocused (b.tab == .pricing)
    offering := b.offering.setFocused (b.tab == .offering) }

/-- The builder with four empty forms. -/
def new : Builder := refocus {}

/-- Shows a tab. -/
def showTab (b : Builder) (tab : BuilderTab) : BuilderAction × Builder :=
  let b := { b with tab }.refocus
  match tab with
  | .specification =>
    let (action, specification) := b.specification.reloadOptions
    (action, { b with specification })
  | .offering =>
    let (action, offering) := b.offering.reloadOptions
    (action, { b with offering })
  | _ => (.none, b)

/-- Opens a record in its form; some records cannot be changed. -/
def edit (b : Builder) : CatalogRecord → Except Refusal (BuilderAction × Builder)
  | .characteristic c =>
    .ok ({ b with characteristic := b.characteristic.load (.edit c) }.showTab .characteristic)
  | .specification s =>
    .ok ({ b with specification := b.specification.load (.edit s) }.showTab .specification)
  | .price p => do
    let form ← PricingForm.edit p
    return { b with pricing := b.pricing.load form }.showTab .pricing
  | .offering o => do
    let form ← OfferingForm.edit o
    return { b with offering := b.offering.load form }.showTab .offering

/-- What a key does to the panel that is shown. -/
def pressPanel (b : Builder) (k : Key) : BuilderAction × List Toast × Builder :=
  match b.tab with
  | .characteristic =>
    let (action, characteristic) := b.characteristic.press k
    (action, [], { b with characteristic })
  | .specification =>
    let (action, specification) := b.specification.press k
    (action, [], { b with specification })
  | .pricing =>
    let (action, pricing) := b.pricing.press k
    (action, [], { b with pricing })
  | .offering =>
    let (action, toasts, offering) := b.offering.press k
    (action, toasts, { b with offering })

/-- The tab that a key with alt held down leads to. -/
def tabOf? (k : Key) : Option BuilderTab :=
  if k.alt then (k.digit? 4).bind fun i => BuilderTab.all[i]? else none

/-- What a key does, and the notices that it brings up. -/
def press (b : Builder) (k : Key) : BuilderAction × List Toast × Builder :=
  match tabOf? k with
  | some tab =>
    let (action, b) := b.showTab tab
    (action, [], b)
  | none =>
    let (action, toasts, b) := b.pressPanel k
    (action, toasts, b.refocus)

/-! ## Outcomes -/

/-- Takes the outcome of saving a characteristic. -/
def completeCharacteristic (b : Builder) (result : Except Failure Characteristic) :
    Toast × Builder :=
  let (toast, characteristic) := b.characteristic.complete result
  (toast, { b with characteristic }.refocus)

/-- Takes the outcome of saving a specification. -/
def completeSpecification (b : Builder) (result : Except Failure Specification) :
    Toast × Builder :=
  let (toast, specification) := b.specification.complete result
  (toast, { b with specification }.refocus)

/-- Takes the outcome of saving a pricing plan. -/
def completePricing (b : Builder) (result : Except Failure Price) : Toast × Builder :=
  let (toast, pricing) := b.pricing.complete result
  (toast, { b with pricing }.refocus)

/-- Takes the outcome of saving an offering as a draft. -/
def completeDraft (b : Builder) (result : Except Failure Offering) : Toast × Builder :=
  let (toast, offering) := b.offering.completeDraft result
  (toast, { b with offering }.refocus)

/-- Takes the outcome of publishing an offering; one that was accepted is to be
    watched. -/
def completePublish (b : Builder) (result : Except PublishFailure Offering) :
    PublishOutcome × Toast × Builder :=
  let (outcome, toast, offering) := b.offering.completePublish result
  (outcome, toast, { b with offering }.refocus)

/-- Takes the options of the specification form. -/
def applySpecificationOptions (b : Builder) (result : Except Failure (List Characteristic)) :
    List Toast × Builder :=
  let (toasts, specification) := b.specification.applyOptions result
  (toasts, { b with specification })

/-- Takes the options of the offering form. -/
def applyOfferingOptions (b : Builder) (result : Except Failure OfferingOptions) :
    List Toast × Builder :=
  let (toasts, offering) := b.offering.applyOptions result
  (toasts, { b with offering })

/-! ## Drawing -/

/-- The keys that do something. -/
def hints (b : Builder) : KeyHints :=
  match b.tab with
  | .offering =>
    [("Alt+1-4", "form"), ("Tab", "field"), ("Space", "toggle"), ("^S", "save draft"),
      ("^P", "publish"), ("^R", "reload"), ("^N", "new")]
  | .specification =>
    [("Alt+1-4", "form"), ("Tab", "field"), ("Space", "toggle"), ("^S", "save"),
      ("^R", "reload"), ("^N", "new")]
  | _ =>
    [("Alt+1-4", "form"), ("Tab", "field"), ("←→", "cycle"), ("^S", "save"), ("^N", "new")]

/-- Draws the builder. -/
def draw (b : Builder) : Drawing := fun a s =>
  let part := a.downward [.exactly 1, .growing 1]
  let chosen := BuilderTab.all.findIdx (· == b.tab)
  let s := (tabRow (BuilderTab.all.map (·.title)) chosen).draw (part 0) s
  match b.tab with
  | .characteristic => b.characteristic.draw (part 1) s
  | .specification => b.specification.draw (part 1) s
  | .pricing => b.pricing.draw (part 1) s
  | .offering => b.offering.draw (part 1) s

end Builder

end CatalogDesk
