import CatalogDesk.Proofs.Builder.Content

/-! # What the builder shows to be going on

    A panel is busy while its form is being saved or published, and a form that selects from
    other records is loading while its options are fetched.  These are the *lights* of a
    panel.

    An action *explains* a change of the lights if it submits the form of a panel that gets
    busy, which then was not busy before, and fetches the options that get loading.  The
    lemmas say that every key, every tab and every record that is opened comes with an action
    that explains it; and that an outcome turns the lights of its panel off. -/

namespace CatalogDesk

/-! ## Lights -/

/-- What a panel shows to be going on. -/
structure Lights where
  busy : Bool
  loading : Bool

def CharacteristicPanel.lights (p : CharacteristicPanel) : Lights := ⟨p.busy, false⟩

def SpecificationPanel.lights (p : SpecificationPanel) : Lights := ⟨p.busy, p.form.loadingOptions⟩

def PricingPanel.lights (p : PricingPanel) : Lights := ⟨p.busy, false⟩

def OfferingPanel.lights (p : OfferingPanel) : Lights := ⟨p.busy.isSome, p.form.loadingOptions⟩

/-- The lights of the panel behind a tab. -/
def Builder.lights (b : Builder) : BuilderTab → Lights
  | .characteristic => b.characteristic.lights
  | .specification => b.specification.lights
  | .pricing => b.pricing.lights
  | .offering => b.offering.lights

/-- The panel whose form the action submits. -/
def BuilderAction.panel? (a : BuilderAction) : Option BuilderTab :=
  a.submission?.map fun s => s.1.panel

/-- The panel for which the action fetches options. -/
def BuilderAction.fetches? : BuilderAction → Option BuilderTab
  | .loadSpecificationOptions => some .specification
  | .loadOfferingOptions => some .offering
  | _ => Option.none

namespace BuilderAction

/-- The action goes with this change of the lights of a panel. -/
structure Explains (a : BuilderAction) (tab : BuilderTab) (l l' : Lights) : Prop where
  busy : l'.busy = (l.busy || a.panel? == some tab)
  /-- A form that is being saved or published is not submitted again. -/
  free : a.panel? = some tab → l.busy = false
  loading : l'.loading = true → l.loading = true ∨ a.fetches? = some tab

variable {a : BuilderAction} {tab : BuilderTab} {l l' l'' : Lights}

/-- Nothing changes but that options may no longer be loading. -/
theorem Explains.quiet (h : a.panel? ≠ some tab) (hbusy : l'.busy = l.busy)
    (hloading : l'.loading = true → l.loading = true) : a.Explains tab l l' where
  busy := by rw [hbusy, beq_false_of_ne h, Bool.or_false]
  free hpanel := absurd hpanel h
  loading hon := .inl (hloading hon)

theorem Explains.same (h : a.panel? ≠ some tab) (hl : l' = l) : a.Explains tab l l' := by
  subst hl
  exact .quiet h rfl id

theorem Explains.submits (h : a.panel? = some tab) (hfree : l.busy = false)
    (hl : l' = { l with busy := true }) : a.Explains tab l l' := by
  subst hl
  refine ⟨?_, fun _ => hfree, fun hon => .inl hon⟩
  rw [h, beq_self_eq_true, Bool.or_true]

theorem Explains.fetches (h : a.panel? ≠ some tab) (hfetches : a.fetches? = some tab)
    (hbusy : l'.busy = l.busy) : a.Explains tab l l' where
  busy := by rw [hbusy, beq_false_of_ne h, Bool.or_false]
  free hpanel := absurd hpanel h
  loading _ := .inr hfetches

/-- A form may be replaced before by one whose options are not loading. -/
theorem Explains.after_quiet (h : a.Explains tab l' l'') (hbusy : l'.busy = l.busy)
    (hloading : l'.loading = true → l.loading = true) : a.Explains tab l l'' where
  busy := by rw [h.busy, hbusy]
  free hpanel := hbusy ▸ h.free hpanel
  loading hon := (h.loading hon).imp_left hloading

end BuilderAction

/-! ## The panels -/

namespace CharacteristicPanel

theorem explains_submit (p : CharacteristicPanel) :
    p.submit.1.Explains .characteristic p.lights p.submit.2.lights := by
  unfold submit
  split
  · exact .same nofun rfl
  · rename_i hfree
    obtain ⟨r, errors, h, -⟩ | ⟨errors, h⟩ := CharacteristicForm.prepare_cases
      { p.form with name := p.name.value, value := p.value.value }
    · dsimp only at h ⊢
      rw [h]
      exact .submits rfl (Bool.eq_false_iff.mpr hfree) rfl
    · dsimp only at h ⊢
      rw [h]
      exact .same nofun rfl

theorem lights_pressField (p : CharacteristicPanel) (k : Key) :
    (p.pressField k).lights = p.lights := by
  unfold pressField
  split
  · rfl
  · rfl
  · split <;> rfl

theorem explains_press (p : CharacteristicPanel) (k : Key) :
    (p.press k).1.Explains .characteristic p.lights (p.press k).2.lights := by
  unfold press
  split
  · exact p.explains_submit
  · split
    · exact .same nofun rfl
    · split
      · exact .same nofun rfl
      · exact .same nofun rfl
      · split
        · exact p.explains_submit
        · exact .same nofun (p.lights_pressField k)
      · exact .same nofun (p.lights_pressField k)

theorem lights_complete (p : CharacteristicPanel) (result : Except Failure Characteristic) :
    (p.complete result).2.lights = ⟨false, false⟩ := by
  unfold complete
  dsimp only
  split <;> rfl

end CharacteristicPanel

namespace SpecificationPanel

theorem explains_submit (p : SpecificationPanel) :
    p.submit.1.Explains .specification p.lights p.submit.2.lights := by
  unfold submit
  split
  · exact .same nofun rfl
  · rename_i hfree
    obtain ⟨r, errors, h, -⟩ | ⟨errors, h⟩ := SpecificationForm.prepare_cases
      { p.form with name := p.name.value }
    · dsimp only at h ⊢
      rw [h]
      exact .submits rfl (Bool.eq_false_iff.mpr hfree) rfl
    · dsimp only at h ⊢
      rw [h]
      exact .same nofun rfl

theorem lights_pressField (p : SpecificationPanel) (k : Key) :
    (p.pressField k).lights = p.lights := by
  unfold pressField
  split
  · rfl
  · split <;> rfl

theorem explains_press (p : SpecificationPanel) (k : Key) :
    (p.press k).1.Explains .specification p.lights (p.press k).2.lights := by
  unfold press
  split
  · exact p.explains_submit
  · split
    · exact .fetches nofun rfl rfl
    · split
      · exact .fetches nofun rfl rfl
      · split
        · exact .same nofun rfl
        · exact .same nofun rfl
        · split
          · exact p.explains_submit
          · exact .same nofun (p.lights_pressField k)
        · exact .same nofun (p.lights_pressField k)

theorem lights_complete (p : SpecificationPanel) (result : Except Failure Specification) :
    (p.complete result).2.lights = ⟨false, p.lights.loading⟩ := by
  cases result with
  | error e => rfl
  | ok s => cases hedit : p.form.mode.isEdit <;>
      simp [complete, SpecificationForm.complete, hedit, lights, showForm]

theorem lights_applyOptions (p : SpecificationPanel)
    (result : Except Failure (List Characteristic)) :
    (p.applyOptions result).2.lights = ⟨p.lights.busy, false⟩ := by
  cases result <;> rfl

end SpecificationPanel

namespace PricingPanel

theorem explains_submit (p : PricingPanel) :
    p.submit.1.Explains .pricing p.lights p.submit.2.lights := by
  unfold submit
  split
  · exact .same nofun rfl
  · rename_i hfree
    obtain ⟨r, errors, h, -⟩ | ⟨errors, h⟩ := PricingForm.prepare_cases
      { p.form with name := p.name.value, value := p.value.value, unit := p.unit.value }
    · dsimp only at h ⊢
      rw [h]
      exact .submits rfl (Bool.eq_false_iff.mpr hfree) rfl
    · dsimp only at h ⊢
      rw [h]
      exact .same nofun rfl

theorem lights_pressField (p : PricingPanel) (k : Key) : (p.pressField k).lights = p.lights := by
  unfold pressField
  split
  · rfl
  · rfl
  · rfl
  · split <;> rfl

theorem explains_press (p : PricingPanel) (k : Key) :
    (p.press k).1.Explains .pricing p.lights (p.press k).2.lights := by
  unfold press
  split
  · exact p.explains_submit
  · split
    · exact .same nofun rfl
    · split
      · exact .same nofun rfl
      · exact .same nofun rfl
      · split
        · exact p.explains_submit
        · exact .same nofun (p.lights_pressField k)
      · exact .same nofun (p.lights_pressField k)

theorem lights_complete (p : PricingPanel) (result : Except Failure Price) :
    (p.complete result).2.lights = ⟨false, false⟩ := by
  unfold complete
  dsimp only
  split <;> rfl

end PricingPanel

namespace OfferingPanel

theorem explains_saveDraft (p : OfferingPanel) :
    p.saveDraft.1.Explains .offering p.lights p.saveDraft.2.lights := by
  unfold saveDraft
  split
  · exact .same nofun rfl
  · rename_i hfree
    obtain ⟨r, errors, h, -⟩ | ⟨errors, h⟩ := OfferingForm.prepareDraft_cases p.typed
    · rw [h]
      exact .submits rfl (Bool.eq_false_iff.mpr hfree) rfl
    · rw [h]
      exact .same nofun rfl

theorem explains_publish (p : OfferingPanel) :
    p.publish.1.Explains .offering p.lights p.publish.2.2.lights := by
  unfold publish
  split
  · exact .same nofun rfl
  · rename_i hfree
    obtain ⟨r, toasts, errors, h, -⟩ | ⟨check, toasts, errors, h, hcheck⟩ :=
      OfferingForm.preparePublish_cases p.typed
    · rw [h]
      exact .submits rfl (Bool.eq_false_iff.mpr hfree) rfl
    · rw [h]
      cases check with
      | ready r => exact absurd rfl (hcheck r)
      | invalid => exact .same nofun rfl
      | refused why => exact .same nofun rfl

theorem lights_pressField (p : OfferingPanel) (k : Key) :
    (p.pressField k).lights = p.lights := by
  unfold pressField
  split
  · rfl
  · rfl
  · split <;> rfl
  · split <;> rfl
  · dsimp only
    split <;> rfl

theorem explains_press (p : OfferingPanel) (k : Key) :
    (p.press k).1.Explains .offering p.lights (p.press k).2.2.lights := by
  unfold press
  dsimp only
  split
  · exact p.explains_saveDraft
  · split
    · exact p.explains_publish
    · split
      · exact .fetches nofun rfl rfl
      · split
        · exact .fetches nofun rfl rfl
        · split
          · exact .same nofun rfl
          · exact .same nofun rfl
          · exact .same nofun (p.lights_pressField k)

/-- A form that is emptied after it was saved is not loading either. -/
theorem lights_completeDraft (p : OfferingPanel) (result : Except Failure Offering) :
    (p.completeDraft result).2.lights.busy = false ∧
      ((p.completeDraft result).2.lights.loading = true → p.lights.loading = true) := by
  cases result with
  | error e => exact ⟨rfl, id⟩
  | ok o =>
    cases hedit : p.form.mode.isEdit <;>
      simp [completeDraft, OfferingForm.completeDraft, hedit, lights, showForm,
        OfferingForm.reset, OfferingForm.new]

theorem lights_completePublish (p : OfferingPanel) (result : Except PublishFailure Offering) :
    (p.completePublish result).2.2.lights.busy = false ∧
      ((p.completePublish result).2.2.lights.loading = true → p.lights.loading = true) := by
  cases result with
  | error e => exact ⟨rfl, id⟩
  | ok o => exact ⟨rfl, nofun⟩

theorem lights_applyOptions (p : OfferingPanel) (result : Except Failure OfferingOptions) :
    (p.applyOptions result).2.lights = ⟨p.lights.busy, false⟩ := by
  cases result <;> rfl

end OfferingPanel

/-! ## The builder -/

namespace Builder

variable {b b' b'' : Builder} {a : BuilderAction}

/-- The action goes with the changes of the lights of all panels. -/
def Explained (a : BuilderAction) (b b' : Builder) : Prop :=
  ∀ tab, a.Explains tab (b.lights tab) (b'.lights tab)

@[simp] theorem lights_refocus (b : Builder) : b.refocus.lights = b.lights := by
  funext tab
  cases tab <;> rfl

section Panels

variable (b : Builder)

theorem lights_characteristic (p : CharacteristicPanel) (other : BuilderTab)
    (h : other ≠ .characteristic) :
    ({ b with characteristic := p } : Builder).lights other = b.lights other := by
  cases other with
  | characteristic => exact absurd rfl h
  | _ => rfl

theorem lights_specification (p : SpecificationPanel) (other : BuilderTab)
    (h : other ≠ .specification) :
    ({ b with specification := p } : Builder).lights other = b.lights other := by
  cases other with
  | specification => exact absurd rfl h
  | _ => rfl

theorem lights_pricing (p : PricingPanel) (other : BuilderTab) (h : other ≠ .pricing) :
    ({ b with pricing := p } : Builder).lights other = b.lights other := by
  cases other with
  | pricing => exact absurd rfl h
  | _ => rfl

theorem lights_offering (p : OfferingPanel) (other : BuilderTab) (h : other ≠ .offering) :
    ({ b with offering := p } : Builder).lights other = b.lights other := by
  cases other with
  | offering => exact absurd rfl h
  | _ => rfl

end Panels

/-- A tab asks for the options of its form when it is shown. -/
theorem explained_showTab (b : Builder) (tab : BuilderTab) :
    Explained (b.showTab tab).1 b (b.showTab tab).2 := by
  intro other
  cases tab with
  | characteristic => exact .same nofun (congrFun (lights_refocus _) other)
  | pricing => exact .same nofun (congrFun (lights_refocus _) other)
  | specification =>
    cases other with
    | specification => exact .fetches nofun rfl rfl
    | _ => exact .same nofun rfl
  | offering =>
    cases other with
    | offering => exact .fetches nofun rfl rfl
    | _ => exact .same nofun rfl

/-- A form that is opened does not wait for options yet. -/
theorem explained_load (h : Explained a b' b'')
    (hbusy : ∀ tab, (b'.lights tab).busy = (b.lights tab).busy)
    (hloading : ∀ tab, (b'.lights tab).loading = true → (b.lights tab).loading = true) :
    Explained a b b'' :=
  fun tab => (h tab).after_quiet (hbusy tab) (hloading tab)

theorem explained_edit {r : CatalogRecord} {p : BuilderAction × Builder}
    (h : b.edit r = .ok p) : Explained p.1 b p.2 := by
  have hshow (b' : Builder) (tab : BuilderTab)
      (hbusy : ∀ t, (b'.lights t).busy = (b.lights t).busy)
      (hloading : ∀ t, (b'.lights t).loading = true → (b.lights t).loading = true) :
      Explained (b'.showTab tab).1 b (b'.showTab tab).2 :=
    explained_load (explained_showTab b' tab) hbusy hloading
  cases r with
  | characteristic c =>
    cases h
    exact hshow _ _ (fun t => by cases t <;> rfl) fun t => by cases t <;> exact id
  | specification s =>
    cases h
    refine hshow _ _ (fun t => by cases t <;> rfl) fun t => ?_
    cases t with
    | specification => exact nofun
    | _ => exact id
  | price x =>
    cases hform : PricingForm.edit x with
    | error why => simp [edit, hform, bind, Except.bind] at h
    | ok form =>
      simp only [edit, hform, bind, Except.bind, pure, Except.pure, Except.ok.injEq] at h
      subst h
      exact hshow _ _ (fun t => by cases t <;> rfl) fun t => by cases t <;> exact id
  | offering o =>
    cases hform : OfferingForm.edit o with
    | error why => simp [edit, hform, bind, Except.bind] at h
    | ok form =>
      have hloading : form.loadingOptions = false := by
        unfold OfferingForm.edit at hform
        split at hform
        · cases hform
          rfl
        · cases hform
      simp only [edit, hform, bind, Except.bind, pure, Except.pure, Except.ok.injEq] at h
      subst h
      refine hshow _ _ (fun t => by cases t <;> rfl) fun t => ?_
      cases t with
      | offering =>
        intro hon
        exact absurd (hloading.symm.trans hon) nofun
      | _ => exact id

/-- A panel submits its own form only. -/
theorem explained_panel (tab : BuilderTab) (h : a.Explains tab (b.lights tab) (b'.lights tab))
    (howner : ∀ other, a.panel? = some other → other = tab)
    (hothers : ∀ other, other ≠ tab → b'.lights other = b.lights other) : Explained a b b' := by
  intro other
  by_cases hother : other = tab
  · subst hother
    exact h
  · exact .same (fun hpanel => hother (howner other hpanel)) (hothers other hother)

theorem panel?_of_submitsOnly {tab : BuilderTab} {mode : FormMode} (h : a.SubmitsOnly tab mode)
    (other : BuilderTab) (hpanel : a.panel? = some other) : other = tab := by
  obtain ⟨s, hs, hother⟩ := Option.map_eq_some_iff.mp hpanel
  exact hother.symm.trans (h s hs).1

theorem explained_pressPanel (b : Builder) (k : Key) :
    Explained (b.pressPanel k).1 b (b.pressPanel k).2.2 := by
  unfold pressPanel
  split
  · exact explained_panel .characteristic (b.characteristic.explains_press k)
      (panel?_of_submitsOnly (b.characteristic.press_spec k).1) (b.lights_characteristic _)
  · exact explained_panel .specification (b.specification.explains_press k)
      (panel?_of_submitsOnly (b.specification.press_spec k).1) (b.lights_specification _)
  · exact explained_panel .pricing (b.pricing.explains_press k)
      (panel?_of_submitsOnly (b.pricing.press_spec k).1) (b.lights_pricing _)
  · exact explained_panel .offering (b.offering.explains_press k)
      (panel?_of_submitsOnly (b.offering.press_spec k).1) (b.lights_offering _)

/-- Whatever a key does to the lights, the action says why. -/
theorem explained_press (b : Builder) (k : Key) : Explained (b.press k).1 b (b.press k).2.2 := by
  unfold press
  split
  · exact b.explained_showTab _
  · intro tab
    simp only [lights_refocus]
    exact b.explained_pressPanel k tab

/-! ### Outcomes -/

theorem bne_some_of_ne {tab other : BuilderTab} (h : other ≠ tab) :
    (some tab != some other) = true :=
  bne_iff_ne.mpr fun hsame => h (Option.some.inj hsame).symm

/-- The panel is no longer busy, and nothing else has changed but that options may no longer
    be loading. -/
structure Frees (b : Builder) (tab : BuilderTab) (b' : Builder) : Prop where
  busy : ∀ other, (b'.lights other).busy = (some tab != some other && (b.lights other).busy)
  loading : ∀ other, (b'.lights other).loading = true → (b.lights other).loading = true

theorem frees_of_panel {tab : BuilderTab} (hbusy : (b'.lights tab).busy = false)
    (hloading : (b'.lights tab).loading = true → (b.lights tab).loading = true)
    (hothers : ∀ other, other ≠ tab → b'.lights other = b.lights other) :
    b.Frees tab b'.refocus := by
  constructor
  · intro other
    rw [lights_refocus]
    by_cases hother : other = tab
    · subst hother
      rw [hbusy, bne_self_eq_false, Bool.false_and]
    · rw [hothers other hother, bne_some_of_ne hother, Bool.true_and]
  · intro other
    rw [lights_refocus]
    by_cases hother : other = tab
    · subst hother
      exact hloading
    · rw [hothers other hother]
      exact id

theorem frees_completeCharacteristic (b : Builder) (result : Except Failure Characteristic) :
    b.Frees .characteristic (b.completeCharacteristic result).2 := by
  have hlights := b.characteristic.lights_complete result
  refine frees_of_panel (congrArg Lights.busy hlights) ?_ (b.lights_characteristic _)
  intro hon
  exact absurd ((congrArg Lights.loading hlights).symm.trans hon) nofun

theorem frees_completeSpecification (b : Builder) (result : Except Failure Specification) :
    b.Frees .specification (b.completeSpecification result).2 := by
  have hlights := b.specification.lights_complete result
  refine frees_of_panel (congrArg Lights.busy hlights) ?_ (b.lights_specification _)
  intro hon
  exact (congrArg Lights.loading hlights).symm.trans hon

theorem frees_completePricing (b : Builder) (result : Except Failure Price) :
    b.Frees .pricing (b.completePricing result).2 := by
  have hlights := b.pricing.lights_complete result
  refine frees_of_panel (congrArg Lights.busy hlights) ?_ (b.lights_pricing _)
  intro hon
  exact absurd ((congrArg Lights.loading hlights).symm.trans hon) nofun

theorem frees_completeDraft (b : Builder) (result : Except Failure Offering) :
    b.Frees .offering (b.completeDraft result).2 :=
  frees_of_panel (b.offering.lights_completeDraft result).1
    (b.offering.lights_completeDraft result).2 (b.lights_offering _)

theorem frees_completePublish (b : Builder) (result : Except PublishFailure Offering) :
    b.Frees .offering (b.completePublish result).2.2 :=
  frees_of_panel (b.offering.lights_completePublish result).1
    (b.offering.lights_completePublish result).2 (b.lights_offering _)

/-- The options of the panel have arrived, and no other light has changed. -/
structure Equips (b : Builder) (tab : BuilderTab) (b' : Builder) : Prop where
  busy : ∀ other, (b'.lights other).busy = (b.lights other).busy
  loading : ∀ other,
    (b'.lights other).loading = (some tab != some other && (b.lights other).loading)

theorem equips_of_panel {tab : BuilderTab} (h : b'.lights tab = ⟨(b.lights tab).busy, false⟩)
    (hothers : ∀ other, other ≠ tab → b'.lights other = b.lights other) : b.Equips tab b' := by
  constructor
  · intro other
    by_cases hother : other = tab
    · subst hother
      rw [h]
    · rw [hothers other hother]
  · intro other
    by_cases hother : other = tab
    · subst hother
      rw [h, bne_self_eq_false, Bool.false_and]
    · rw [hothers other hother, bne_some_of_ne hother, Bool.true_and]

theorem equips_specification (b : Builder) (result : Except Failure (List Characteristic)) :
    b.Equips .specification (b.applySpecificationOptions result).2 :=
  equips_of_panel (b.specification.lights_applyOptions result) (b.lights_specification _)

theorem equips_offering (b : Builder) (result : Except Failure OfferingOptions) :
    b.Equips .offering (b.applyOfferingOptions result).2 :=
  equips_of_panel (b.offering.lights_applyOptions result) (b.lights_offering _)

end Builder

end CatalogDesk
