import CatalogDesk.Proofs.Builder.Ownership

/-! # What a failure leaves of a form

    While a submission is in flight its panel still takes keys.  When it fails, the panels of
    characteristics and pricing plans leave their fields alone; the other two show their form
    anew, and with it the texts as they were when the form was checked.

    A ledger notes these texts: those that a panel showed when its form was last opened, emptied,
    checked or told of an outcome.  Main result: `keeps_iff_untouched` says that a run keeps what
    its users have entered, at every failure, if and only if every failure that makes a panel
    show its form anew finds its texts as they were noted. -/

namespace CatalogDesk

/-! ## Texts -/

namespace FormContent

/-- The texts in the fields. -/
def texts : FormContent → List String
  | characteristic name value _ _ => [name, value]
  | specification name _ _ => [name]
  | pricing name value unit _ _ => [name, value, unit]
  | offering name description _ _ _ _ => [name, description]

theorem withMode_inj {c d : FormContent} (hmode : c.mode = d.mode) (m : FormMode) :
    c.withMode m = d.withMode m ↔ c = d := by
  constructor
  · intro h
    have hback : (c.withMode m).withMode c.mode = (d.withMode m).withMode d.mode := by
      rw [h, hmode]
    cases c <;> cases d <;> exact hback
  · rintro rfl
    rfl

end FormContent

/-- What is typed lies in the fields alone; all else the form holds itself. -/
theorem Builder.content_eq_held_iff (b : Builder) (tab : BuilderTab) :
    b.content tab = b.held tab ↔ (b.content tab).texts = (b.held tab).texts := by
  cases tab <;>
    simp [content, held, FormContent.texts, CharacteristicPanel.content, CharacteristicPanel.held,
      SpecificationPanel.content, SpecificationPanel.held, PricingPanel.content, PricingPanel.held,
      OfferingPanel.content, OfferingPanel.held]

/-- The panels that show their form anew after every outcome. -/
def BuilderTab.rereads : BuilderTab → Bool
  | .specification => true
  | .offering => true
  | _ => false

/-! ## Failures -/

namespace FormOutcome

def fails : FormOutcome → Bool
  | characteristic (.error _) => true
  | specification (.error _) => true
  | pricing (.error _) => true
  | draft (.error _) => true
  | publish (.error _) => true
  | _ => false

/-- What a failure should leave of a content: all of it, but a record that was saved before is
    changed from then on. -/
def leaves (o : FormOutcome) (c : FormContent) : FormContent :=
  match o.saved? with
  | some id => c.withMode (.edit id)
  | none => c

theorem shows_eq_leaves_iff {typed held : FormContent} (hmode : held.mode = typed.mode)
    {o : FormOutcome} (hfails : o.fails = true) :
    o.shows typed held = o.leaves typed ↔ (o.kind.panel.rereads = true → typed = held) := by
  cases o with
  | characteristic r => cases r with
    | ok c => cases hfails
    | error e => exact iff_of_true rfl nofun
  | specification r => cases r with
    | ok s => cases hfails
    | error e => exact ⟨fun h _ => h.symm, fun h => (h rfl).symm⟩
  | pricing r => cases r with
    | ok p => cases hfails
    | error e => exact iff_of_true rfl nofun
  | draft r => cases r with
    | ok o => cases hfails
    | error e => exact ⟨fun h _ => h.symm, fun h => (h rfl).symm⟩
  | publish r => cases r with
    | ok o => cases hfails
    | error e =>
      obtain ⟨saved, failure⟩ := e
      cases saved with
      | none => exact ⟨fun h _ => h.symm, fun h => (h rfl).symm⟩
      | some o =>
        have hinj := FormContent.withMode_inj hmode (.edit o.id)
        exact ⟨fun h _ => (hinj.mp h).symm, fun h => hinj.mpr (h rfl).symm⟩

end FormOutcome

/-! ## Panels -/

theorem Key.ne_enter_of_isControl {k : Key} {c : Char} (h : k.isControl c = true) :
    (k.code == .enter) = false := by
  simp only [isControl, Bool.and_eq_true, beq_iff_eq] at h
  rw [h.2]
  rfl

namespace SpecificationPanel

/-- Does the key have the form checked? -/
def checks (p : SpecificationPanel) (k : Key) : Bool :=
  !p.busy && (k.isControl 's' || k.code == .enter && p.field == 0)

theorem held_submit (p : SpecificationPanel) :
    p.submit.2.held.texts = if p.busy then p.held.texts else p.submit.2.content.texts := by
  unfold submit
  cases p.busy with
  | true => rfl
  | false =>
    obtain ⟨r, errors, h, -⟩ | ⟨errors, h⟩ := SpecificationForm.prepare_cases
      { p.form with name := p.name.value }
    · dsimp only at h ⊢
      rw [h]
      exact congrArg FormContent.texts (content_showForm _).symm
    · dsimp only at h ⊢
      rw [h]
      exact congrArg FormContent.texts (content_showForm _).symm

theorem held_pressField (p : SpecificationPanel) (k : Key) :
    (p.pressField k).held.texts = p.held.texts := by
  unfold pressField
  split
  · rfl
  · split <;> rfl

/-- The form takes over what is typed when it is checked, and else only when it is emptied. -/
theorem held_press (p : SpecificationPanel) (k : Key) :
    (p.press k).2.held.texts =
      if p.checks k || k.isControl 'n' then (p.press k).2.content.texts else p.held.texts := by
  unfold press checks
  -- a key with control held down is at most one of the three, and not the one that ends a line
  split
  · rename_i hs
    rw [hs, Key.isControl_unique (by decide) hs, held_submit]
    cases p.busy <;> rfl
  · rename_i hs
    rw [Bool.eq_false_iff.mpr hs, Bool.false_or]
    split
    · rename_i hr
      rw [Key.isControl_unique (by decide) hr, Key.ne_enter_of_isControl hr]
      cases p.busy <;> rfl
    · split
      · rename_i hn
        rw [hn, Bool.or_true]
        exact congrArg FormContent.texts (content_showForm _).symm
      · rename_i hn
        rw [Bool.eq_false_iff.mpr hn, Bool.or_false]
        split
        · rename_i hcode
          rw [hcode]
          cases p.busy <;> rfl
        · rename_i hcode
          rw [hcode]
          cases p.busy <;> rfl
        · rename_i hcode
          rw [hcode]
          split
          · rename_i hfield
            rw [hfield, held_submit]
            cases p.busy <;> rfl
          · rename_i hfield
            rw [Bool.eq_false_iff.mpr hfield, held_pressField]
            cases p.busy <;> rfl
        · rename_i hcode
          rw [beq_false_of_ne hcode, held_pressField]
          cases p.busy <;> rfl

end SpecificationPanel

namespace OfferingPanel

/-- Does the key have the form checked? -/
def checks (p : OfferingPanel) (k : Key) : Bool :=
  p.busy.isNone && (k.isControl 's' || k.isControl 'p')

theorem held_saveDraft (p : OfferingPanel) :
    p.saveDraft.2.held.texts =
      if p.busy.isNone then p.saveDraft.2.content.texts else p.held.texts := by
  unfold saveDraft
  cases p.busy with
  | some busy => rfl
  | none =>
    obtain ⟨r, errors, h, -⟩ | ⟨errors, h⟩ := OfferingForm.prepareDraft_cases p.typed
    · rw [h]
      exact congrArg FormContent.texts (content_showForm _).symm
    · rw [h]
      exact congrArg FormContent.texts (content_showForm _).symm

theorem held_publish (p : OfferingPanel) :
    p.publish.2.2.held.texts =
      if p.busy.isNone then p.publish.2.2.content.texts else p.held.texts := by
  unfold publish
  cases p.busy with
  | some busy => rfl
  | none =>
    generalize p.typed.preparePublish = prepared
    obtain ⟨check, toasts, form⟩ := prepared
    cases check <;> exact congrArg FormContent.texts (content_showForm _).symm

theorem held_pressField (p : OfferingPanel) (k : Key) :
    (p.pressField k).held.texts = p.held.texts := by
  unfold pressField
  split
  · rfl
  · rfl
  · split <;> rfl
  · split <;> rfl
  · dsimp only
    split <;> rfl

theorem held_press (p : OfferingPanel) (k : Key) :
    (p.press k).2.2.held.texts =
      if p.checks k || k.isControl 'n' then (p.press k).2.2.content.texts else p.held.texts := by
  unfold press checks
  dsimp only
  split
  · rename_i hs
    rw [hs, Key.isControl_unique (by decide : 's' ≠ 'n') hs, held_saveDraft]
    cases p.busy <;> rfl
  · rename_i hs
    rw [Bool.eq_false_iff.mpr hs, Bool.false_or]
    split
    · rename_i hp
      rw [hp, Key.isControl_unique (by decide) hp, held_publish]
      cases p.busy <;> rfl
    · rename_i hp
      rw [Bool.eq_false_iff.mpr hp, Bool.and_false, Bool.false_or]
      split
      · rename_i hr
        rw [Key.isControl_unique (by decide) hr]
        rfl
      · split
        · exact congrArg FormContent.texts (content_showForm _).symm
        · split
          · rfl
          · rfl
          · exact held_pressField p k

end OfferingPanel

/-! ## The builder -/

namespace Builder

variable (b : Builder) {tab : BuilderTab}

/-- Does the key have the form behind the tab checked, if it is shown?  Only panels that show
    their form anew after a failure matter. -/
def checks (k : Key) : BuilderTab → Bool
  | .specification => b.specification.checks k
  | .offering => b.offering.checks k
  | _ => false

/-- Does the key make the form behind the tab hold what is typed? -/
def renews (k : Key) (tab : BuilderTab) : Bool :=
  tab == b.tab && (tabOf? k).isNone && (b.checks k tab || k.isControl 'n')

theorem held_refocus (tab : BuilderTab) : b.refocus.held tab = b.held tab := by
  cases tab <;> rfl

theorem held_showTab (shown tab : BuilderTab) : (b.showTab shown).2.held tab = b.held tab := by
  cases shown <;> cases tab <;> rfl

theorem held_specificationOptions (result : Except Failure (List Characteristic))
    (tab : BuilderTab) : (b.applySpecificationOptions result).2.held tab = b.held tab := by
  cases result <;> cases tab <;> rfl

theorem held_offeringOptions (result : Except Failure OfferingOptions) (tab : BuilderTab) :
    (b.applyOfferingOptions result).2.held tab = b.held tab := by
  cases result <;> cases tab <;> rfl

theorem held_pressPanel_of_ne (k : Key) (hne : tab ≠ b.tab) :
    (b.pressPanel k).2.2.held tab = b.held tab := by
  unfold pressPanel
  cases hshown : b.tab with
  | characteristic =>
    cases tab with
    | characteristic => exact absurd hshown.symm hne
    | _ => rfl
  | specification =>
    cases tab with
    | specification => exact absurd hshown.symm hne
    | _ => rfl
  | pricing =>
    cases tab with
    | pricing => exact absurd hshown.symm hne
    | _ => rfl
  | offering =>
    cases tab with
    | offering => exact absurd hshown.symm hne
    | _ => rfl

theorem held_pressPanel (k : Key) (hrereads : tab.rereads = true)
    (hkey : (tabOf? k).isNone = true) :
    ((b.pressPanel k).2.2.held tab).texts =
      if b.renews k tab then ((b.pressPanel k).2.2.content tab).texts else (b.held tab).texts := by
  by_cases htab : tab = b.tab
  · rw [renews, beq_iff_eq.mpr htab, hkey, Bool.true_and, Bool.true_and]
    unfold pressPanel
    rw [← htab]
    cases tab with
    | specification => exact b.specification.held_press k
    | offering => exact b.offering.held_press k
    | characteristic => cases hrereads
    | pricing => cases hrereads
  · have hnot : b.renews k tab = false := by
      rw [renews, beq_false_of_ne htab]
      rfl
    rw [b.held_pressPanel_of_ne k htab, hnot]
    rfl

theorem held_press (k : Key) (hrereads : tab.rereads = true) :
    ((b.press k).2.2.held tab).texts =
      if b.renews k tab then ((b.press k).2.2.content tab).texts else (b.held tab).texts := by
  unfold press
  split
  · rename_i shown hkey
    have hnot : b.renews k tab = false := by simp [renews, hkey]
    rw [hnot]
    exact congrArg FormContent.texts (b.held_showTab shown tab)
  · rename_i hkey
    show ((b.pressPanel k).2.2.refocus.held tab).texts =
      if b.renews k tab then ((b.pressPanel k).2.2.refocus.content tab).texts else _
    rw [held_refocus, content_refocus]
    exact b.held_pressPanel k hrereads (by rw [hkey]; rfl)

/-- A record that is opened is shown as it is. -/
theorem held_edit {b b' : Builder} {r : CatalogRecord} {a : BuilderAction}
    (h : b.edit r = .ok (a, b')) (tab : BuilderTab) :
    b'.held tab = if tab = r.tab then b'.content tab else b.held tab := by
  cases r with
  | characteristic c =>
    cases h
    cases tab <;> rfl
  | specification s =>
    cases h
    cases tab <;> rfl
  | price p =>
    simp only [edit, PricingForm.edit] at h
    split at h
    · cases h
      cases tab <;> rfl
    · cases h
  | offering o =>
    simp only [edit, OfferingForm.edit] at h
    split at h
    · cases h
      cases tab <;> rfl
    · cases h

theorem held_settle (o : FormOutcome) (hrereads : tab.rereads = true) :
    (b.settle o).held tab =
      if tab = o.kind.panel then (b.settle o).content tab else b.held tab := by
  cases tab with
  | characteristic => cases hrereads
  | pricing => cases hrereads
  | specification =>
    cases o with
    | specification r => exact (SpecificationPanel.content_showForm _).symm
    | _ => rfl
  | offering =>
    cases o with
    | draft r => exact (OfferingPanel.content_showForm _).symm
    | publish r => exact (OfferingPanel.content_showForm _).symm
    | _ => rfl

end Builder

/-! ## The ledger -/

namespace FormLedger

/-- Is the form behind the tab opened, emptied, checked or told of an outcome? -/
def renews (l : FormLedger) (tab : BuilderTab) : BuilderEvent → Bool
  | .press k => l.builder.renews k tab
  | .edit r => tab == r.tab && (l.builder.edit r).isOk
  | .complete place o => tab == o.kind.panel && l.inFlight[place]?.any fun s => s.kind = o.kind
  | _ => false

/-- A failure leaves all forms as they are, but one whose record was saved changes that record
    from then on. -/
def Keeps (l : FormLedger) (e : BuilderEvent) : Prop :=
  ∀ s o, l.Brings e s o → o.fails = true → ∀ tab,
    (l.step e).2.builder.content tab =
      if tab = s.kind.panel then o.leaves (l.builder.content tab) else l.builder.content tab

theorem builder_press (l : FormLedger) (k : Key) :
    (l.press k).2.builder = (l.builder.press k).2.2 := by
  unfold press
  dsimp only
  rw [builder_note]
  split <;> rfl

theorem builder_complete (l : FormLedger) (place : Nat) (o : FormOutcome) :
    (l.complete place o).builder =
      if (l.inFlight[place]?.any fun s => s.kind = o.kind) then l.builder.settle o
      else l.builder := by
  unfold complete
  cases l.inFlight[place]? with
  | none => rfl
  | some s =>
    by_cases hkind : s.kind = o.kind
    · simp [hkind]
    · simp [hkind]

/-- **Frame lemma.** What a form holds is what is shown of it, right after it was renewed, and
    else stays as it is. -/
theorem held_step (l : FormLedger) (e : BuilderEvent) {tab : BuilderTab}
    (hrereads : tab.rereads = true) :
    ((l.step e).2.builder.held tab).texts =
      if l.renews tab e then ((l.step e).2.builder.content tab).texts
      else (l.builder.held tab).texts := by
  cases e with
  | press k =>
    show ((l.press k).2.builder.held tab).texts = if l.builder.renews k tab then
      ((l.press k).2.builder.content tab).texts else _
    rw [builder_press]
    exact l.builder.held_press k hrereads
  | showTab shown => exact congrArg FormContent.texts (l.builder.held_showTab shown tab)
  | edit r =>
    show ((l.edit r).2.builder.held tab).texts = if tab == r.tab && (l.builder.edit r).isOk then
      ((l.edit r).2.builder.content tab).texts else _
    unfold edit
    split
    · rename_i why hedit
      rw [hedit]
      cases tab == r.tab <;> rfl
    · rename_i action builder hedit
      rw [hedit]
      show (builder.held tab).texts =
        if tab == r.tab && true then (builder.content tab).texts else _
      rw [Builder.held_edit hedit tab]
      by_cases htab : tab = r.tab
      · rw [if_pos htab, beq_iff_eq.mpr htab]
        rfl
      · rw [if_neg htab, beq_false_of_ne htab]
        rfl
  | specificationOptions result =>
    exact congrArg FormContent.texts (l.builder.held_specificationOptions result tab)
  | offeringOptions result =>
    exact congrArg FormContent.texts (l.builder.held_offeringOptions result tab)
  | complete place o =>
    show ((l.complete place o).builder.held tab).texts =
      if tab == o.kind.panel && l.inFlight[place]?.any fun s => s.kind = o.kind then
        ((l.complete place o).builder.content tab).texts else _
    rw [builder_complete]
    cases l.inFlight[place]?.any fun s => s.kind = o.kind with
    | false => cases tab == o.kind.panel <;> rfl
    | true =>
      rw [if_pos rfl, l.builder.held_settle o hrereads, Bool.and_true]
      by_cases htab : tab = o.kind.panel
      · rw [if_pos htab, beq_iff_eq.mpr htab]
        rfl
      · rw [if_neg htab, beq_false_of_ne htab]
        rfl

/-- Which forms a failure keeps. -/
theorem keeps_iff (l : FormLedger) (e : BuilderEvent) :
    l.Keeps e ↔ ∀ s o, l.Brings e s o → o.fails = true → s.kind.panel.rereads = true →
      (l.builder.content s.kind.panel).texts = (l.builder.held s.kind.panel).texts := by
  have hpanel {s : Submission} {o : FormOutcome} (hb : l.Brings e s o) (hfails : o.fails = true) :
      (l.step e).2.builder.content s.kind.panel = o.leaves (l.builder.content s.kind.panel) ↔
        (s.kind.panel.rereads = true →
          (l.builder.content s.kind.panel).texts = (l.builder.held s.kind.panel).texts) := by
    obtain ⟨hstep, hkind⟩ := step_of_brings hb
    rw [hstep, Builder.content_settle, hkind, if_pos rfl, ← Builder.content_eq_held_iff]
    exact FormOutcome.shows_eq_leaves_iff (l.builder.held_mode _) hfails
  constructor
  · intro hkeeps s o hb hfails
    have hkept := hkeeps s o hb hfails s.kind.panel
    rw [if_pos rfl] at hkept
    exact (hpanel hb hfails).mp hkept
  · intro huntouched s o hb hfails tab
    by_cases htab : tab = s.kind.panel
    · rw [if_pos htab, htab]
      exact (hpanel hb hfails).mpr (huntouched s o hb hfails)
    · obtain ⟨hstep, hkind⟩ := step_of_brings hb
      rw [if_neg htab, hstep, Builder.content_settle, if_neg (hkind ▸ htab)]

end FormLedger

/-- The builder, and what there is to know of its forms and of what is typed into them. -/
structure TypingLedger where
  forms : FormLedger := {}
  /-- The texts that a panel showed when its form was last opened, emptied, checked or told of
      an outcome, for the panels that show their form anew after every outcome. -/
  noted : BuilderTab → List String := fun tab => (FormContent.blank tab).texts

namespace TypingLedger

def step (l : TypingLedger) (e : BuilderEvent) : TypingLedger where
  forms := (l.forms.step e).2
  noted tab :=
    if l.forms.renews tab e then ((l.forms.step e).2.builder.content tab).texts else l.noted tab

/-- Something holds of every event of a run, at the ledger where it happens. -/
def Along (P : TypingLedger → BuilderEvent → Prop) : TypingLedger → List BuilderEvent → Prop
  | _, [] => True
  | l, e :: events => P l e ∧ Along P (l.step e) events

/-- A failure leaves what was entered. -/
def Keeps (l : TypingLedger) (e : BuilderEvent) : Prop :=
  l.forms.Keeps e

/-- A failure that makes a panel show its form anew finds the texts of the panel as they were
    noted. -/
def Untouched (l : TypingLedger) (e : BuilderEvent) : Prop :=
  ∀ s o, l.forms.Brings e s o → o.fails = true → s.kind.panel.rereads = true →
    (l.forms.builder.content s.kind.panel).texts = l.noted s.kind.panel

/-- The forms hold the texts that are noted.  This is the invariant that carries the result. -/
def Noted (l : TypingLedger) : Prop :=
  ∀ tab, tab.rereads = true → (l.forms.builder.held tab).texts = l.noted tab

theorem noted_start : ({} : TypingLedger).Noted := by
  intro tab _
  cases tab <;> rfl

/-- **Step lemma** for the notes. -/
theorem noted_step {l : TypingLedger} (h : l.Noted) (e : BuilderEvent) : (l.step e).Noted := by
  intro tab hrereads
  show (((l.forms.step e).2.builder.held tab).texts) =
    if l.forms.renews tab e then ((l.forms.step e).2.builder.content tab).texts else l.noted tab
  rw [l.forms.held_step e hrereads, h tab hrereads]

/-- **Step lemma** for what is entered. -/
theorem keeps_iff_untouched_step {l : TypingLedger} (h : l.Noted) (e : BuilderEvent) :
    l.Keeps e ↔ l.Untouched e := by
  refine (l.forms.keeps_iff e).trans (forall₄_congr fun s o hb hfails => ?_)
  refine forall_congr' fun hrereads => ?_
  rw [h s.kind.panel hrereads]

/-- **Run lemma.** -/
theorem along_keeps_iff {l : TypingLedger} (h : l.Noted) (events : List BuilderEvent) :
    Along Keeps l events ↔ Along Untouched l events := by
  induction events generalizing l with
  | nil => exact Iff.rfl
  | cons e events ih => exact and_congr (keeps_iff_untouched_step h e) (ih (noted_step h e))

/-- A run of the builder keeps what its users have entered at every failure if and only if no
    failure of a specification or an offering finds texts that were changed since the form was
    last opened, emptied, checked or told of an outcome. -/
theorem keeps_iff_untouched (events : List BuilderEvent) :
    Along Keeps {} events ↔ Along Untouched {} events :=
  along_keeps_iff noted_start events

/-! ## A failure while something is typed -/

/-- A specification is opened and saved, and its name is changed before the save fails. -/
def lostTyping : List BuilderEvent :=
  [.edit (.specification {
      id := "s1", name := "Router", characteristicIds := ["c1"], createdAt := none,
      updatedAt := none }),
    .press { code := .char 's', control := true },
    .press { code := .char 'X' },
    .complete 0 (.specification (.error (.withStatus 503 "Busy")))]

/-- Not every run keeps what is entered: here the name is as it was before it was changed. -/
theorem not_keeps_lostTyping : ¬ Along Keeps {} lostTyping := by
  rintro ⟨-, -, -, hfailure, -⟩
  have hkept := hfailure ⟨.specification, 1⟩ (.specification (.error (.withStatus 503 "Busy")))
    ⟨0, rfl, by decide, rfl⟩ rfl .specification
  exact absurd hkept (by decide)

end TypingLedger

end CatalogDesk
