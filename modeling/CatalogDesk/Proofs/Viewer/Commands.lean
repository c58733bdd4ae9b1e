import CatalogDesk.Proofs.Lists
import CatalogDesk.Proofs.Viewer.Steps
import Mathlib.Data.List.Induction

/-! # The rows that are acted on

    A row is deleted in two steps: a key asks for it, and the next key confirms it or calls it
    off.  Between the two the table may be listed anew and show other records; what is deleted
    is the record that was selected when the first key was struck.

    So what a key does depends on the run before it.  `Asked` says of the inputs alone that
    their last key asked for a deletion; `doomed_iff_asked` says that the viewer remembers
    exactly that, and `acts_on_selected` which inputs delete, edit, publish and retire which
    record, after any run.

    The keys for the selected row are shown as plain letters, and other screens read a letter
    with Control held as another key.  The viewer looks at the letter only, and at Control in
    its search field: `spares_iff` says when a key leaves all records alone, and
    `spares_control_iff` that it is no different with Control held. -/

namespace CatalogDesk

variable {α : Type}

/-! ## The selected row -/

/-- The record stands in the selected row of a table that is not loading. -/
def Table.Selects (t : Table α) (r : α) : Prop :=
  t.loading = false ∧ t.pageRows[t.selected]? = some r

theorem Table.Maintained.selected?_eq_some_iff {columns : List (Column α)} {encode : α → Json}
    {t : Table α} (h : t.Maintained columns encode) {r : α} :
    t.selected? = some r ↔ t.Selects r := by
  obtain ⟨q, hq⟩ := h.request
  have hsound := hq.sound h.pageSize h.placed
  cases hloading : t.loading with
  | true =>
    have hnone : t.selected? = none := hsound.unselected.mpr (.inl hloading)
    simp [Selects, hloading, hnone]
  | false => simp [Selects, hloading, hsound.selected hloading]

namespace Viewer

/-- The record stands in the selected row of the active table, which is not loading. -/
def Selects (v : Viewer) : CatalogRecord → Prop
  | .characteristic c => v.active = .characteristics ∧ v.characteristics.Selects c
  | .specification s => v.active = .specifications ∧ v.specifications.Selects s
  | .price p => v.active = .prices ∧ v.prices.Selects p
  | .offering o => v.active = .offerings ∧ v.offerings.Selects o

theorem Maintained.selected?_eq_some_iff {v : Viewer} (h : v.Maintained) {r : CatalogRecord} :
    v.selected? = some r ↔ v.Selects r := by
  unfold selected?
  cases hactive : v.active with
  | characteristics =>
    simp only [Option.map_eq_some_iff, h.characteristics.selected?_eq_some_iff]
    cases r <;> simp [Selects, hactive]
  | specifications =>
    simp only [Option.map_eq_some_iff, h.specifications.selected?_eq_some_iff]
    cases r <;> simp [Selects, hactive]
  | prices =>
    simp only [Option.map_eq_some_iff, h.prices.selected?_eq_some_iff]
    cases r <;> simp [Selects, hactive]
  | offerings =>
    simp only [Option.map_eq_some_iff, h.offerings.selected?_eq_some_iff]
    cases r <;> simp [Selects, hactive]

end Viewer

/-! ## What is asked for -/

/-- Is the input neither a key nor a change to another collection?  Such inputs come from
    listings, requested or answered. -/
def ViewerInput.isQuiet : ViewerInput → Bool
  | .press _ | .choose _ => false
  | .reload | .setLoading _ | .apply _ _ => true

/-- The command and the record of an action that needs no confirmation. -/
def ViewerAction.command? : ViewerAction → Option (RowCommand × CatalogRecord)
  | .edit r => some (.edit, r)
  | .publish o => some (.publish, .offering o)
  | .retire o => some (.retire, .offering o)
  | .none | .reload _ | .delete _ => Option.none

theorem RowCommand.action_ne_delete (c : RowCommand) (r r' : CatalogRecord) :
    c.action r ≠ .delete r' := by
  cases c with
  | edit => simp [action]
  | delete => simp [action]
  | _ => cases r <;> simp [action, CatalogRecord.offering?]

theorem RowCommand.action_eq_iff {a : ViewerAction} {c c' : RowCommand} {r r' : CatalogRecord}
    (h : a.command? = some (c, r)) : c'.action r' = a ↔ c' = c ∧ r' = r := by
  cases a with
  | edit _ | publish _ | retire _ =>
    cases h
    cases c' <;> cases r' <;> simp [action, CatalogRecord.offering?]
  | none | reload _ | delete _ => cases h

namespace Viewer

/-- The last key of the inputs asked for the deletion of the record, which was selected then,
    and the collection was not changed since. -/
def Asked (v : Viewer) (inputs : List ViewerInput) (r : CatalogRecord) : Prop :=
  ∃ earlier k between, inputs = earlier ++ .press k :: between ∧
    (∀ i ∈ between, i.isQuiet = true) ∧
    (v.after earlier).Commands k .delete ∧ (v.after earlier).Selects r

/-- What comes of an input, after others, for the records in the rows. -/
structure ActsOnSelected (v : Viewer) (inputs : List ViewerInput) (i : ViewerInput) : Prop where
  delete : ∀ r, ((v.after inputs).step i).1 = .delete r ↔
    ∃ k, i = .press k ∧ k.confirms = true ∧ v.Asked inputs r
  /-- The record that waits for the confirmation is the one that was asked for. -/
  waits : ∀ r, (v.after inputs).doomed = some r ↔ v.Asked inputs r
  /-- Any other key calls the deletion off and does nothing else. -/
  cancels : ∀ r k, v.Asked inputs r → i = .press k → k.confirms = false →
    (v.after inputs).step i = (.none, { v.after inputs with doomed := none }) ∧
      ∀ r', ¬ v.Asked (inputs ++ [i]) r'
  edit : ∀ r, ((v.after inputs).step i).1 = .edit r ↔
    ∃ k, i = .press k ∧ (v.after inputs).Commands k .edit ∧ (v.after inputs).Selects r
  publish : ∀ o, ((v.after inputs).step i).1 = .publish o ↔
    ∃ k, i = .press k ∧ (v.after inputs).Commands k .publish ∧
      (v.after inputs).Selects (.offering o)
  retire : ∀ o, ((v.after inputs).step i).1 = .retire o ↔
    ∃ k, i = .press k ∧ (v.after inputs).Commands k .retire ∧
      (v.after inputs).Selects (.offering o)

/-! ## One step -/

variable {v : Viewer} {i : ViewerInput}

@[simp] theorem doomed_changeTable (v : Viewer) (c : Collection)
    (f : {α : Type} → Table α → Table α) : (v.changeTable c f).doomed = v.doomed := by
  cases c <;> rfl

@[simp] theorem doomed_setLoading (v : Viewer) (c : Collection) :
    (v.setLoading c).doomed = v.doomed :=
  v.doomed_changeTable c _

@[simp] theorem doomed_apply (v : Viewer) (c : Collection)
    (listed : Except Failure CatalogRecords) : (v.apply c listed).doomed = v.doomed := by
  cases listed with
  | error f => exact v.doomed_changeTable c _
  | ok records => cases records <;> rfl

theorem Typed.doomed {v' : Viewer} (h : v.Typed v') : v'.doomed = v.doomed := by
  cases h with
  | keeps search searching _ => rfl
  | searches search => exact doomed_changeTable _ _ _

theorem Moves.doomed {p : ViewerAction × Viewer} (h : v.Moves p) (hdoomed : v.doomed = none) :
    p.2.doomed = none := by
  cases h with
  | stay => exact hdoomed
  | turn f hf => exact (v.doomed_changeTable v.active f).trans hdoomed
  | choose c => exact doomed_setLoading _ c
  | search => exact hdoomed
  | reload => exact (v.doomed_setLoading v.active).trans hdoomed

theorem Moves.action {p : ViewerAction × Viewer} (h : v.Moves p) :
    p.1 = .none ∨ ∃ c, p.1 = .reload c := by
  cases h with
  | stay => exact .inl rfl
  | turn f hf => exact .inl rfl
  | choose c => exact .inr ⟨c, rfl⟩
  | search => exact .inl rfl
  | reload => exact .inr ⟨v.active, rfl⟩

/-- A key is one command at most. -/
theorem Commands.unique {k : Key} {c c' : RowCommand} (h : v.Commands k c)
    (h' : v.Commands k c') : c = c' :=
  Option.some.inj (h.code.symm.trans h'.code)

/-- **Step lemma.** A record waits after an input if it did before and the input is no key,
    or if the input asks for its deletion. -/
theorem doomed_step_iff (v : Viewer) (i : ViewerInput) (r : CatalogRecord) :
    (v.step i).2.doomed = some r ↔
      (i.isQuiet = true ∧ v.doomed = some r) ∨
        ∃ k, i = .press k ∧ v.Commands k .delete ∧ v.selected? = some r := by
  cases i with
  | press k =>
    simp only [step, ViewerInput.isQuiet, Bool.false_eq_true, false_and, false_or,
      ViewerInput.press.injEq, exists_eq_left']
    cases v.pressed k with
    | decides r' hdoomed hnone h =>
      rw [h]
      exact iff_of_false (by simp) fun hc => hnone _ hc.1
    | types hdoomed hnone h =>
      rw [h, (v.typed_pressSearch k).doomed, hdoomed]
      exact iff_of_false (by simp) fun hc => hnone _ hc.1
    | commands c hc h =>
      rw [h]
      simp only [carryOut]
      split
      · rename_i hdelete
        subst hdelete
        exact ⟨fun hr => ⟨hc, hr⟩, fun hr => hr.2⟩
      · rename_i hother
        rw [hc.free]
        exact iff_of_false (by simp) fun hdelete => hother (hc.unique hdelete.1)
    | moves hdoomed hnone h =>
      rw [h.doomed hdoomed]
      exact iff_of_false (by simp) fun hc => hnone _ hc.1
  | choose c =>
    have hnone : (v.choose c).2.doomed = none := doomed_setLoading _ c
    simp [step, ViewerInput.isQuiet, hnone]
  | reload =>
    have hsame : v.reload.2.doomed = v.doomed := v.doomed_setLoading v.active
    simp [step, ViewerInput.isQuiet, hsame]
  | setLoading c => simp [step, ViewerInput.isQuiet]
  | apply c listed => simp [step, ViewerInput.isQuiet]

/-- A deletion comes of a key that confirms the one that waits. -/
theorem delete_step_iff (v : Viewer) (i : ViewerInput) (r : CatalogRecord) :
    (v.step i).1 = .delete r ↔
      ∃ k, i = .press k ∧ k.confirms = true ∧ v.doomed = some r := by
  cases i with
  | press k =>
    simp only [step, ViewerInput.press.injEq, exists_eq_left']
    cases v.pressed k with
    | decides r' hdoomed hnone h =>
      rw [h, hdoomed, Option.some.injEq]
      split
      · rename_i hkey
        rw [hkey, ViewerAction.delete.injEq]
        simp
      · rename_i hkey
        simp [hkey]
    | types hdoomed hnone h => simp [h, hdoomed]
    | commands c hc h =>
      rw [h, hc.free]
      refine iff_of_false ?_ (by simp)
      simp only [carryOut]
      cases v.selected? with
      | none => simp
      | some r' => exact c.action_ne_delete r' r
    | moves hdoomed hnone h =>
      rw [hdoomed]
      refine iff_of_false ?_ (by simp)
      rcases h.action with hquiet | ⟨c, hquiet⟩
      · simp [hquiet]
      · simp [hquiet]
  | choose c => exact iff_of_false (fun h => by cases h) (by simp)
  | reload => exact iff_of_false (fun h => by cases h) (by simp)
  | setLoading c => exact iff_of_false (fun h => by cases h) (by simp)
  | apply c listed => exact iff_of_false (fun h => by cases h) (by simp)

theorem Moves.command?_eq_none {p : ViewerAction × Viewer} (h : v.Moves p) :
    p.1.command? = none := by
  rcases h.action with hquiet | ⟨c, hquiet⟩
  · rw [hquiet]
    rfl
  · rw [hquiet]
    rfl

/-- Every other action on a record comes of a command for the selected row. -/
theorem action_step_iff (v : Viewer) (i : ViewerInput) {a : ViewerAction} {c : RowCommand}
    {r : CatalogRecord} (ha : a.command? = some (c, r)) :
    (v.step i).1 = a ↔ ∃ k, i = .press k ∧ v.Commands k c ∧ v.selected? = some r := by
  -- an input that is no command, and has another outcome
  have hother (hout : (v.step i).1.command? = none) (hnone : ∀ k, i = .press k → ¬ v.Commands k c) :
      (v.step i).1 = a ↔ ∃ k, i = .press k ∧ v.Commands k c ∧ v.selected? = some r := by
    refine iff_of_false (fun h => ?_) ?_
    · rw [h, ha] at hout
      cases hout
    · rintro ⟨k, hi, hc, -⟩
      exact hnone k hi hc
  cases i with
  | press k =>
    have hkey (hnone : ∀ c, ¬ v.Commands k c) :
        ∀ k', ViewerInput.press k = .press k' → ¬ v.Commands k' c := by
      rintro _ ⟨⟩
      exact hnone c
    cases v.pressed k with
    | decides r' hdoomed hnone h =>
      refine hother ?_ (hkey hnone)
      simp only [step, h]
      split <;> rfl
    | types hdoomed hnone h =>
      refine hother ?_ (hkey hnone)
      rw [step, h]
      rfl
    | commands c' hc h =>
      have hout : (v.step (.press k)).1 = v.selected?.elim .none c'.action := by
        rw [step, h, carryOut]
      have hsame : v.Commands k c ↔ c' = c :=
        ⟨hc.unique, fun heq => heq ▸ hc⟩
      rw [hout]
      simp only [ViewerInput.press.injEq, exists_eq_left', hsame]
      cases v.selected? with
      | none =>
        refine iff_of_false ?_ (by simp)
        rintro rfl
        cases ha
      | some r' => simp [RowCommand.action_eq_iff ha]
    | moves hdoomed hnone h => exact hother h.command?_eq_none (hkey hnone)
  | _ => exact hother rfl fun k hi => by cases hi

/-! ## Whole runs -/

/-- After one more input a record is asked for if it was before and the input is no key, or if
    the input asks for it. -/
theorem asked_concat_iff (v : Viewer) (inputs : List ViewerInput) (i : ViewerInput)
    (r : CatalogRecord) :
    v.Asked (inputs ++ [i]) r ↔
      (i.isQuiet = true ∧ v.Asked inputs r) ∨
        ∃ k, i = .press k ∧ (v.after inputs).Commands k .delete ∧
          (v.after inputs).Selects r := by
  constructor
  · rintro ⟨earlier, k, between, hinputs, hquiet, hc, hr⟩
    rw [concat_eq_append_cons_iff] at hinputs
    obtain ⟨rfl, rfl, rfl⟩ | ⟨between', rfl, rfl⟩ := hinputs
    · exact .inr ⟨k, rfl, hc, hr⟩
    · have hi : i.isQuiet = true := hquiet i List.mem_concat_self
      have hbetween : ∀ j ∈ between', j.isQuiet = true :=
        fun j hj => hquiet j (List.mem_append_left _ hj)
      exact .inl ⟨hi, earlier, k, between', rfl, hbetween, hc, hr⟩
  · rintro (⟨hi, earlier, k, between, rfl, hquiet, hc, hr⟩ | ⟨k, rfl, hc, hr⟩)
    · refine ⟨earlier, k, between ++ [i], List.append_assoc _ _ _, fun j hj => ?_, hc, hr⟩
      rcases List.mem_append.mp hj with hj | hj
      · exact hquiet j hj
      · rwa [List.mem_singleton.mp hj]
    · exact ⟨inputs, k, [], rfl, by simp, hc, hr⟩

/-- **Run lemma.** The record that waits for the confirmation is the one that was asked for. -/
theorem doomed_iff_asked (hnew : v.doomed = none) (hv : ∀ inputs, (v.after inputs).Maintained)
    (inputs : List ViewerInput) (r : CatalogRecord) :
    (v.after inputs).doomed = some r ↔ v.Asked inputs r := by
  induction inputs using List.reverseRecOn with
  | nil =>
    refine iff_of_false ?_ ?_
    · simp [after, hnew]
    · rintro ⟨earlier, k, between, hinputs, -⟩
      simp at hinputs
  | append_singleton inputs i ih =>
    simp only [after_concat, doomed_step_iff, asked_concat_iff, ih,
      (hv inputs).selected?_eq_some_iff]

/-- A key that does not confirm calls the deletion off and does nothing else. -/
theorem press_of_doomed {k : Key} {r : CatalogRecord} (hdoomed : v.doomed = some r)
    (hkey : k.confirms = false) : v.press k = (.none, { v with doomed := none }) := by
  cases v.pressed k with
  | decides r' _ _ h => simpa only [hkey, Bool.false_eq_true, if_false] using h
  | types hwaits =>
    rw [hwaits] at hdoomed
    cases hdoomed
  | commands c hc =>
    rw [hc.free] at hdoomed
    cases hdoomed
  | moves hwaits =>
    rw [hwaits] at hdoomed
    cases hdoomed

/-- What is deleted, edited, published and retired. -/
theorem acts_on_selected (pageSize offeringPageSize : Nat) (inputs : List ViewerInput)
    (i : ViewerInput) : (new pageSize offeringPageSize).ActsOnSelected inputs i := by
  have hmaintained := maintained_after pageSize offeringPageSize
  have hwaits := doomed_iff_asked (v := new pageSize offeringPageSize) rfl hmaintained
  have hacts {a : ViewerAction} {c : RowCommand} {r : CatalogRecord}
      (ha : a.command? = some (c, r)) :
      (((new pageSize offeringPageSize).after inputs).step i).1 = a ↔
        ∃ k, i = .press k ∧ ((new pageSize offeringPageSize).after inputs).Commands k c ∧
          ((new pageSize offeringPageSize).after inputs).Selects r := by
    simp only [action_step_iff _ _ ha, (hmaintained inputs).selected?_eq_some_iff]
  refine ⟨fun r => ?_, hwaits inputs, ?_, fun r => ?_, fun o => ?_, fun o => ?_⟩
  · simp only [delete_step_iff, hwaits]
  · rintro r k hr rfl hkey
    have hdoomed := (hwaits inputs r).mpr hr
    refine ⟨press_of_doomed hdoomed hkey, fun r' hr' => ?_⟩
    rw [← hwaits, after_concat, step, press_of_doomed hdoomed hkey] at hr'
    cases hr'
  · exact hacts rfl
  · exact hacts rfl
  · exact hacts rfl

example :
    let listed (name : String) := ViewerInput.apply .characteristics
      (.ok (.characteristics [{ (default : Characteristic) with name }]))
    let v := (new 10 10).after [listed "Red", .press { code := .char 'd' }, .reload, listed "Blue"]
    (v.step (.press { code := .char 'y' })).1 =
      .delete (.characteristic { (default : Characteristic) with name := "Red" }) := by
  decide +kernel

end Viewer

/-! ## Keys with Control held -/

/-- Is the record of a kind that the command is for? -/
def RowCommand.AppliesTo : RowCommand → CatalogRecord → Prop
  | .edit, _ | .delete, _ => True
  | .publish, r | .retire, r => ∃ o, r = .offering o

namespace Viewer

/-- The key leaves all records alone, and asks nothing about them. -/
structure Spares (v : Viewer) (k : Key) : Prop where
  edit : ∀ r, (v.press k).1 ≠ .edit r
  delete : ∀ r, (v.press k).1 ≠ .delete r
  publish : ∀ o, (v.press k).1 ≠ .publish o
  retire : ∀ o, (v.press k).1 ≠ .retire o
  question : (v.press k).2.doomed = none

/-- The key gets at a record: it confirms the deletion that waits for it, or it is a command
    for the selected row. -/
inductive Reaches (v : Viewer) (k : Key) : Prop
  | confirms (r : CatalogRecord) (hdoomed : v.doomed = some r) (h : k.confirms = true)
  | commands (c : RowCommand) (r : CatalogRecord) (hc : v.Commands k c)
      (hselected : v.selected? = some r) (h : c.AppliesTo r)

variable {v : Viewer} {k : Key}

theorem Commands.withControl {c : RowCommand} (h : v.Commands k c) (control : Bool) :
    v.Commands { k with control } c :=
  ⟨h.code, h.free, h.outside, h.plain⟩

theorem Reaches.withControl (h : v.Reaches k) (control : Bool) :
    v.Reaches { k with control } := by
  cases h with
  | confirms r hdoomed h => exact .confirms r hdoomed h
  | commands c r hc hselected h => exact .commands c r (hc.withControl control) hselected h

theorem Reaches.not_spares (h : v.Reaches k) : ¬ v.Spares k := by
  intro hspares
  have hact {a : ViewerAction} {c : RowCommand} {r : CatalogRecord} (ha : a.command? = some (c, r))
      (hc : v.Commands k c) (hselected : v.selected? = some r) : (v.press k).1 = a :=
    (action_step_iff v (.press k) ha).mpr ⟨k, rfl, hc, hselected⟩
  cases h with
  | confirms r hdoomed hkey =>
    exact hspares.delete r ((delete_step_iff v (.press k) r).mpr ⟨k, rfl, hkey, hdoomed⟩)
  | commands c r hc hselected happlies =>
    cases c with
    | edit => exact hspares.edit r (hact rfl hc hselected)
    | delete =>
      have hdoomed : (v.press k).2.doomed = some r :=
        (doomed_step_iff v (.press k) r).mpr (.inr ⟨k, rfl, hc, hselected⟩)
      rw [hspares.question] at hdoomed
      cases hdoomed
    | publish =>
      obtain ⟨o, rfl⟩ := happlies
      exact hspares.publish o (hact rfl hc hselected)
    | retire =>
      obtain ⟨o, rfl⟩ := happlies
      exact hspares.retire o (hact rfl hc hselected)

theorem spares_of_not_reaches (h : ¬ v.Reaches k) : v.Spares k := by
  have hact {a : ViewerAction} {c : RowCommand} {r : CatalogRecord} (ha : a.command? = some (c, r))
      (happlies : c.AppliesTo r) : (v.press k).1 ≠ a := by
    intro heq
    obtain ⟨_, ⟨⟩, hc, hselected⟩ := (action_step_iff v (.press k) ha).mp heq
    exact h (.commands c r hc hselected happlies)
  refine ⟨fun r => hact rfl trivial, fun r heq => ?_, fun o => hact rfl ⟨o, rfl⟩,
    fun o => hact rfl ⟨o, rfl⟩, Option.eq_none_iff_forall_ne_some.mpr fun r heq => ?_⟩
  · obtain ⟨_, ⟨⟩, hkey, hdoomed⟩ := (delete_step_iff v (.press k) r).mp heq
    exact h (.confirms r hdoomed hkey)
  · obtain ⟨hquiet, -⟩ | ⟨_, ⟨⟩, hc, hselected⟩ := (doomed_step_iff v (.press k) r).mp heq
    · cases hquiet
    · exact h (.commands .delete r hc hselected trivial)

theorem spares_iff (v : Viewer) (k : Key) : v.Spares k ↔ ¬ v.Reaches k :=
  ⟨fun hspares h => h.not_spares hspares, spares_of_not_reaches⟩

/-- A key with Control held leaves the records alone exactly if it does without. -/
theorem spares_control_iff (v : Viewer) (k : Key) :
    v.Spares { k with control := true } ↔ ¬ v.Reaches { k with control := false } := by
  rw [spares_iff]
  exact not_congr ⟨fun h => h.withControl false, fun h => h.withControl true⟩

/-- The key for listing the options anew in the builder, here with an offering selected. -/
theorem not_spares_controlR :
    ¬ ((new 10 10).after
        [.choose .offerings, .apply .offerings (.ok (.offerings [{ (default : Offering) with
          id := "o1", name := "Fiber 500", status := .published }]))]).Spares
      { code := .char 'r', control := true } := by
  intro h
  refine h.retire { (default : Offering) with
    id := "o1", name := "Fiber 500", status := .published } ?_
  decide +kernel

end Viewer

end CatalogDesk
