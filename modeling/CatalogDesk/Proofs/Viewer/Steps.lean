import CatalogDesk.Proofs.Screen.Fields
import CatalogDesk.Proofs.Table.Bounds
import CatalogDesk.Screen.Viewer

/-! # Runs of the viewer

    A run of the viewer is a sequence of inputs: keys, collections that are gone to, reloads,
    and listings that come back, in any order.

    A key is one of four things (`Pressed`): the answer to the question whether to delete, a
    key for the search field (`Typed`), a command for the selected row, or a move that concerns
    no row more than another (`Moves`).  What a run does to the viewer is told from these.

    No input does more to a table than the operations of tables (`Operated`), so what holds of
    all tables holds of those of the viewer: `maintained_after`. -/

namespace CatalogDesk

variable {α : Type}

/-- What can happen to the viewer. -/
inductive ViewerInput
  | press (k : Key)
  | choose (c : Collection)
  | reload
  | setLoading (c : Collection)
  | apply (c : Collection) (listed : Except Failure CatalogRecords)

namespace Viewer

def step (v : Viewer) : ViewerInput → ViewerAction × Viewer
  | .press k => v.press k
  | .choose c => v.choose c
  | .reload => v.reload
  | .setLoading c => (.none, v.setLoading c)
  | .apply c listed => (.none, v.apply c listed)

def after (v : Viewer) (inputs : List ViewerInput) : Viewer :=
  inputs.foldl (fun v i => (v.step i).2) v

theorem after_concat (v : Viewer) (inputs : List ViewerInput) (i : ViewerInput) :
    v.after (inputs ++ [i]) = ((v.after inputs).step i).2 := by
  rw [after, List.foldl_append]
  rfl

end Viewer

/-! ## Commands for the selected row -/

/-- What is asked of the selected row. -/
inductive RowCommand
  | edit
  | delete
  | publish
  | retire
  deriving DecidableEq

def CatalogRecord.offering? : CatalogRecord → Option Offering
  | .offering o => some o
  | _ => none

/-- What a command does with a record.  A deletion has to be confirmed first, and only
    offerings are published and retired. -/
def RowCommand.action : RowCommand → CatalogRecord → ViewerAction
  | .edit, r => .edit r
  | .delete, _ => .none
  | .publish, r => r.offering?.elim .none .publish
  | .retire, r => r.offering?.elim .none .retire

def KeyCode.rowCommand? : KeyCode → Option RowCommand
  | .char 'e' | .enter => some .edit
  | .char 'd' | .delete => some .delete
  | .char 'p' => some .publish
  | .char 'r' => some .retire
  | _ => none

/-- Does the key confirm a deletion? -/
def Key.confirms (k : Key) : Bool := k.code == .char 'y' || k.code == .char 'Y'

namespace Viewer

variable {v : Viewer} {k : Key}

/-- Carries out a command; a record that is to be deleted waits for the confirmation. -/
def carryOut (v : Viewer) (c : RowCommand) : ViewerAction × Viewer :=
  (v.selected?.elim .none c.action,
    { v with doomed := if c = .delete then v.selected? else v.doomed })

theorem selectedOffering?_eq (v : Viewer) :
    v.selectedOffering? = v.selected?.bind CatalogRecord.offering? := by
  unfold selectedOffering? selected?
  cases v.active with
  | characteristics => cases v.characteristics.selected? <;> rfl
  | specifications => cases v.specifications.selected? <;> rfl
  | prices => cases v.prices.selected? <;> rfl
  | offerings => cases v.offerings.selected? <;> rfl

theorem pressTable_of_rowCommand {c : RowCommand} (h : k.code.rowCommand? = some c) :
    v.pressTable k = v.carryOut c := by
  unfold KeyCode.rowCommand? at h
  split at h
  -- to edit and to delete, by two keys each
  iterate 4
    rename_i hcode
    cases h
    simp only [pressTable, hcode, carryOut]
    cases v.selected? <;> rfl
  -- to publish and to retire, which takes an offering
  iterate 2
    rename_i hcode
    cases h
    simp only [pressTable, hcode, carryOut, selectedOffering?_eq]
    cases v.selected? with
    | none => rfl
    | some r => cases r <;> rfl
  · cases h

/-! ## Moves -/

end Viewer

/-- Another page, row or order of the same rows. -/
structure Table.Turned (t t' : Table α) : Prop where
  operation : ∃ i, t' = t.step i
  search : t'.search = t.search

theorem Table.search_setPage (t : Table α) (page : Nat) : (t.setPage page).search = t.search := by
  simp only [setPage]
  split <;> rfl

theorem Table.search_selectNext (t : Table α) : t.selectNext.search = t.search := by
  simp only [selectNext]
  split <;> rfl

theorem Table.search_toggleSort (t : Table α) (column : Nat) :
    (t.toggleSort column).search = t.search := by
  simp only [toggleSort]
  split <;> rfl

namespace Viewer

/-- What a key does that concerns no row more than another. -/
inductive Moves (v : Viewer) : ViewerAction × Viewer → Prop
  | stay : v.Moves (.none, v)
  | turn (f : {α : Type} → Table α → Table α) (hf : ∀ {α : Type} (t : Table α), t.Turned (f t)) :
      v.Moves (.none, v.changeTable v.active f)
  | choose (c : Collection) : v.Moves (v.choose c)
  | search : v.Moves (.none, { v with searching := true, search := v.search.setFocused true })
  | reload : v.Moves v.reload

variable {v : Viewer} {k : Key}

theorem moves_chooseNumber (v : Viewer) (i : Nat) : v.Moves (v.chooseNumber i) := by
  unfold chooseNumber
  split
  · exact .choose _
  · exact .stay

theorem moves_pressTable (h : k.code.rowCommand? = none) : v.Moves (v.pressTable k) := by
  have hpage (page : {α : Type} → Table α → Nat) :
      v.Moves (.none, v.changeTable v.active fun t => t.setPage (page t)) :=
    .turn _ fun t => ⟨⟨.setPage (page t), rfl⟩, t.search_setPage _⟩
  have hnext : v.Moves (.none, v.changeTable v.active fun t => t.selectNext) :=
    .turn _ fun t => ⟨⟨.selectNext, rfl⟩, t.search_selectNext⟩
  have hprev : v.Moves (.none, v.changeTable v.active fun t => t.selectPrev) :=
    .turn _ fun t => ⟨⟨.selectPrev, rfl⟩, rfl⟩
  unfold pressTable
  simp only
  split
  -- the collections
  · exact v.moves_chooseNumber _
  · exact v.moves_chooseNumber _
  -- the selection
  · exact hprev
  · exact hprev
  · exact hnext
  · exact hnext
  -- the pages
  · exact hpage (·.page - 1)
  · exact hpage (·.page - 1)
  · exact hpage (·.page + 1)
  · exact hpage (·.page + 1)
  · exact hpage fun _ => 1
  · exact hpage (·.totalPages)
  -- the search field, and the table anew
  · exact .search
  · exact .reload
  -- the commands for the selected row
  iterate 6
    rename_i hcode
    rw [hcode] at h
    cases h
  · split
    · exact .turn _ fun t => ⟨⟨.toggleSort _, rfl⟩, t.search_toggleSort _⟩
    · exact .stay

/-! ## The search field -/

/-- What a key does that goes to the search field: the field keeps its text, or the active
    table is searched for the new one. -/
inductive Typed (v : Viewer) : Viewer → Prop
  | keeps (search : TextField) (searching : Bool) (h : search.value = v.search.value) :
      v.Typed { v with search, searching }
  | searches (search : TextField) :
      v.Typed ({ v with search }.changeTable v.active (·.setSearch search.value))

theorem typed_pressSearch (v : Viewer) (k : Key) : v.Typed (v.pressSearch k) := by
  unfold pressSearch
  split
  iterate 3 exact .keeps _ false rfl
  · simp only
    split
    · exact .searches _
    · rename_i hsame
      exact .keeps _ v.searching (v.search.value_press (Bool.eq_false_iff.mpr hsame))

/-! ## Keys -/

/-- The key is a command for the selected row: no deletion waits for the key, it does not go to
    the search field, and Alt is not held. -/
structure Commands (v : Viewer) (k : Key) (c : RowCommand) : Prop where
  code : k.code.rowCommand? = some c
  free : v.doomed = none
  outside : v.searching = false
  plain : k.alt = false

/-- What a key is to the viewer, and what comes of it. -/
inductive Pressed (v : Viewer) (k : Key) : Prop
  | decides (r : CatalogRecord) (hdoomed : v.doomed = some r) (hnone : ∀ c, ¬ v.Commands k c)
      (h : v.press k = (if k.confirms then .delete r else .none, { v with doomed := none }))
  | types (hdoomed : v.doomed = none) (hnone : ∀ c, ¬ v.Commands k c)
      (h : v.press k = (.none, v.pressSearch k))
  | commands (c : RowCommand) (hc : v.Commands k c) (h : v.press k = v.carryOut c)
  | moves (hdoomed : v.doomed = none) (hnone : ∀ c, ¬ v.Commands k c) (h : v.Moves (v.press k))

theorem pressed (v : Viewer) (k : Key) : v.Pressed k := by
  cases hdoomed : v.doomed with
  | some r =>
    refine .decides r hdoomed (fun c hc => ?_) ?_
    · rw [hc.free] at hdoomed
      cases hdoomed
    · have hkey : (k.code == .char 'y' || k.code == .char 'Y') = k.confirms := rfl
      simp only [press, hdoomed, hkey]
      cases k.confirms <;> rfl
  | none =>
    cases hsearching : v.searching with
    | true =>
      refine .types hdoomed (fun c hc => ?_) ?_
      · rw [hc.outside] at hsearching
        cases hsearching
      · simp only [press, hdoomed, hsearching, if_true]
    | false =>
      cases halt : k.alt with
      | true =>
        refine .moves hdoomed (fun c hc => ?_) ?_
        · rw [hc.plain] at halt
          cases halt
        · unfold press
          rw [hdoomed, hsearching, halt]
          simp only [Bool.false_eq_true, if_false, if_true]
          split
          · exact v.moves_chooseNumber _
          · exact .stay
      | false =>
        have htable : v.press k = v.pressTable k := by
          simp only [press, hdoomed, hsearching, halt, Bool.false_eq_true, if_false]
        cases hcode : k.code.rowCommand? with
        | some c =>
          have hrow := pressTable_of_rowCommand (v := v) hcode
          exact .commands c ⟨hcode, hdoomed, hsearching, halt⟩ (htable.trans hrow)
        | none =>
          refine .moves hdoomed (fun c hc => ?_) ?_
          · rw [hc.code] at hcode
            cases hcode
          · rw [htable]
            exact moves_pressTable hcode

/-! ## What is done to the tables -/

/-- Each table has been operated, or left alone. -/
structure Operated (v v' : Viewer) : Prop where
  characteristics : ∃ inputs, v'.characteristics = v.characteristics.after inputs
  specifications : ∃ inputs, v'.specifications = v.specifications.after inputs
  prices : ∃ inputs, v'.prices = v.prices.after inputs
  offerings : ∃ inputs, v'.offerings = v.offerings.after inputs

theorem operated_self (v : Viewer) : v.Operated v :=
  ⟨⟨[], rfl⟩, ⟨[], rfl⟩, ⟨[], rfl⟩, ⟨[], rfl⟩⟩

theorem Operated.trans {v' v'' : Viewer} (h : v.Operated v') (h' : v'.Operated v'') :
    v.Operated v'' := by
  have hjoin {α : Type} {t t' t'' : Table α} (ht : ∃ inputs, t' = t.after inputs)
      (ht' : ∃ inputs, t'' = t'.after inputs) : ∃ inputs, t'' = t.after inputs := by
    obtain ⟨inputs, rfl⟩ := ht
    obtain ⟨inputs', rfl⟩ := ht'
    exact ⟨inputs ++ inputs', List.foldl_append.symm⟩
  exact ⟨hjoin h.characteristics h'.characteristics, hjoin h.specifications h'.specifications,
    hjoin h.prices h'.prices, hjoin h.offerings h'.offerings⟩

theorem operated_changeTable (v : Viewer) (c : Collection) {f : {α : Type} → Table α → Table α}
    (hf : ∀ {α : Type} (t : Table α), ∃ i, f t = t.step i) : v.Operated (v.changeTable c f) := by
  have hone {α : Type} (t : Table α) : ∃ inputs, f t = t.after inputs := by
    obtain ⟨i, hi⟩ := hf t
    exact ⟨[i], hi⟩
  have hself := v.operated_self
  cases c with
  | characteristics => exact { hself with characteristics := hone _ }
  | specifications => exact { hself with specifications := hone _ }
  | prices => exact { hself with prices := hone _ }
  | offerings => exact { hself with offerings := hone _ }

theorem operated_setLoading (v : Viewer) (c : Collection) : v.Operated (v.setLoading c) :=
  v.operated_changeTable c fun _ => ⟨.setLoading true, rfl⟩

theorem operated_choose (v : Viewer) (c : Collection) : v.Operated (v.choose c).2 := by
  have hload (search : TextField) :=
    operated_setLoading { v with active := c, doomed := none, search } c
  exact ⟨(hload _).characteristics, (hload _).specifications, (hload _).prices,
    (hload _).offerings⟩

theorem operated_apply (v : Viewer) (c : Collection) (listed : Except Failure CatalogRecords) :
    v.Operated (v.apply c listed) := by
  have hself := v.operated_self
  cases listed with
  | error f => exact v.operated_changeTable c fun _ => ⟨.setLoading false, rfl⟩
  | ok records =>
    cases records with
    | characteristics cs => exact { hself with characteristics := ⟨[.setRecords cs], rfl⟩ }
    | specifications ss => exact { hself with specifications := ⟨[.setRecords ss], rfl⟩ }
    | prices ps => exact { hself with prices := ⟨[.setRecords ps], rfl⟩ }
    | offerings os => exact { hself with offerings := ⟨[.setRecords os], rfl⟩ }

theorem Typed.operated {v' : Viewer} (h : v.Typed v') : v.Operated v' := by
  cases h with
  | keeps search searching _ => exact { v.operated_self with }
  | searches search =>
    have hsearch := operated_changeTable { v with search } v.active
      (f := fun t => t.setSearch search.value) fun _ => ⟨.setSearch _, rfl⟩
    exact ⟨hsearch.characteristics, hsearch.specifications, hsearch.prices, hsearch.offerings⟩

theorem Moves.operated {p : ViewerAction × Viewer} (h : v.Moves p) : v.Operated p.2 := by
  cases h with
  | stay => exact v.operated_self
  | turn f hf => exact v.operated_changeTable v.active fun t => (hf t).operation
  | choose c => exact v.operated_choose c
  | search => exact { v.operated_self with }
  | reload => exact v.operated_setLoading v.active

theorem operated_press (v : Viewer) (k : Key) : v.Operated (v.press k).2 := by
  have hself := v.operated_self
  cases v.pressed k with
  | decides r hdoomed hnone h =>
    rw [h]
    exact { hself with }
  | types hdoomed hnone h =>
    rw [h]
    exact (v.typed_pressSearch k).operated
  | commands c hc h =>
    rw [h]
    exact { hself with }
  | moves hdoomed hnone h => exact h.operated

/-- **Step lemma.** No input does more to a table than the operations of tables. -/
theorem operated_step (v : Viewer) (i : ViewerInput) : v.Operated (v.step i).2 := by
  cases i with
  | press k => exact v.operated_press k
  | choose c => exact v.operated_choose c
  | reload => exact v.operated_setLoading v.active
  | setLoading c => exact v.operated_setLoading c
  | apply c listed => exact v.operated_apply c listed

/-- **Run lemma.** -/
theorem operated_after (v : Viewer) (inputs : List ViewerInput) : v.Operated (v.after inputs) := by
  induction inputs generalizing v with
  | nil => exact v.operated_self
  | cons i rest ih => exact (v.operated_step i).trans (ih (v.step i).2)

end Viewer

/-! ## What holds of the tables -/

theorem TableRequest.columns_after (q : TableRequest α) (inputs : List (TableInput α)) :
    (q.after inputs).columns = q.columns ∧ (q.after inputs).encode = q.encode := by
  have hstep (q : TableRequest α) (i : TableInput α) :
      (q.step i).columns = q.columns ∧ (q.step i).encode = q.encode := by
    cases i with
    | toggleSort column =>
      simp only [TableRequest.step]
      split <;> exact ⟨rfl, rfl⟩
    | _ => exact ⟨rfl, rfl⟩
  induction inputs generalizing q with
  | nil => exact ⟨rfl, rfl⟩
  | cons i rest ih =>
    obtain ⟨hcolumns, hencode⟩ := ih (q.step i)
    exact ⟨hcolumns.trans (hstep q i).1, hencode.trans (hstep q i).2⟩

/-- What holds of a table that was new once and has been operated since. -/
structure Table.Maintained (columns : List (Column α)) (encode : α → Json) (t : Table α) :
    Prop where
  columns : t.columns = columns
  encode : t.encode = encode
  request : ∃ q, TableRequest.Follows t q
  placed : Placed t
  pageSize : 1 ≤ t.pageSize

theorem Table.maintained_after (columns : List (Column α)) (encode : α → Json) (pageSize : Nat)
    (message : String) (inputs : List (TableInput α)) :
    Maintained columns encode
      (({ Table.new columns encode pageSize with emptyMessage := message } : Table α).after
        inputs) := by
  have hnew : TableRequest.Follows
      { Table.new columns encode pageSize with emptyMessage := message }
      (TableRequest.new columns encode pageSize) :=
    { TableRequest.follows_new columns encode pageSize with }
  have hafter := hnew.after inputs
  obtain ⟨hcolumns, hencode⟩ :=
    (TableRequest.new columns encode pageSize).columns_after inputs
  refine ⟨hafter.columns.trans hcolumns, hafter.encode.trans hencode, ⟨_, hafter⟩, ?_, ?_⟩
  · exact hnew.placed_after (placed_top (Nat.le_max_left 1 _) rfl) inputs
  · rw [pageSize_after]
    exact Nat.le_max_right pageSize 1

namespace Viewer

/-- What holds of the tables of a viewer. -/
structure Maintained (v : Viewer) : Prop where
  characteristics : v.characteristics.Maintained characteristicColumns Characteristic.encode
  specifications : v.specifications.Maintained specificationColumns Specification.encode
  prices : v.prices.Maintained priceColumns Price.encode
  offerings : v.offerings.Maintained offeringColumns Offering.encode

theorem maintained_after (pageSize offeringPageSize : Nat) (inputs : List ViewerInput) :
    ((new pageSize offeringPageSize).after inputs).Maintained := by
  obtain ⟨⟨cs, hcs⟩, ⟨ss, hss⟩, ⟨ps, hps⟩, ⟨os, hos⟩⟩ :=
    (new pageSize offeringPageSize).operated_after inputs
  constructor
  · rw [hcs]
    exact Table.maintained_after _ _ pageSize _ cs
  · rw [hss]
    exact Table.maintained_after _ _ pageSize _ ss
  · rw [hps]
    exact Table.maintained_after _ _ pageSize _ ps
  · rw [hos]
    exact Table.maintained_after _ _ offeringPageSize _ os

end Viewer

end CatalogDesk
