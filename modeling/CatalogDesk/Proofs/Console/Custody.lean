import CatalogDesk.Proofs.Console.Watches
import CatalogDesk.Proofs.Publish.Holding
import Mathlib.Data.List.Nodup
import Mathlib.Data.List.Perm.Basic

/-! # The custody of watches

    A watch lives as long as somebody holds its handle.  A handle is given to a job, or to
    the console itself; it travels through the outcome of the job and the queue of outcomes;
    and the console keeps it until it sees that the watch has finished.  Any of these could
    let go of it by mistake, and the watch would stop without a word.

    A *custody* follows a run of the console with its jobs, the outcomes that it has not
    taken, and the watcher.  After every event, each handle that nobody holds any more is
    dropped (`letGo`).  Main result: `custody_sound` says that no watch is ever stopped in
    this way, in whatever order the events come: it is held until it has come to an end, and
    once it has, the next tick removes it.  The custody ends with the program, so there is no
    event for that.

    What carries the proof is that all handles together, wherever they are, are those that
    `WatchRun.Holds` speaks of: an event only moves them from one place to another, adds one
    that was just accepted, or removes one that has finished. -/

namespace CatalogDesk

/-! ## Events -/

/-- A job under way, with the watches that it was given. -/
structure Errand where
  work : Work Outcome
  held : List Nat := []

/-- What can happen. -/
inductive CustodyEvent
  /-- The first screen is opened. -/
  | start (s : SessionContext)
  | press (around : Surroundings) (k : Key)
  /-- The session has changed. -/
  | hear (e : SessionEvent)
  | display (t : Toast)
  | tick (wall : Int)
  /-- A bell rings for the edits of the filters. -/
  | ring (now : Nat)
  /-- The console takes an outcome that waits. -/
  | take (place : Nat) (s : SessionContext)
  /-- A job goes on, with the answer to what it has sent. -/
  | work (place : Nat) (reply : Reply) (replies : Except Failure (Answer × Answer))
  /-- The task of a watch has its turn. -/
  | turn (handle : Nat) (t : WatchTurn)

/-- Can the event remove what the console keeps, or what waits? -/
def CustodyEvent.removes : CustodyEvent → Bool
  | .tick _ => true
  | .take _ _ => true
  | _ => false

/-- The console, and all that it has set going. -/
structure Custody where
  console : Console
  run : WatchRun
  errands : List Errand := []
  /-- Outcomes that the console has not taken yet. -/
  outcomes : List Outcome := []

namespace Custody

/-- The watches on their way to the console. -/
def underWay (l : Custody) : List Nat :=
  l.outcomes.flatMap Outcome.watches

/-- All watches that somebody holds. -/
def held (l : Custody) : List Nat :=
  l.console.watches ++ l.underWay ++ l.errands.flatMap Errand.held

/-- A job goes on until it waits or has come to its outcome. -/
def goOn (l : Custody) (held : List Nat) : Work Outcome → Custody
  | .done o => { l with outcomes := l.outcomes ++ [o] }
  | .send r k => { l with errands := l.errands ++ [⟨.send r k, held⟩] }
  | .sendBoth r₁ r₂ v₁ v₂ k =>
    { l with errands := l.errands ++ [⟨.sendBoth r₁ r₂ v₁ v₂ k, held⟩] }
  | .toast _ k => l.goOn held k
  | .login _ username k => l.goOn held (k { username })
  | .watch id k =>
    match l.run.watcher.watch id with
    | .error e => l.goOn held (k (.error e))
    | .ok (handle, _) => { l with run := l.run.watch id }.goOn (held ++ [handle]) (k (.ok handle))

/-- Carries out an order, as far as watches are concerned. -/
def carryOut (l : Custody) : Order → Custody
  | .job j => { l with errands := l.errands ++ [⟨j.work, []⟩] }
  | .watch id =>
    match l.run.watcher.watch id with
    | .error _ => l
    | .ok (handle, _) => { l with run := l.run.watch id, console := l.console.keep [handle] }
  | .toast _ => l
  | .logout => l
  | .remind _ => l

/-- The console after a step, with its orders carried out. -/
def follow (l : Custody) (p : List Order × Console) : Custody :=
  p.1.foldl carryOut { l with console := p.2 }

/-- The bell of the filters: an edit that is due becomes an outcome. -/
def ring (l : Custody) (now : Nat) : Custody :=
  let (edit, edits) := l.console.edits.deliver now
  { l with
    console := { l.console with edits }
    outcomes := l.outcomes ++ edit.toList.map .settled }

def take (l : Custody) (place : Nat) (s : SessionContext) : Custody :=
  match l.outcomes[place]? with
  | none => l
  | some o => { l with outcomes := l.outcomes.eraseIdx place }.follow (l.console.take s o)

def work (l : Custody) (place : Nat) (reply : Reply) (replies : Except Failure (Answer × Answer)) :
    Custody :=
  match l.errands[place]? with
  | none => l
  | some e =>
    let l := { l with errands := l.errands.eraseIdx place }
    match e.work with
    | .send _ k => l.goOn e.held (k reply)
    | .sendBoth _ _ _ _ k => l.goOn e.held (k replies)
    | w => l.goOn e.held w

/-- What a watch reports becomes an outcome. -/
def turn (l : Custody) (handle : Nat) (t : WatchTurn) : Custody :=
  let run := l.run.turn handle t
  { l with
    run
    outcomes := l.outcomes ++ (run.reports.drop l.run.reports.length).map fun p => .published p.2 }

def act (l : Custody) : CustodyEvent → Custody
  | .start s => l.follow (l.console.start s)
  | .press around k => l.follow (l.console.press around k)
  | .hear e => l.follow (l.console.hear e)
  | .display t => { l with console := l.console.display t }
  | .tick wall => { l with console := l.console.tick l.run.watcher wall }
  | .ring now => l.ring now
  | .take place s => l.take place s
  | .work place reply replies => l.work place reply replies
  | .turn handle t => l.turn handle t

/-- Drops the handle of every watch that nobody holds any more. -/
def letGo (l : Custody) : Custody :=
  { l with
    run := ((List.range l.run.watcher.watches.length).filter (!l.held.contains ·)).foldl
      (fun run handle => run.step (.drop handle)) l.run }

def step (l : Custody) (e : CustodyEvent) : Custody :=
  (l.act e).letGo

def after (l : Custody) (events : List CustodyEvent) : Custody :=
  events.foldl step l

/-- The console at its start, with the watcher that the settings ask for. -/
def new (settings : Settings) (remembered : Remembered) : Custody where
  console := .new settings remembered
  run := { watcher := { interval := settings.publish.interval,
                        maxAttempts := settings.publish.maxAttempts } }

/-! ## What holds after a run -/

/-- What holds of all watches that were accepted, whatever happened before and whatever
    happens next. -/
structure Sound (l : Custody) : Prop where
  /-- No watch was told to stop. -/
  untold : l.run.stopping = []
  /-- A watch has come to an end, or its task is still there and its handle is in one place,
      which is the console or an outcome that was not taken. -/
  held : ∀ handle x, l.run.watcher.watches[handle]? = some x →
    x.state.IsEnd ∨
      (x.phase ≠ .ended ∧ (l.console.watches ++ l.underWay).count handle = 1)
  /-- A watch that the console keeps has finished if and only if it has come to an end. -/
  finished : ∀ handle ∈ l.console.watches, (l.run.watcher.isFinished handle = true ↔
    ∃ x, l.run.watcher.watches[handle]? = some x ∧ x.state.IsEnd)
  /-- No job waits with a watch at hand. -/
  errands : ∀ e ∈ l.errands, e.held = []
  /-- What the console keeps it keeps, unless the watch has finished. -/
  keeps : ∀ e, ∀ handle ∈ l.console.watches, l.run.watcher.isFinished handle = false →
    handle ∈ (l.step e).console.watches
  /-- An outcome that waits goes on waiting until it is taken, and then the console keeps
      what it brings. -/
  waits : ∀ e, (∀ place s, e ≠ .take place s) → ∀ o ∈ l.outcomes, o ∈ (l.step e).outcomes
  takes : ∀ place s o, l.outcomes[place]? = some o →
    ∀ handle ∈ o.watches, handle ∈ (l.step (.take place s)).console.watches
  /-- A tick removes what has finished, and nothing else. -/
  tick : ∀ wall, (l.step (.tick wall)).console.watches =
    l.console.watches.filter fun handle => !l.run.watcher.isFinished handle

/-- No job waits with a watch at hand, and each will bring what it is given. -/
def Idle (errands : List Errand) : Prop :=
  ∀ e ∈ errands, e.held = [] ∧ e.work.Delivers Outcome.watches []

/-- The invariant that every event preserves. -/
structure Kept (l : Custody) : Prop where
  holds : l.run.Holds l.held
  idle : Idle l.errands

variable {l : Custody}

/-- What is taken from its place is all that is missing afterwards. -/
theorem perm_cons_eraseIdx {α : Type} {items : List α} {place : Nat} {x : α}
    (h : items[place]? = some x) : items.Perm (x :: items.eraseIdx place) := by
  obtain ⟨hlt, hget⟩ := List.getElem?_eq_some_iff.mp h
  rw [← hget]
  exact (List.getElem_cons_eraseIdx_perm hlt).symm

/-! ### Orders -/

/-- One more job under way, with nothing at hand. -/
theorem kept_errand (h : l.Kept) {w : Work Outcome} (hw : w.Delivers Outcome.watches []) :
    Kept { l with errands := l.errands ++ [⟨w, []⟩] } := by
  constructor
  · show l.run.Holds (l.console.watches ++ l.underWay ++
      (l.errands ++ [({ work := w } : Errand)]).flatMap Errand.held)
    rw [List.flatMap_append, List.flatMap_singleton, List.append_nil]
    exact h.holds
  · intro e he
    rcases List.mem_append.mp he with hold | hnew
    · exact h.idle e hold
    · obtain rfl := List.mem_singleton.mp hnew
      exact ⟨rfl, hw⟩

theorem kept_carryOut (h : l.Kept) (order : Order) : (l.carryOut order).Kept := by
  cases order with
  | job j => exact kept_errand h (delivers_job j)
  | watch id =>
    unfold carryOut
    dsimp only
    split
    · exact h
    · rename_i handle watcher accepts
      -- the console keeps the new handle behind those that it has
      have hlast : (l.underWay ++ l.errands.flatMap Errand.held ++ [handle]).Perm
          ([handle] ++ (l.underWay ++ l.errands.flatMap Errand.held)) := List.perm_append_comm
      refine ⟨(h.holds.watch accepts).perm ?_, h.idle⟩
      show (l.console.watches ++ l.underWay ++ l.errands.flatMap Errand.held ++ [handle]).Perm
        (l.console.watches ++ [handle] ++ l.underWay ++ l.errands.flatMap Errand.held)
      simp only [List.append_assoc] at hlast ⊢
      exact hlast.append_left _
  | toast t => exact h
  | logout => exact h
  | remind delay => exact h

theorem kept_foldl_carryOut (h : l.Kept) (orders : List Order) :
    (orders.foldl carryOut l).Kept := by
  induction orders generalizing l with
  | nil => exact h
  | cons order orders ih => exact ih (kept_carryOut h order)

/-- A step of the console, by what it keeps after it. -/
theorem kept_follow {p : List Order × Console}
    (hholds : l.run.Holds (p.2.watches ++ l.underWay ++ l.errands.flatMap Errand.held))
    (hidle : Idle l.errands) : (l.follow p).Kept := by
  have hstep : Kept { l with console := p.2 } := ⟨hholds, hidle⟩
  exact kept_foldl_carryOut hstep p.1

theorem kept_follow_same (h : l.Kept) {p : List Order × Console}
    (hsame : p.2.watches = l.console.watches) : (l.follow p).Kept :=
  kept_follow (hsame ▸ h.holds) h.idle

/-! ### Outcomes -/

/-- Outcomes that bring no watches. -/
theorem kept_queue (h : l.Kept) {outcomes : List Outcome} (hnone : ∀ o ∈ outcomes, o.watches = []) :
    Kept { l with outcomes := l.outcomes ++ outcomes } := by
  have hnothing : outcomes.flatMap Outcome.watches = [] := List.flatMap_eq_nil_iff.mpr hnone
  refine ⟨?_, h.idle⟩
  show l.run.Holds (l.console.watches ++ (l.outcomes ++ outcomes).flatMap Outcome.watches ++
    l.errands.flatMap Errand.held)
  rw [List.flatMap_append, hnothing, List.append_nil]
  exact h.holds

/-- An outcome leaves the queue, and what it brings goes to the console. -/
theorem kept_take (h : l.Kept) (place : Nat) (s : SessionContext) : (l.take place s).Kept := by
  unfold take
  split
  · exact h
  · rename_i o ho
    have hqueue := perm_cons_eraseIdx ho
    -- what the outcome brings leaves the queue and stands behind what the console has
    have hmoved : l.held.Perm ((l.console.take s o).2.watches ++
        (l.outcomes.eraseIdx place).flatMap Outcome.watches ++ l.errands.flatMap Errand.held) := by
      rw [l.console.watches_take s o, List.append_assoc l.console.watches o.watches]
      exact ((hqueue.flatMap_right Outcome.watches).append_left _).append_right _
    exact kept_follow (h.holds.perm hmoved) h.idle

/-! ### Jobs -/

/-- A job that brings what it is given comes to an outcome with it, or waits with nothing. -/
theorem kept_goOn {w : Work Outcome} {inHand : List Nat} (hidle : Idle l.errands)
    (hholds : l.run.Holds (l.held ++ inHand)) (hw : w.Delivers Outcome.watches inHand) :
    (l.goOn inHand w).Kept := by
  -- the job is followed to its next request, where nothing may be at hand, or to its outcome
  induction hw generalizing l with
  | @done inHand o brings =>
    refine ⟨hholds.perm ?_, hidle⟩
    show (l.console.watches ++ l.outcomes.flatMap Outcome.watches ++
        l.errands.flatMap Errand.held ++ inHand).Perm
      (l.console.watches ++ (l.outcomes ++ [o]).flatMap Outcome.watches ++
        l.errands.flatMap Errand.held)
    rw [List.flatMap_append, List.flatMap_singleton, brings]
    simp only [List.append_assoc, List.perm_append_left_iff]
    exact List.perm_append_comm
  | send next ih =>
    rw [List.append_nil] at hholds
    exact kept_errand ⟨hholds, hidle⟩ (.send next)
  | sendBoth next ih =>
    rw [List.append_nil] at hholds
    exact kept_errand ⟨hholds, hidle⟩ (.sendBoth next)
  | toast next ih => exact ih hidle hholds
  | login next ih => exact ih _ hidle hholds
  | watch refused given ihRefused ihGiven =>
    -- a watch that is given is at hand from now on
    unfold goOn
    split
    · exact ihRefused _ hidle hholds
    · rename_i handle watcher accepts
      have hgiven := hholds.watch accepts
      rw [List.append_assoc] at hgiven
      exact ihGiven handle hidle hgiven

theorem kept_work (h : l.Kept) (place : Nat) (reply : Reply)
    (replies : Except Failure (Answer × Answer)) : (l.work place reply replies).Kept := by
  unfold work
  split
  · exact h
  · rename_i e he
    have hperm := perm_cons_eraseIdx he
    obtain ⟨hnone, hdelivers⟩ := h.idle e (List.mem_of_getElem? he)
    have hidle : Idle (l.errands.eraseIdx place) := fun e' he' =>
      h.idle e' (hperm.mem_iff.mpr (List.mem_cons_of_mem e he'))
    have hholds : l.run.Holds (l.console.watches ++ l.underWay ++
        (l.errands.eraseIdx place).flatMap Errand.held ++ e.held) := by
      refine h.holds.perm ?_
      have hheld := hperm.flatMap_right Errand.held
      rw [List.append_assoc]
      exact (hheld.trans List.perm_append_comm).append_left _
    -- what was sent is answered, or else the job has not begun yet
    obtain ⟨w, held⟩ := e
    obtain rfl : held = [] := hnone
    cases hdelivers with
    | send next => exact kept_goOn hidle hholds (next reply)
    | sendBoth next => exact kept_goOn hidle hholds (next replies)
    | done brings => exact kept_goOn hidle hholds (.done brings)
    | toast next => exact kept_goOn hidle hholds (.toast next)
    | login next => exact kept_goOn hidle hholds (.login next)
    | watch refused given => exact kept_goOn hidle hholds (.watch refused given)

/-! ### Watches -/

theorem kept_turn (h : l.Kept) (handle : Nat) (t : WatchTurn) : (l.turn handle t).Kept := by
  have hturned : Kept { l with run := l.run.turn handle t } := ⟨h.holds.turn handle t, h.idle⟩
  refine kept_queue hturned fun o ho => ?_
  obtain ⟨p, -, rfl⟩ := List.mem_map.mp ho
  rfl

/-- What a tick removes has finished. -/
theorem kept_tick (h : l.Kept) (wall : Int) :
    Kept { l with console := l.console.tick l.run.watcher wall } := by
  refine ⟨h.holds.sublist ?_ ?_, h.idle⟩
  · exact ((List.filter_sublist).append_right _).append_right _
  · intro handle hmem hlive
    rcases List.mem_append.mp hmem with hmem | herrand
    · rcases List.mem_append.mp hmem with hkept | hunderWay
      · refine List.mem_append_left _ (List.mem_append_left _ ?_)
        exact List.mem_filter.mpr ⟨hkept, by rw [hlive]; rfl⟩
      · exact List.mem_append_left _ (List.mem_append_right _ hunderWay)
    · exact List.mem_append_right _ herrand

/-! ### Events -/

theorem kept_act (h : l.Kept) (e : CustodyEvent) : (l.act e).Kept := by
  cases e with
  | start s => exact kept_follow_same h (l.console.watches_navigate s l.console.route)
  | press around k => exact kept_follow_same h (l.console.watches_press around k)
  | hear e => exact kept_follow_same h (l.console.watches_hear e)
  | display t => exact ⟨h.holds, h.idle⟩
  | tick wall => exact kept_tick h wall
  | ring now =>
    have hheard : Kept { l with
        console := { l.console with edits := (l.console.edits.deliver now).2 } } :=
      ⟨h.holds, h.idle⟩
    refine kept_queue hheard fun o ho => ?_
    obtain ⟨f, -, rfl⟩ := List.mem_map.mp ho
    rfl
  | take place s => exact kept_take h place s
  | work place reply replies => exact kept_work h place reply replies
  | turn handle t => exact kept_turn h handle t

/-- Nobody has let go of a watch that still polls, so nothing is dropped. -/
theorem Kept.letGo_eq (h : l.Kept) : l.letGo = l := by
  unfold letGo
  rw [h.holds.foldl_drop]
  intro handle hmem hheld
  have hgone := (List.mem_filter.mp hmem).2
  rw [List.contains_iff_mem.mpr hheld] at hgone
  cases hgone

theorem Kept.step_eq (h : l.Kept) (e : CustodyEvent) : l.step e = l.act e :=
  (kept_act h e).letGo_eq

/-- **Step lemma.** -/
theorem kept_step (h : l.Kept) (e : CustodyEvent) : (l.step e).Kept := by
  rw [h.step_eq e]
  exact kept_act h e

theorem kept_new (settings : Settings) (remembered : Remembered) :
    (new settings remembered).Kept where
  holds := WatchRun.holds_start settings.publish.interval settings.publish.maxAttempts
  idle _ he := absurd he List.not_mem_nil

/-- **Run lemma.** -/
theorem kept_after (h : l.Kept) (events : List CustodyEvent) : (l.after events).Kept := by
  induction events generalizing l with
  | nil => exact h
  | cons e events ih => exact ih (kept_step h e)

/-! ### What stays where it is -/

/-- The console still keeps these watches, and these outcomes still wait. -/
structure Still (l : Custody) (watches : List Nat) (outcomes : List Outcome) : Prop where
  watches : ∀ handle ∈ watches, handle ∈ l.console.watches
  outcomes : ∀ o ∈ outcomes, o ∈ l.outcomes

variable {watches : List Nat} {outcomes : List Outcome}

theorem still_self (l : Custody) : l.Still l.console.watches l.outcomes :=
  ⟨fun _ hmem => hmem, fun _ ho => ho⟩

theorem still_carryOut (h : l.Still watches outcomes) (order : Order) :
    (l.carryOut order).Still watches outcomes := by
  cases order with
  | watch id =>
    unfold carryOut
    dsimp only
    split
    · exact h
    · exact ⟨fun handle hmem => List.mem_append_left _ (h.watches handle hmem), h.outcomes⟩
  | _ => exact ⟨h.watches, h.outcomes⟩

theorem still_follow {p : List Order × Console}
    (hwatches : ∀ handle ∈ watches, handle ∈ p.2.watches)
    (houtcomes : ∀ o ∈ outcomes, o ∈ l.outcomes) : (l.follow p).Still watches outcomes := by
  have horders : ∀ (orders : List Order) (l : Custody), l.Still watches outcomes →
      (orders.foldl carryOut l).Still watches outcomes := by
    intro orders
    induction orders with
    | nil => exact fun _ h => h
    | cons order orders ih => exact fun _ h => ih _ (still_carryOut h order)
  exact horders p.1 { l with console := p.2 } ⟨hwatches, houtcomes⟩

theorem still_goOn (h : l.Still watches outcomes) (inHand : List Nat) (w : Work Outcome) :
    (l.goOn inHand w).Still watches outcomes := by
  induction w generalizing l inHand with
  | done o => exact ⟨h.watches, fun o ho => List.mem_append_left _ (h.outcomes o ho)⟩
  | send r k ih => exact ⟨h.watches, h.outcomes⟩
  | sendBoth r₁ r₂ v₁ v₂ k ih => exact ⟨h.watches, h.outcomes⟩
  | toast t k ih => exact ih h inHand
  | login token username k ih => exact ih _ h inHand
  | watch id k ih =>
    unfold goOn
    split
    · exact ih _ h inHand
    · have hrun : Still { l with run := l.run.watch id } watches outcomes := ⟨h.watches, h.outcomes⟩
      exact ih _ hrun _

theorem still_work (h : l.Still watches outcomes) (place : Nat) (reply : Reply)
    (replies : Except Failure (Answer × Answer)) :
    (l.work place reply replies).Still watches outcomes := by
  unfold work
  split
  · exact h
  · rename_i e he
    have hrest : Still { l with errands := l.errands.eraseIdx place } watches outcomes :=
      ⟨h.watches, h.outcomes⟩
    dsimp only
    split <;> exact still_goOn hrest _ _

/-- Only what has finished goes from the console, by a tick, and only what is taken goes from
    the queue. -/
theorem still_act (l : Custody) {e : CustodyEvent} (he : e.removes = false) :
    (l.act e).Still l.console.watches l.outcomes := by
  have hself := l.still_self
  cases e with
  | start s =>
    have hsame := l.console.watches_navigate s l.console.route
    exact still_follow (fun _ hmem => hsame.symm ▸ hmem) hself.outcomes
  | press around k =>
    have hsame := l.console.watches_press around k
    exact still_follow (fun _ hmem => hsame.symm ▸ hmem) hself.outcomes
  | hear e =>
    have hsame := l.console.watches_hear e
    exact still_follow (fun _ hmem => hsame.symm ▸ hmem) hself.outcomes
  | display t => exact ⟨hself.watches, hself.outcomes⟩
  | tick wall => cases he
  | ring now => exact ⟨hself.watches, fun o ho => List.mem_append_left _ ho⟩
  | take place s => cases he
  | work place reply replies => exact still_work hself place reply replies
  | turn handle t => exact ⟨hself.watches, fun o ho => List.mem_append_left _ ho⟩

/-- What the taken outcome brings joins what the console keeps. -/
theorem still_take (l : Custody) {place : Nat} {o : Outcome} (ho : l.outcomes[place]? = some o)
    (s : SessionContext) : (l.take place s).Still (l.console.watches ++ o.watches) [] := by
  unfold take
  rw [ho]
  have hbrings := l.console.watches_take s o
  refine still_follow (fun handle hmem => ?_) (List.forall_mem_nil _)
  rw [hbrings]
  exact hmem

/-! ### What follows from it -/

/-- A live watch is held by nobody but the console and the outcomes, since the jobs hold
    nothing while they wait. -/
theorem Kept.held_once (h : l.Kept) {handle : Nat} {x : Watch}
    (found : l.run.watcher.watches[handle]? = some x) :
    x.state.IsEnd ∨
      (x.phase ≠ .ended ∧ (l.console.watches ++ l.underWay).count handle = 1) := by
  rcases h.holds.ripe x (List.mem_of_getElem? found) with hlive | hterminal
  · have hnone : l.errands.flatMap Errand.held = [] :=
      List.flatMap_eq_nil_iff.mpr fun e he => (h.idle e he).1
    have hheld : l.held = l.console.watches ++ l.underWay := by
      rw [held, hnone, List.append_nil]
    have hmem := h.holds.polling handle x.id ⟨x, found, hlive, rfl⟩
    have hnodup := h.holds.nodup
    rw [hheld] at hmem hnodup
    exact .inr ⟨bne_iff_ne.mp hlive, List.count_eq_one_of_mem hnodup hmem⟩
  · exact .inl (x.state.isTerminal_iff.mp hterminal)

theorem Kept.keeps (h : l.Kept) (e : CustodyEvent) {handle : Nat}
    (hmem : handle ∈ l.console.watches) (hlive : l.run.watcher.isFinished handle = false) :
    handle ∈ (l.step e).console.watches := by
  rw [h.step_eq e]
  cases e with
  | tick wall => exact List.mem_filter.mpr ⟨hmem, by rw [hlive]; rfl⟩
  | take place s =>
    show handle ∈ (l.take place s).console.watches
    cases ho : l.outcomes[place]? with
    | none =>
      unfold take
      rw [ho]
      exact hmem
    | some o => exact (l.still_take ho s).watches handle (List.mem_append_left _ hmem)
  | _ => exact (l.still_act rfl).watches handle hmem

theorem Kept.waits (h : l.Kept) {e : CustodyEvent} (htake : ∀ place s, e ≠ .take place s)
    {o : Outcome} (ho : o ∈ l.outcomes) : o ∈ (l.step e).outcomes := by
  rw [h.step_eq e]
  cases e with
  | tick wall => exact ho
  | take place s => exact absurd rfl (htake place s)
  | _ => exact (l.still_act rfl).outcomes o ho

theorem Kept.sound (h : l.Kept) : l.Sound where
  untold := h.holds.untold
  held _ _ := h.held_once
  finished _ hmem :=
    h.holds.isFinished_iff (List.mem_append_left _ (List.mem_append_left _ hmem))
  errands e he := (h.idle e he).1
  keeps e _ := h.keeps e
  waits _ htake _ := h.waits htake
  takes place s o ho handle hmem := by
    rw [h.step_eq (.take place s)]
    exact (l.still_take ho s).watches handle (List.mem_append_right _ hmem)
  tick wall := by
    rw [h.step_eq (.tick wall)]
    rfl

/-- Whatever the settings are and whatever was remembered, and in whatever order keys are
    pressed, sessions end, time passes, answers arrive, watches have their turns and outcomes
    are taken: a watch that was accepted is never stopped by the console or its jobs before it
    has come to an end.  Until then its handle is kept by the console or waits in an outcome,
    and once it has finished the next tick removes it. -/
theorem custody_sound (settings : Settings) (remembered : Remembered) (events : List CustodyEvent) :
    ((new settings remembered).after events).Sound :=
  (kept_after (kept_new settings remembered) events).sound

end Custody

end CatalogDesk
