import CatalogDesk.Task.Work

/-! # The course of background work

    A piece of work is a tree whose branches are what it may be told from outside.  Under
    given circumstances it takes one of its ways to the end.  What it does on this way, and
    the result to which it comes, are its *course*.

    Other modules say what holds of every course, which means under all circumstances: in
    whatever order the replies arrive, and whatever happens in between. -/

namespace CatalogDesk

theorem Answer.isSuccess_iff (answer : Answer) :
    answer.isSuccess = true ↔ 200 ≤ answer.status ∧ answer.status ≤ 299 := by
  simp only [Answer.isSuccess, Bool.and_eq_true, decide_eq_true_eq]
  omega

/-- The client passes on as an answer what has a status of success. -/
theorem Client.outcome_eq_ok_iff {reply : Reply} {answer : Answer} :
    Client.outcome reply = .ok answer ↔ reply = .ok answer ∧ answer.isSuccess = true := by
  cases reply with
  | error f => exact ⟨nofun, fun h => nomatch h.1⟩
  | ok a =>
    unfold Client.outcome
    dsimp only
    split
    · rename_i hsuccess
      constructor
      · rintro ⟨⟩
        exact ⟨rfl, hsuccess⟩
      · exact And.left
    · rename_i hfailing
      constructor
      · exact nofun
      · rintro ⟨⟨⟩, hsuccess⟩
        exact absurd hsuccess hfailing

/-- A step of background work, with what it was told. -/
inductive Deed
  | send (request : Request) (reply : Reply)
  | sendBoth (first second : Request) (replies : Except Failure (Answer × Answer))
  | toast (t : Toast)
  | login (token : Token) (username : String)
  | watch (id : RecordId) (result : Except WatchError Nat)

namespace Deed

/-- The requests that are sent. -/
def requests : Deed → List Request
  | .send r _ => [r]
  | .sendBoth r₁ r₂ _ => [r₁, r₂]
  | _ => []

def toast? : Deed → Option Toast
  | .toast t => some t
  | _ => none

/-- The offering that is to be watched. -/
def watched? : Deed → Option RecordId
  | .watch id _ => some id
  | _ => none

end Deed

/-- What work is told from outside, by the number of its steps so far. -/
structure Circumstances where
  reply : Nat → Reply
  /-- What two requests at once come to. -/
  replies : Nat → Except Failure (Answer × Answer)
  watch : Nat → Except WatchError Nat

/-- The same with the replies as the client passes them on: an answer with a failing status
    is a failure. -/
def Circumstances.vetted (c : Circumstances) : Circumstances :=
  { c with reply := fun n => Client.outcome (c.reply n) }

namespace Work

variable {α β : Type}

/-- What the work does after so many steps, and its result. -/
def course (c : Circumstances) : Nat → Work α → List Deed × α
  | _, .done a => ([], a)
  | n, .send r k =>
    let (deeds, a) := course c (n + 1) (k (c.reply n))
    (.send r (c.reply n) :: deeds, a)
  | n, .sendBoth r₁ r₂ _ _ k =>
    let (deeds, a) := course c (n + 1) (k (c.replies n))
    (.sendBoth r₁ r₂ (c.replies n) :: deeds, a)
  | n, .toast t k =>
    let (deeds, a) := course c (n + 1) k
    (.toast t :: deeds, a)
  | n, .login t username k =>
    let (deeds, a) := course c (n + 1) (k { username })
    (.login t username :: deeds, a)
  | n, .watch id k =>
    let (deeds, a) := course c (n + 1) (k (c.watch n))
    (.watch id (c.watch n) :: deeds, a)

/-- What comes after a piece of work begins where that one ends. -/
theorem course_bind (c : Circumstances) (w : Work α) (f : α → Work β) (n : Nat) :
    (w.bind f).course c n =
      ((w.course c n).1 ++ ((f (w.course c n).2).course c (n + (w.course c n).1.length)).1,
        ((f (w.course c n).2).course c (n + (w.course c n).1.length)).2) := by
  induction w generalizing n with
  | done a => rfl
  | send r k ih => simp [bind, course, ih, Nat.add_assoc, Nat.add_comm 1]
  | sendBoth r₁ r₂ v₁ v₂ k ih => simp [bind, course, ih, Nat.add_assoc, Nat.add_comm 1]
  | toast t k ih => simp [bind, course, ih, Nat.add_assoc, Nat.add_comm 1]
  | login t username k ih => simp [bind, course, ih, Nat.add_assoc, Nat.add_comm 1]
  | watch id k ih => simp [bind, course, ih, Nat.add_assoc, Nat.add_comm 1]

/-- Work whose result is only put into another form. -/
theorem course_bind_done (c : Circumstances) (w : Work α) (f : α → β) (n : Nat) :
    (w.bind fun a => .done (f a)).course c n = ((w.course c n).1, f (w.course c n).2) := by
  rw [course_bind]
  simp [course]

theorem course_showAll (c : Circumstances) (toasts : List Toast) (w : Work α) (n : Nat) :
    (showAll toasts w).course c n =
      (toasts.map .toast ++ (w.course c (n + toasts.length)).1,
        (w.course c (n + toasts.length)).2) := by
  unfold showAll
  induction toasts generalizing n with
  | nil => rfl
  | cons t toasts ih =>
    simp only [List.foldr_cons, course, ih, List.map_cons, List.cons_append, List.length_cons,
      Nat.add_assoc, Nat.add_comm 1]

/-- A request is answered as the circumstances say. -/
theorem reply_of_mem_course {c : Circumstances} {w : Work α} {n : Nat} {r : Request}
    {reply : Reply} (h : .send r reply ∈ (w.course c n).1) : ∃ m, reply = c.reply m := by
  induction w generalizing n with
  | done a => cases h
  | send r' k ih =>
    rcases List.mem_cons.mp h with heq | h
    · cases heq
      exact ⟨n, rfl⟩
    · exact ih _ h
  | sendBoth r₁ r₂ v₁ v₂ k ih =>
    rcases List.mem_cons.mp h with heq | h
    · cases heq
    · exact ih _ h
  | toast t k ih =>
    rcases List.mem_cons.mp h with heq | h
    · cases heq
    · exact ih h
  | login t username k ih =>
    rcases List.mem_cons.mp h with heq | h
    · cases heq
    · exact ih _ h
  | watch id k ih =>
    rcases List.mem_cons.mp h with heq | h
    · cases heq
    · exact ih _ h

/-- Where the client vets the answers, only one with a status of success counts as such. -/
theorem status_of_mem_course {c : Circumstances} {w : Work α} {n : Nat} {r : Request}
    {a : Answer} (h : .send r (.ok a) ∈ (w.course c.vetted n).1) :
    200 ≤ a.status ∧ a.status ≤ 299 := by
  obtain ⟨m, hreply⟩ := reply_of_mem_course h
  have hvetted : Client.outcome (c.reply m) = .ok a := hreply.symm
  exact a.isSuccess_iff.mp (Client.outcome_eq_ok_iff.mp hvetted).2

end Work

end CatalogDesk
