import CatalogDesk.Proofs.Console.Run

/-! # Watches on their way

    A watch is accepted in the background, travels in the outcome of its job, and is kept by
    the console when that outcome is taken.  The lemmas here say that none is left on the way:
    a job carries what it was given to its outcome and waits for nothing in between
    (`delivers_job`), the console keeps what an outcome brings (`watches_take`), and neither
    keys nor changes of the session change what it keeps. -/

namespace CatalogDesk

/-- The watches that an outcome brings. -/
def Outcome.watches : Outcome → List Nat
  | .recordDone _ (.ok watch) => watch.toList
  | _ => []

/-! ## Jobs -/

namespace Work

variable {α β : Type}

/-- Work that is begun with these watches at hand brings them in its result, with those that
    it is given meanwhile, and has none at hand while it waits. -/
inductive Delivers (brought : α → List Nat) : List Nat → Work α → Prop
  | done {held : List Nat} {a : α} (brings : brought a = held) : Delivers brought held (.done a)
  | send {r : Request} {k : Reply → Work α} (next : ∀ reply, Delivers brought [] (k reply)) :
      Delivers brought [] (.send r k)
  | sendBoth {r₁ r₂ : Request} {v₁ v₂ : Answer → Option Failure}
      {k : Except Failure (Answer × Answer) → Work α}
      (next : ∀ replies, Delivers brought [] (k replies)) :
      Delivers brought [] (.sendBoth r₁ r₂ v₁ v₂ k)
  | toast {held : List Nat} {t : Toast} {k : Work α} (next : Delivers brought held k) :
      Delivers brought held (.toast t k)
  | login {held : List Nat} {token : Token} {username : String} {k : User → Work α}
      (next : ∀ user, Delivers brought held (k user)) :
      Delivers brought held (.login token username k)
  | watch {held : List Nat} {id : RecordId} {k : Except WatchError Nat → Work α}
      (refused : ∀ e, Delivers brought held (k (.error e)))
      (given : ∀ handle, Delivers brought (held ++ [handle]) (k (.ok handle))) :
      Delivers brought held (.watch id k)

/-- What comes after a piece of work has at hand what that one brings. -/
theorem Delivers.bind {brought : α → List Nat} {brought' : β → List Nat} {w : Work α}
    {held : List Nat} (h : w.Delivers brought held) {f : α → Work β}
    (hf : ∀ a, (f a).Delivers brought' (brought a)) : (w.bind f).Delivers brought' held := by
  induction h with
  | @done held a brings => exact brings ▸ hf a
  | send next ih => exact .send ih
  | sendBoth next ih => exact .sendBoth ih
  | toast next ih => exact .toast ih
  | login next ih => exact .login ih
  | watch refused given ihRefused ihGiven => exact .watch ihRefused ihGiven

/-- Nothing is brought. -/
def nothing (_ : α) : List Nat := []

end Work

open Work

/-! ### Work without watches -/

section

variable {α β : Type}

theorem delivers_request (r : Request) : (Work.request r).Delivers nothing [] :=
  .send fun _ => .done rfl

theorem delivers_get (path : String) (query : List (String × String))
    (read : Json → Decode.Result α) : (Work.get path query read).Delivers nothing [] :=
  .send fun _ => .done rfl

theorem delivers_getBoth (path₁ : String) (read₁ : Json → Decode.Result α) (path₂ : String)
    (read₂ : Json → Decode.Result β) :
    (Work.getBoth path₁ read₁ path₂ read₂).Delivers nothing [] :=
  .sendBoth fun _ => .done rfl

theorem delivers_delete (path : String) : (Work.delete path).Delivers nothing [] :=
  .send fun _ => .done rfl

theorem delivers_postForm (path : String) (fields : List (String × String))
    (read : Json → Decode.Result α) : (Work.postForm path fields read).Delivers nothing [] :=
  .send fun _ => .done rfl

theorem delivers_save {π : Type} (r : SaveRequest π) (encode : π → Json)
    (read : Json → Decode.Result α) : (r.send encode read).Delivers nothing [] := by
  obtain ⟨mode, collection, payload⟩ := r
  cases mode with
  | create => exact .send fun _ => .done rfl
  | edit id => exact .send fun _ => .done rfl

end

theorem delivers_login (c : Credentials) : c.login.Delivers nothing [] := by
  unfold Credentials.login
  split
  · exact .done rfl
  · refine (delivers_postForm _ _ _).bind fun grant => ?_
    cases grant with
    | error f => exact .done rfl
    | ok grant =>
      dsimp only
      split
      · exact .done rfl
      · exact .login fun _ => .done rfl

theorem delivers_sendPublish (r : SaveRequest OfferingDraft) :
    (OfferingForm.sendPublish r).Delivers nothing [] := by
  refine (delivers_save r _ _).bind fun result => ?_
  cases result with
  | error failure => exact .done rfl
  | ok saved =>
    refine (delivers_request _).bind fun reply => ?_
    cases reply with
    | error failure => exact .done rfl
    | ok answer => exact .done rfl

theorem delivers_list (c : Collection) : c.list.Delivers nothing [] := by
  refine (delivers_get _ _ _).bind fun result => ?_
  cases result with
  | error f => exact .toast (.done rfl)
  | ok records => exact .done rfl

theorem delivers_search (t : SearchTicket) : t.search.Delivers nothing [] := by
  refine (delivers_get _ _ _).bind fun result => ?_
  cases result with
  | error f => exact .toast (.done rfl)
  | ok page => exact .done rfl

theorem delivers_deleteRecord (r : CatalogRecord) : r.delete.Delivers nothing [] := by
  unfold CatalogRecord.delete
  split
  · exact .toast (.done rfl)
  · refine (delivers_delete _).bind fun result => ?_
    cases result with
    | error f => exact .toast (.done rfl)
    | ok done => exact .toast (.done rfl)

theorem delivers_retire (o : Offering) : o.retire.Delivers nothing [] := by
  unfold Offering.retire
  split
  · exact .toast (.done rfl)
  · refine (delivers_request _).bind fun reply => ?_
    cases reply with
    | error f => exact .toast (.done rfl)
    | ok answer => exact .toast (.done rfl)

/-! ### The job that is given a watch -/

/-- An offering of the table is watched, if it is, in the last step of its job. -/
theorem delivers_publish (o : Offering) :
    o.publish.Delivers (fun result => (Outcome.recordDone .offerings result).watches) [] := by
  unfold Offering.publish
  split
  · exact .toast (.done rfl)
  · refine (delivers_request _).bind fun reply => ?_
    cases reply with
    | error f => exact .toast (.done rfl)
    | ok answer =>
      -- nothing comes between the watch and the result that brings it
      exact .toast (.watch (fun _ => .done rfl) fun _ => .done rfl)

theorem watches_unwatched (c : Collection) (result : Except ActionError Unit) :
    (Outcome.recordDone c (unwatched result)).watches = [] := by
  cases result <;> rfl

/-- A job brings all the watches that it is given, and waits with none. -/
theorem delivers_job (j : Job) : j.work.Delivers Outcome.watches [] := by
  cases j with
  | signIn c => exact (delivers_login c).bind fun _ => .done rfl
  | saveCharacteristic r => exact (delivers_save r _ _).bind fun _ => .done rfl
  | saveSpecification r => exact (delivers_save r _ _).bind fun _ => .done rfl
  | savePrice r => exact (delivers_save r _ _).bind fun _ => .done rfl
  | saveDraft r => exact (delivers_save r _ _).bind fun _ => .done rfl
  | submitOffering r => exact (delivers_sendPublish r).bind fun _ => .done rfl
  | fetchCharacteristics => exact (delivers_get _ _ _).bind fun _ => .done rfl
  | fetchOptions =>
    have hfetch : OfferingForm.fetchOptions.Delivers nothing [] :=
      (delivers_getBoth _ _ _ _).bind fun _ => .done rfl
    exact hfetch.bind fun _ => .done rfl
  | list c => exact (delivers_list c).bind fun _ => .done rfl
  | delete r =>
    exact (delivers_deleteRecord r).bind fun result => .done (watches_unwatched r.collection result)
  | publish o => exact (delivers_publish o).bind fun _ => .done rfl
  | retire o =>
    exact (delivers_retire o).bind fun result => .done (watches_unwatched .offerings result)
  | search t => exact (delivers_search t).bind fun _ => .done rfl

/-! ## Steps of the console -/

namespace Console

theorem watches_edit (c : Console) (r : CatalogRecord) : (c.edit r).2.watches = c.watches := by
  unfold edit
  split <;> rfl

theorem watches_view (c : Console) (action : ViewerAction) :
    (c.view action).2.watches = c.watches := by
  cases action with
  | edit r => exact c.watches_edit r
  | _ => rfl

theorem watches_enter (c : Console) (route : Route) : (c.enter route).2.watches = c.watches := by
  cases route with
  | login => rfl
  | builder => rfl
  | viewer => rfl
  | store =>
    unfold enter
    dsimp only
    split <;> rfl

theorem watches_navigate (c : Console) (s : SessionContext) (route : Route) :
    (c.navigate s route).2.watches = c.watches := by
  unfold navigate goTo
  dsimp only
  split
  · exact watches_enter { c with returnTo := _, route := _ } _
  · exact watches_enter { c with returnTo := _, route := _ } _

theorem watches_pressShortcut (c : Console) (around : Surroundings) (shortcut : Shortcut) :
    (c.pressShortcut around shortcut).2.watches = c.watches := by
  cases shortcut with
  | quit => rfl
  | navigate route => exact c.watches_navigate around.session route
  | logout =>
    unfold pressShortcut
    dsimp only
    split
    · rfl
    · exact c.watches_navigate around.session .login
  | dismiss => rfl

theorem watches_pressSignIn (c : Console) (s : SessionContext) (k : Key) :
    (c.pressSignIn s k).2.watches = c.watches := by
  unfold pressSignIn
  split
  · rfl
  · rfl
  · exact watches_navigate { c with signIn := _ } s .store

theorem watches_press (c : Console) (around : Surroundings) (k : Key) :
    (c.press around k).2.watches = c.watches := by
  unfold press
  split
  · exact c.watches_pressShortcut around _
  · unfold pressScreen
    split
    · exact c.watches_pressSignIn around.session k
    · rfl
    · exact watches_view { c with viewer := (c.viewer.press k).2 } _
    · dsimp only
      cases (c.shop.press k).1 <;> rfl

theorem watches_hear (c : Console) (e : SessionEvent) : (c.hear e).2.watches = c.watches := by
  cases e <;> rfl

/-- The console keeps what an outcome brings. -/
theorem watches_take (c : Console) (s : SessionContext) (o : Outcome) :
    (c.take s o).2.watches = c.watches ++ o.watches := by
  have hsame {c' : Console} (h : c'.watches = c.watches) : c'.watches = c.watches ++ [] := by
    rw [h, List.append_nil]
  cases o with
  | recordDone collection result =>
    cases result with
    | ok watch => rfl
    | error e => exact hsame rfl
  | signedIn result =>
    cases result with
    | ok user => exact hsame (watches_navigate { c with signIn := {}, returnTo := none } s _)
    | error e => exact hsame rfl
  | published o =>
    refine hsame ?_
    simp only [take]
    split <;> rfl
  | _ => exact hsame rfl

end Console

end CatalogDesk
