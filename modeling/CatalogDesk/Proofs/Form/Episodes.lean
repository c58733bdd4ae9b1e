import CatalogDesk.Proofs.Form.Attempts

/-! # Episodes of a form

    An offering may be attempted to be saved and published again and again, and its form be
    edited in between.  An *episode* reaches from the opening of a form, or from the moment
    when it was emptied, to the next such moment.

    Main result: `episodes_sound` says that in every episode, whatever the backend answers,
    the offering is created once: as soon as a save was answered with an offering, all further
    saves change that one.  It is published only right after it was saved, and watched only
    after the backend has agreed to publish it.  All that is assumed of the backend is that it
    answers a change of an offering with that very offering.

    What carries the proof is the mode of the form: once a save of the episode was answered,
    the form is set to change the offering of the answer. -/

namespace CatalogDesk

/-! ## The order within an attempt -/

/-- The deed may come after these: the offering is published right after it was saved, and
    watched after the backend has agreed to that. -/
def Deed.Follows (before : List Deed) : Deed → Prop
  | .toast _ => True
  | .send r reply => (Deed.send r reply).saves = true ∨
      ∃ earlier save o, before = earlier ++ [save] ∧ save.saved? = some o ∧
        r = .publishing o.id
  | .watch id _ => ∃ earlier save o answer later,
      before = earlier ++ [save, .send (.publishing o.id) (.ok answer)] ++ later ∧
      save.saved? = some o ∧ o.id = id
  | _ => False

/-- Each of the deeds may come after those before it. -/
def Orderly : List Deed → List Deed → Prop
  | _, [] => True
  | before, d :: rest => d.Follows before ∧ Orderly (before ++ [d]) rest

/-! ## Runs -/

/-- An attempt that was made. -/
structure FormAttempt where
  kind : AttemptKind
  /-- The form as it was submitted. -/
  form : OfferingForm
  deeds : List Deed

/-- What can happen to the form. -/
inductive FormInput
  /-- Anything that leaves the form to create or to change what it did before. -/
  | edit (g : OfferingForm)
  | attempt (kind : AttemptKind) (c : Circumstances)
  /-- Another form is opened. -/
  | reopen (g : OfferingForm)

/-- The form with the attempts of the episode so far, and with the episodes that are over. -/
structure FormStory where
  form : OfferingForm
  episode : List FormAttempt := []
  past : List (List FormAttempt) := []

namespace FormStory

def episodes (s : FormStory) : List (List FormAttempt) :=
  s.past ++ [s.episode]

/-- An episode begins with that form. -/
def begin (s : FormStory) (g : OfferingForm) : FormStory where
  form := g
  past := s.episodes

def attempt (s : FormStory) (kind : AttemptKind) (c : Circumstances) : FormStory :=
  let (deeds, form, emptied) := kind.course s.form c
  let s' := { s with form, episode := s.episode ++ [⟨kind, s.form, deeds⟩] }
  if emptied then s'.begin form else s'

def step (s : FormStory) : FormInput → FormStory
  | .edit g => { s with form := { g with mode := s.form.mode } }
  | .attempt kind c => s.attempt kind c
  | .reopen g => s.begin g

def after (s : FormStory) (inputs : List FormInput) : FormStory :=
  inputs.foldl step s

/-- All that was done in an episode, in order. -/
def deedsOf (episode : List FormAttempt) : List Deed :=
  episode.flatMap (·.deeds)

/-- Is every change of an offering answered with that offering? -/
def isFaithful (episode : List FormAttempt) : Bool :=
  (deedsOf episode).all Deed.isFaithful

/-- What holds of an episode. -/
structure Sound (episode : List FormAttempt) : Prop where
  /-- Once a save was answered with an offering, all further saves change that offering. -/
  updates : (deedsOf episode).Pairwise fun d e => ∀ o, d.saved? = some o → e.UpdatesOnly o.id
  /-- So the backend is seen to create one offering at most. -/
  creates : ((deedsOf episode).countP fun d => d.creates && d.saved?.isSome) ≤ 1
  /-- Publishing follows a save of the same attempt, and watching an accepted publication. -/
  orderly : ∀ a ∈ episode, Orderly [] a.deeds
  /-- An attempt with a form that is not right for it sends nothing. -/
  refused : ∀ a ∈ episode, a.kind.isRefused a.form = true → ∀ d ∈ a.deeds, ∃ t, d = .toast t

/-- The invariant that every input preserves. -/
structure Kept (s : FormStory) : Prop where
  past : ∀ episode ∈ s.past, isFaithful episode = true → Sound episode
  current : isFaithful s.episode = true → Sound s.episode
  /-- The form is set to change what was saved. -/
  mode : isFaithful s.episode = true →
    ∀ d ∈ deedsOf s.episode, ∀ o, d.saved? = some o → s.form.mode = .edit o.id

theorem deedsOf_concat (episode : List FormAttempt) (a : FormAttempt) :
    deedsOf (episode ++ [a]) = deedsOf episode ++ a.deeds := by
  simp only [deedsOf, List.flatMap_append, List.flatMap_cons, List.flatMap_nil, List.append_nil]

theorem isFaithful_concat {episode : List FormAttempt} {a : FormAttempt}
    (h : isFaithful (episode ++ [a]) = true) :
    isFaithful episode = true ∧ ∀ d ∈ a.deeds, d.isFaithful = true := by
  unfold isFaithful at h
  rw [deedsOf_concat, List.all_append, Bool.and_eq_true_iff] at h
  exact ⟨h.1, List.all_eq_true.mp h.2⟩

/-! ## One attempt -/

section Attempts

variable {f g : OfferingForm} {deeds : List Deed} {emptied : Bool}

theorem saved?_of_answer {r : Request} {reply : Reply} {o : Offering} {mode : FormMode}
    (h : r.SavesIn mode) (answer : Work.readReply Offering.decode reply = .ok o) :
    (Deed.send r reply).saved? = some o := by
  simp only [Deed.saved?, h.saves, if_true, answer]
  rfl

theorem saved?_of_not_saves {d : Deed} (h : d.saves = false) : d.saved? = none := by
  cases d with
  | send r reply =>
    have hsaves : r.saves = false := h
    simp only [Deed.saved?, hsaves, Bool.false_eq_true, if_false]
  | _ => rfl

theorem not_saves_send (id : RecordId) (reply : Reply) :
    (Deed.send (.publishing id) reply).saves = false :=
  Request.not_saves_publishing id

theorem not_saves_toasts (toasts : List Toast) : ∀ d ∈ toasts.map Deed.toast, d.saves = false := by
  intro d hd
  obtain ⟨t, -, rfl⟩ := List.mem_map.mp hd
  rfl

/-- The offering is saved once at most, and as the form says. -/
theorem passes_split (h : Passes f deeds g emptied) :
    (∀ d ∈ deeds, d.saves = false) ∨
      ∃ before r reply rest, deeds = before ++ .send r reply :: rest ∧ r.SavesIn f.mode ∧
        (∀ d ∈ before, d.saves = false) ∧ ∀ d ∈ rest, d.saves = false := by
  cases h with
  | refused toasts errors => exact .inl (not_saves_toasts toasts)
  | unsaved toasts saves answer =>
    exact .inr ⟨_, _, _, _, rfl, saves, not_saves_toasts toasts, List.forall_mem_singleton.mpr rfl⟩
  | updated saves answer edits =>
    exact .inr ⟨[], _, _, _, rfl, saves, List.forall_mem_nil _, List.forall_mem_singleton.mpr rfl⟩
  | created saves answer creates =>
    exact .inr ⟨[], _, _, _, rfl, saves, List.forall_mem_nil _, List.forall_mem_singleton.mpr rfl⟩
  | unpublished toasts saves answer =>
    refine .inr ⟨_, _, _, _, rfl, saves, not_saves_toasts toasts, ?_⟩
    exact List.forall_mem_cons.mpr
      ⟨not_saves_send _ _, List.forall_mem_singleton.mpr rfl⟩
  | published toasts saves saved =>
    refine .inr ⟨_, _, _, _, rfl, saves, not_saves_toasts toasts, ?_⟩
    refine List.forall_mem_cons.mpr ⟨not_saves_send _ _, ?_⟩
    exact List.forall_mem_cons.mpr ⟨rfl, List.forall_mem_singleton.mpr rfl⟩

/-- What a deed of an attempt saves, it saves as the form says. -/
theorem updatesOnly_passes (h : Passes f deeds g emptied) {id : RecordId}
    (hmode : f.mode = .edit id) {d : Deed} (hd : d ∈ deeds) : d.UpdatesOnly id := by
  cases d with
  | send r reply =>
    intro hsaves
    obtain hnone | ⟨before, r', reply', rest, rfl, hin, hbefore, hrest⟩ := passes_split h
    · exact absurd ((hnone _ hd).symm.trans hsaves) nofun
    · rcases List.mem_append.mp hd with hmem | hmem
      · exact absurd ((hbefore _ hmem).symm.trans hsaves) nofun
      · rcases List.mem_cons.mp hmem with heq | hmem
        · cases heq
          rwa [hmode] at hin
        · exact absurd ((hrest _ hmem).symm.trans hsaves) nofun
  | _ => trivial

theorem updatesOnly_of_not_saves {d : Deed} (h : d.saves = false) (id : RecordId) :
    d.UpdatesOnly id := by
  cases d with
  | send r reply => exact fun hsaves => absurd (hsaves.symm.trans h) nofun
  | _ => trivial

theorem not_creates_of_updatesOnly {d : Deed} {id : RecordId} (h : d.UpdatesOnly id) :
    ¬ d.creates = true := by
  cases d with
  | send r reply =>
    intro hcreates
    have hput := (h (Bool.or_eq_true_iff.mpr (.inl hcreates))).1
    have hpost := beq_iff_eq.mp (Bool.and_eq_true_iff.mp hcreates).1
    rw [hput] at hpost
    cases hpost
  | _ => exact nofun

theorem pairwise_passes (h : Passes f deeds g emptied) :
    deeds.Pairwise fun d e => ∀ o, d.saved? = some o → e.UpdatesOnly o.id := by
  have hquiet {l : List Deed} (hl : ∀ d ∈ l, d.saves = false) :
      l.Pairwise fun d e => ∀ o, d.saved? = some o → e.UpdatesOnly o.id :=
    List.pairwise_of_forall_mem_list fun d _ e he o _ => updatesOnly_of_not_saves (hl e he) o.id
  obtain hnone | ⟨before, r, reply, rest, rfl, -, hbefore, hrest⟩ := passes_split h
  · exact hquiet hnone
  · refine List.pairwise_append.mpr ⟨hquiet hbefore, List.pairwise_cons.mpr ⟨?_, hquiet hrest⟩, ?_⟩
    · exact fun e he o _ => updatesOnly_of_not_saves (hrest e he) o.id
    · intro d hd e _ o ho
      rw [saved?_of_not_saves (hbefore d hd)] at ho
      cases ho

/-- Whoever changes an offering is answered with that one. -/
theorem id_of_isFaithful {r : Request} {reply : Reply} {o : Offering} {id : RecordId}
    (h : r.Updates id) (answer : Work.readReply Offering.decode reply = .ok o)
    (hfaithful : (Deed.send r reply).isFaithful = true) : o.id = id := by
  simp only [Deed.isFaithful, answer, h.1, bne_self_eq_false, Bool.false_or,
    beq_iff_eq] at hfaithful
  exact (String.append_right_inj _).mp (hfaithful.symm.trans h.2)

/-- A form that is not emptied is set to change what was saved. -/
theorem mode_of_saved (h : Passes f deeds g false) (hfaithful : ∀ d ∈ deeds, d.isFaithful = true)
    {d : Deed} (hd : d ∈ deeds) {o : Offering} (ho : d.saved? = some o) :
    g.mode = .edit o.id := by
  have hother {l : List Deed} (hl : ∀ d ∈ l, d.saves = false) (hd : d ∈ l) :
      g.mode = .edit o.id := by
    rw [saved?_of_not_saves (hl d hd)] at ho
    cases ho
  cases h with
  | refused toasts errors => exact hother (not_saves_toasts toasts) hd
  | @unsaved toasts r reply t saves answer =>
    rcases List.mem_append.mp hd with hmem | hmem
    · exact hother (not_saves_toasts toasts) hmem
    rcases List.mem_cons.mp hmem with rfl | hmem
    · simp only [Deed.saved?, saves.saves, if_true, answer] at ho
      cases ho
    · exact hother (List.forall_mem_singleton.mpr rfl) hmem
  | @updated r reply o' t saves answer edits =>
    rcases List.mem_cons.mp hd with rfl | hmem
    · rw [saved?_of_answer saves answer] at ho
      cases ho
      cases hf : f.mode with
      | create =>
        rw [hf] at edits
        cases edits
      | edit id =>
        -- The form keeps its mode, so this is where the backend must not answer with another.
        rw [hf] at saves
        exact congrArg FormMode.edit (id_of_isFaithful saves answer (hfaithful _ hd)).symm
    · exact hother (List.forall_mem_singleton.mpr rfl) hmem
  | @unpublished toasts r reply o' failure t saves answer =>
    rcases List.mem_append.mp hd with hmem | hmem
    · exact hother (not_saves_toasts toasts) hmem
    rcases List.mem_cons.mp hmem with rfl | hmem
    · rw [saved?_of_answer saves answer] at ho
      cases ho
      rfl
    · exact hother (List.forall_mem_cons.mpr
        ⟨not_saves_send _ _, List.forall_mem_singleton.mpr rfl⟩) hmem

/-- A form that is not emptied goes on to change what it has changed before. -/
theorem mode_of_edit (h : Passes f deeds g false) (hfaithful : ∀ d ∈ deeds, d.isFaithful = true)
    {id : RecordId} (hf : f.mode = .edit id) : g.mode = .edit id := by
  cases h with
  | refused toasts errors => exact hf
  | unsaved toasts saves answer => exact hf
  | updated saves answer edits => exact hf
  | @unpublished toasts r reply o failure t saves answer =>
    rw [hf] at saves
    have hfaith := hfaithful (.send r reply) (by simp)
    exact congrArg FormMode.edit (id_of_isFaithful saves answer hfaith)

theorem orderly_toasts (toasts : List Toast) (before rest : List Deed) :
    Orderly before (toasts.map .toast ++ rest) ↔ Orderly (before ++ toasts.map .toast) rest := by
  induction toasts generalizing before with
  | nil => simp
  | cons t toasts ih =>
    have hrest := ih (before ++ [.toast t])
    rw [List.append_assoc] at hrest
    exact (and_iff_right trivial).trans hrest

theorem orderly_passes (h : Passes f deeds g emptied) : Orderly [] deeds := by
  cases h with
  | refused toasts errors =>
    have hnil := (orderly_toasts toasts [] []).mpr trivial
    rwa [List.append_nil] at hnil
  | unsaved toasts saves answer =>
    exact (orderly_toasts toasts [] _).mpr ⟨.inl saves.saves, trivial, trivial⟩
  | updated saves answer edits => exact ⟨.inl saves.saves, trivial, trivial⟩
  | created saves answer creates => exact ⟨.inl saves.saves, trivial, trivial⟩
  | unpublished toasts saves answer =>
    have hsaved := saved?_of_answer saves answer
    exact (orderly_toasts toasts [] _).mpr
      ⟨.inl saves.saves, .inr ⟨_, _, _, rfl, hsaved, rfl⟩, trivial, trivial⟩
  | @published toasts r reply o answer t watch saves saved =>
    have hsaved := saved?_of_answer saves saved
    refine (orderly_toasts toasts [] _).mpr
      ⟨.inl saves.saves, .inr ⟨_, _, _, rfl, hsaved, rfl⟩, trivial, ?_, trivial⟩
    exact ⟨toasts.map .toast, .send r reply, o, answer, [.toast t], by simp, hsaved, rfl⟩

end Attempts

/-! ## Episodes -/

/-- Since all saves after the first answer change what it told of, no other is a creation. -/
theorem countP_creates_le_one {deeds : List Deed}
    (h : deeds.Pairwise fun d e => ∀ o, d.saved? = some o → e.UpdatesOnly o.id) :
    (deeds.countP fun d => d.creates && d.saved?.isSome) ≤ 1 := by
  induction h with
  | nil => exact Nat.zero_le 1
  | @cons d rest hd _ ih =>
    rw [List.countP_cons]
    split
    · next hcreates =>
      obtain ⟨o, ho⟩ := Option.isSome_iff_exists.mp (Bool.and_eq_true_iff.mp hcreates).2
      have hrest : (rest.countP fun d => d.creates && d.saved?.isSome) = 0 := by
        refine List.countP_eq_zero.mpr fun e he hboth => ?_
        exact not_creates_of_updatesOnly (hd e he o ho) (Bool.and_eq_true_iff.mp hboth).1
      omega
    · exact ih

section Inputs

variable {s : FormStory}

/-- An attempt of an episode that was sound so far leaves it sound. -/
theorem sound_concat (h : Kept s) (kind : AttemptKind) (c : Circumstances)
    (hfaithful : isFaithful (s.episode ++ [⟨kind, s.form, (kind.course s.form c).1⟩]) = true) :
    Sound (s.episode ++ [⟨kind, s.form, (kind.course s.form c).1⟩]) := by
  have hpasses := passes_course kind s.form c
  obtain ⟨hbefore, -⟩ := isFaithful_concat hfaithful
  have hsound := h.current hbefore
  have hupdates := List.pairwise_append.mpr ⟨hsound.updates, pairwise_passes hpasses,
    fun d hd e he o ho => updatesOnly_passes hpasses (h.mode hbefore d hd o ho) he⟩
  rw [← deedsOf_concat s.episode ⟨kind, s.form, (kind.course s.form c).1⟩] at hupdates
  have horderly : Orderly [] (kind.course s.form c).1 := orderly_passes hpasses
  refine ⟨hupdates, countP_creates_le_one hupdates,
    List.forall_mem_append.mpr ⟨hsound.orderly, List.forall_mem_singleton.mpr horderly⟩, ?_⟩
  refine List.forall_mem_append.mpr ⟨hsound.refused, List.forall_mem_singleton.mpr ?_⟩
  intro hrefused d hd
  obtain ⟨toasts, htoasts⟩ := toasts_of_isRefused hrefused c
  rw [htoasts] at hd
  obtain ⟨t, -, rfl⟩ := List.mem_map.mp hd
  exact ⟨t, rfl⟩

theorem sound_nil : Sound [] :=
  ⟨.nil, Nat.zero_le 1, List.forall_mem_nil _, List.forall_mem_nil _⟩

/-- With another form a new episode begins. -/
theorem kept_begin {f g : OfferingForm} {current : List FormAttempt}
    {past : List (List FormAttempt)}
    (hpast : ∀ episode ∈ past, isFaithful episode = true → Sound episode)
    (hcurrent : isFaithful current = true → Sound current) :
    Kept (begin ⟨f, current, past⟩ g) where
  past := List.forall_mem_append.mpr ⟨hpast, List.forall_mem_singleton.mpr hcurrent⟩
  current _ := sound_nil
  mode _ := List.forall_mem_nil _

theorem kept_attempt (h : Kept s) (kind : AttemptKind) (c : Circumstances) :
    Kept (s.attempt kind c) := by
  have hpasses := passes_course kind s.form c
  have hsound := sound_concat h kind c
  unfold attempt
  dsimp only
  cases hemptied : (kind.course s.form c).2.2 with
  | true => exact kept_begin h.past hsound
  | false =>
    -- The mode covers the answers of the earlier attempts and that of this one.
    rw [hemptied] at hpasses
    refine ⟨h.past, hsound, fun hfaithful d hd o ho => ?_⟩
    obtain ⟨hbefore, hnow⟩ := isFaithful_concat hfaithful
    rw [if_neg Bool.false_ne_true, deedsOf_concat] at hd
    rcases List.mem_append.mp hd with hmem | hmem
    · exact mode_of_edit hpasses hnow (h.mode hbefore d hmem o ho)
    · exact mode_of_saved hpasses hnow hmem ho

/-- Every input keeps the invariant. -/
theorem kept_step (h : Kept s) (input : FormInput) : Kept (s.step input) := by
  cases input with
  | edit g => exact ⟨h.past, h.current, h.mode⟩
  | attempt kind c => exact kept_attempt h kind c
  | reopen g => exact kept_begin h.past h.current

/-- The invariant holds after every run. -/
theorem kept_after (h : Kept s) (inputs : List FormInput) : Kept (s.after inputs) := by
  induction inputs generalizing s with
  | nil => exact h
  | cons input inputs ih => exact ih (kept_step h input)

end Inputs

/-- **Episodes are sound.**  In every run of a form, with whatever attempts, edits and answers,
    every episode is sound in which a change of an offering is answered with that offering. -/
theorem episodes_sound (f : OfferingForm) (inputs : List FormInput) :
    ∀ episode ∈ (({ form := f } : FormStory).after inputs).episodes,
      isFaithful episode = true → Sound episode := by
  have hstart : Kept { form := f } :=
    ⟨List.forall_mem_nil _, fun _ => sound_nil, fun _ => List.forall_mem_nil _⟩
  have hkept := kept_after hstart inputs
  exact List.forall_mem_append.mpr ⟨hkept.past, List.forall_mem_singleton.mpr hkept.current⟩

/-- An answer with an offering. -/
def oneOffering (id name : String) : Reply :=
  .ok { status := 200, body := some (.object [("id", .text id), ("name", .text name)]) }

/-- What the backend answers to an attempt to publish: to the save, and to the publication. -/
def answering (save publication : Reply) : Circumstances where
  reply n := if n ≤ 1 then save else publication
  replies _ := .error ⟨.transport, none, "offline"⟩
  watch _ := .ok 0

/-- An offering is saved, but not published; both is tried once more. -/
def retried : List FormInput :=
  [.edit { name := "Fibre", specificationIds := ["s1"], priceIds := ["p1"] },
    .attempt .publish (answering (oneOffering "o1" "Fibre") (.error ⟨.status, some 503, "busy"⟩)),
    .attempt .publish (answering (oneOffering "o1" "Fibre") (.ok { status := 202, body := none }))]

/-- The first episode of that run. -/
def retriedEpisode : List FormAttempt :=
  (({ form := .new } : FormStory).after retried).past.headD []

/-- The offering is created once, and changed by the second attempt. -/
theorem sound_retried :
    (deedsOf retriedEpisode).countP Deed.saves = 2 ∧
      (deedsOf retriedEpisode).countP Deed.creates = 1 ∧
      isFaithful retriedEpisode = true ∧ Sound retriedEpisode :=
  ⟨by decide, by decide, by decide,
    episodes_sound .new retried retriedEpisode (.head _) (by decide)⟩

end FormStory

end CatalogDesk
