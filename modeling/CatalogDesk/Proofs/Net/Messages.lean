import CatalogDesk.Net.Failure
import CatalogDesk.Proofs.Text.Blank

/-! # What a failing answer says

    The body of a failing answer can supply a text in four ways: it is one, its detail is one, its
    detail is a list of items with messages, or one stands under `message`.  A detail that is
    there is looked at alone, whether or not it has anything to say.

    Main result: `speaks_iff_not_overlooks` says that there is something to see in the message of
    a failing answer, and that it is a text which the body supplies if there is any, if and only
    if the body has neither a blank text, or a list whose only message is blank, in the place that
    is looked at, nor a detail without a text that hides the one under `message`. -/

namespace CatalogDesk

/-! ## What a body supplies -/

namespace Failure

open Text

/-- A visible text in the body of a failing answer, as it is shown. -/
inductive Supplies (body : Json) : String → Prop
  | plain {s : String} (hbody : body = .text s) (hs : IsVisible s) : Supplies body (trim s)
  | detail {s : String} (hdetail : body.get? "detail" = some (.text s)) (hs : IsVisible s) :
    Supplies body s
  | details {items : List Json} {s : String} (hdetail : body.get? "detail" = some (.list items))
    (hs : s ∈ itemMessages items) (hvisible : IsVisible s) :
    Supplies body (String.intercalate "; " (itemMessages items))
  | message {s : String} (hmessage : body.get? "message" = some (.text s)) (hs : IsVisible s) :
    Supplies body s

/-- The message of a failing answer is visible, and is a text that its body supplies if there is
    any. -/
structure Speaks (status : Nat) (body : Option Json) : Prop where
  visible : IsVisible (ofAnswer status body).message
  supplied : ∀ json, body = some json → ∀ s, Supplies json s →
    Supplies json (ofAnswer status body).message

/-- The part of a body that is looked at: its detail, or what stands under `message` if it has
    none. -/
def source? (body : Json) : Option Json :=
  (body.get? "detail").or (body.get? "message")

/-- What that part says. -/
def said? : Json → Option String
  | .text s => some s
  | .list items =>
    match itemMessages items with
    | [] => none
    | ms => some (String.intercalate "; " ms)
  | _ => none

/-- Does the detail of a body supply a text? -/
def HasDetail (body : Json) : Prop :=
  (∃ s, body.get? "detail" = some (.text s) ∧ IsVisible s) ∨
    ∃ items s, body.get? "detail" = some (.list items) ∧ s ∈ itemMessages items ∧ IsVisible s

/-- The part of a body that is looked at has nothing to say. -/
inductive Overlooks (status : Nat) (body : Json) : Prop
  | blankText {s : String} (hsource : source? body = some (.text s)) (hs : ¬ IsVisible s)
  | blankItem {items : List Json} {s : String} (hsource : source? body = some (.list items))
    (hitems : itemMessages items = [s]) (hs : ¬ IsVisible s)
  /-- A detail without a text stands in front of one, and something else is shown. -/
  | hidden {v : Json} {s : String} (hdetail : body.get? "detail" = some v)
    (hnone : ¬ HasDetail body) (hmessage : body.get? "message" = some (.text s))
    (hs : IsVisible s) (hother : s ≠ (ofAnswer status (some body)).message)

variable {status : Nat} {body : Json} {s : String}

/-! ## What is shown -/

theorem isVisible_generic (status : Nat) :
    IsVisible ("Request failed with status " ++ toString status) :=
  isBlankText_append_of_left (by decide) _

/-- Of an object, the part that is looked at decides. -/
theorem message_of_source {v : Json} (h : source? body = some v) :
    (ofAnswer status (some body)).message =
      (said? v).getD ("Request failed with status " ++ toString status) := by
  cases body with
  | object members =>
    have hmembers : (Json.Members.get? "detail" members).or
        (Json.Members.get? "message" members) = some v := h
    simp only [ofAnswer, withStatus, Option.bind_some, bodyMessage?, hmembers]
    cases v <;> rfl
  | _ => cases h

theorem message_of_text (h : source? body = some (.text s)) :
    (ofAnswer status (some body)).message = s :=
  message_of_source h

theorem message_of_items {items : List Json} (h : source? body = some (.list items))
    (hne : itemMessages items ≠ []) :
    (ofAnswer status (some body)).message = String.intercalate "; " (itemMessages items) := by
  rw [message_of_source h, said?]
  split
  · rename_i hnil
    exact absurd hnil hne
  · rfl

theorem message_of_plain (hs : IsVisible s) :
    (ofAnswer status (some (.text s))).message = trim s := by
  have hvisible : ¬ trim s = "" := isVisible_iff_trim.mp hs
  simp only [ofAnswer, withStatus, Option.bind_some, bodyMessage?, if_neg hvisible,
    Option.getD_some]

/-- Where nothing is looked at, a plain text or the status is shown. -/
theorem isVisible_of_no_source (h : source? body = none) :
    IsVisible (ofAnswer status (some body)).message := by
  cases body with
  | text t =>
    by_cases ht : IsVisible t
    · rw [message_of_plain ht]
      exact isVisible_trim.mpr ht
    · have hblank : trim t = "" := Decidable.not_not.mp (mt isVisible_iff_trim.mpr ht)
      simp only [ofAnswer, withStatus, Option.bind_some, bodyMessage?, if_pos hblank]
      exact isVisible_generic status
  | object members =>
    have hmembers : (Json.Members.get? "detail" members).or
        (Json.Members.get? "message" members) = none := h
    simp only [ofAnswer, withStatus, Option.bind_some, bodyMessage?, hmembers]
    exact isVisible_generic status
  | _ => exact isVisible_generic status

/-- A message is visible unless a blank text, or a list with one blank message, is looked at. -/
theorem isVisible_message (h : ¬ Overlooks status body) :
    IsVisible (ofAnswer status (some body)).message := by
  cases hsource : source? body with
  | none => exact isVisible_of_no_source hsource
  | some v =>
    cases v with
    | text s =>
      rw [message_of_text hsource]
      exact Decidable.not_not.mp fun hs => h (.blankText hsource hs)
    | list items =>
      by_cases hne : itemMessages items = []
      · rw [message_of_source hsource, said?, hne]
        exact isVisible_generic status
      · rw [message_of_items hsource hne]
        refine isVisible_intercalate (by decide) hne fun s hs => ?_
        exact Decidable.not_not.mp fun hblank => h (.blankItem hsource hs hblank)
    | _ =>
      rw [message_of_source hsource]
      exact isVisible_generic status

/-- A detail that supplies a text is shown. -/
theorem supplies_of_hasDetail (h : HasDetail body) :
    Supplies body (ofAnswer status (some body)).message := by
  have hsource {v : Json} (hdetail : body.get? "detail" = some v) : source? body = some v := by
    rw [source?, hdetail]
    rfl
  rcases h with ⟨s, hdetail, hs⟩ | ⟨items, s, hdetail, hs, hvisible⟩
  · rw [message_of_text (hsource hdetail)]
    exact .detail hdetail hs
  · rw [message_of_items (hsource hdetail) (List.ne_nil_of_mem hs)]
    exact .details hdetail hs hvisible

/-- A text that the body supplies is shown, or another one, unless a detail hides it. -/
theorem supplies_message (h : ¬ Overlooks status body) (hs : Supplies body s) :
    Supplies body (ofAnswer status (some body)).message := by
  cases hs with
  | plain hbody hs =>
    subst hbody
    rw [message_of_plain hs]
    exact .plain rfl hs
  | detail hdetail hs => exact supplies_of_hasDetail (.inl ⟨_, hdetail, hs⟩)
  | details hdetail hs hvisible =>
    exact supplies_of_hasDetail (.inr ⟨_, _, hdetail, hs, hvisible⟩)
  | message hmessage hs =>
    cases hdetail : body.get? "detail" with
    | none =>
      have hsource : source? body = some (.text s) := by
        rw [source?, hdetail]
        exact hmessage
      rw [message_of_text hsource]
      exact .message hmessage hs
    | some v =>
      -- a detail stands in front: it is shown if it supplies a text, and else hides this one
      by_cases hnone : HasDetail body
      · exact supplies_of_hasDetail hnone
      · have hsame : s = (ofAnswer status (some body)).message :=
          Decidable.not_not.mp fun hother => h (.hidden hdetail hnone hmessage hs hother)
        rw [← hsame]
        exact .message hmessage hs

/-- An answer that overlooks a text does not say what it should. -/
theorem not_speaks_of_overlooks (h : Overlooks status body) : ¬ Speaks status (some body) := by
  intro hspeaks
  cases h with
  | blankText hsource hs =>
    have hvisible := hspeaks.visible
    rw [message_of_text hsource] at hvisible
    exact hs hvisible
  | blankItem hsource hitems hs =>
    have hvisible := hspeaks.visible
    rw [message_of_items hsource (by rw [hitems]; exact List.cons_ne_nil _ _), hitems,
      String.intercalate_singleton] at hvisible
    exact hs hvisible
  | hidden hdetail hnone hmessage hs hother =>
    -- what is shown is supplied by none of the four
    have hsupplied := hspeaks.supplied body rfl _ (.message hmessage hs)
    generalize hshown : (ofAnswer status (some body)).message = shown at hsupplied hother
    cases hsupplied with
    | plain hbody =>
      subst hbody
      cases hdetail
    | detail hdetail' hs' => exact hnone (.inl ⟨_, hdetail', hs'⟩)
    | details hdetail' hs' hvisible => exact hnone (.inr ⟨_, _, hdetail', hs', hvisible⟩)
    | message hmessage' =>
      rw [hmessage] at hmessage'
      cases hmessage'
      exact hother rfl

/-- The message of a failing answer is visible and, if its body supplies a text, such a text, if
    and only if the part of the body that is looked at does not overlook it. -/
theorem speaks_iff_not_overlooks (status : Nat) (body : Option Json) :
    Speaks status body ↔ ∀ json, body = some json → ¬ Overlooks status json := by
  constructor
  · rintro hspeaks json rfl hoverlooks
    exact not_speaks_of_overlooks hoverlooks hspeaks
  · intro h
    cases body with
    | none => exact ⟨isVisible_generic status, nofun⟩
    | some json =>
      refine ⟨isVisible_message (h json rfl), ?_⟩
      intro json' hjson s hs
      cases hjson
      exact supplies_message (h json rfl) hs

/-- Two members of one answer: the detail is blank, and what it hides is not shown. -/
theorem not_speaks_blankDetail : ¬ Speaks 503
    (some (.object [("detail", .text ""), ("message", .text "Down for maintenance")])) := by
  intro h
  exact absurd h.visible (by decide)

end Failure

end CatalogDesk
