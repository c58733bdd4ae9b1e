import CatalogDesk.Proofs.Screen.Fields

/-! # Text fields as zippers

    A field keeps its text as octets and its cursor as a number of characters.  What it stands
    for is a *zipper*: the characters before the cursor and those after it, each the nearest
    first, so that every edit is one at the head of a list.

    Main result: `follows_zipper` says that a field that was new once is always the field of the
    zipper to which the same was done: the cursor is between two characters of the text or at
    one of its ends, no edit ever falls inside a character, and a key tells whether the text has
    changed. -/

namespace CatalogDesk

/-- What can be done to a field. -/
inductive FieldEdit
  | press (k : Key)
  | setValue (value : String)
  | clear
  | setFocused (focused : Bool)
  | setError (error : Option String)
  deriving DecidableEq

/-- The characters before a cursor and those after it, the nearest first. -/
structure Zipper where
  before : List Char := []
  after : List Char := []
  deriving DecidableEq

/-! ## Zippers -/

namespace Zipper

variable (z : Zipper)

def chars : List Char := z.before.reverse ++ z.after

/-- The text before the cursor. -/
def front : String := String.ofList z.before.reverse

/-- The text after the cursor. -/
def back : String := String.ofList z.after

def text : String := z.front ++ z.back

/-- A text with the cursor at its end. -/
def ofText (s : String) : Zipper := { before := s.toList.reverse }

def insert (c : Char) : Zipper := { z with before := c :: z.before }

def backspace : Zipper := { z with before := z.before.tail }

def delete : Zipper := { z with after := z.after.tail }

def moveLeft : Zipper :=
  match z.before with
  | [] => z
  | c :: before => ⟨before, c :: z.after⟩

def moveRight : Zipper :=
  match z.after with
  | [] => z
  | c :: after => ⟨c :: z.before, after⟩

def moveStart : Zipper := ⟨[], z.chars⟩

def moveEnd : Zipper := ⟨z.chars.reverse, []⟩

/-- Is the character taken at the cursor?  A number takes digits, one point, and a minus sign in
    front of all; any other text takes what is not a control character. -/
def takes (numeric : Bool) (c : Char) : Bool :=
  if !numeric then !Text.isControl c
  else if '0' ≤ c && c ≤ '9' then true
  else if c == '.' then !z.chars.contains '.'
  else if c == '-' then z.before.isEmpty && z.after.head? != some '-'
  else false

def type (numeric : Bool) (c : Char) : Zipper :=
  if z.takes numeric c then z.insert c else z

def steer : KeyCode → Zipper
  | .backspace => z.backspace
  | .delete => z.delete
  | .left => z.moveLeft
  | .right => z.moveRight
  | .home => z.moveStart
  | .toEnd => z.moveEnd
  | _ => z

def press (numeric : Bool) (k : Key) : Zipper :=
  match k.code with
  | .char c =>
    if k.isControl 'u' then {}
    else if k.control || k.alt then z
    else z.type numeric c
  | code => z.steer code

def edit (numeric : Bool) (z : Zipper) : FieldEdit → Zipper
  | .press k => z.press numeric k
  | .setValue s => ofText s
  | .clear => {}
  | .setFocused _ => z
  | .setError _ => z

def afterAll (numeric : Bool) (edits : List FieldEdit) : Zipper :=
  edits.foldl (edit numeric) {}

@[simp] theorem toList_front : z.front.toList = z.before.reverse := String.toList_ofList

@[simp] theorem toList_back : z.back.toList = z.after := String.toList_ofList

@[simp] theorem toList_text : z.text.toList = z.chars := by
  rw [text, String.toList_append, toList_front, toList_back, chars]

@[simp] theorem length_front : z.front.length = z.before.length := by
  rw [← String.length_toList, toList_front, List.length_reverse]

@[simp] theorem length_text : z.text.length = z.before.length + z.after.length := by
  rw [← String.length_toList, toList_text, chars, List.length_append, List.length_reverse]

variable {z}

/-- Where the cursor is makes no difference to the text. -/
theorem text_of_chars {y : Zipper} (h : y.chars = z.chars) : y.text = z.text := by
  rw [← String.toList_inj, toList_text, toList_text, h]

theorem text_insert (c : Char) : (z.insert c).text = z.front ++ String.singleton c ++ z.back := by
  rw [← String.toList_inj]
  simp [chars, insert]

/-- The text with the character before the cursor set apart. -/
theorem text_of_before {c : Char} {before : List Char} (h : z.before = c :: before) :
    z.text = z.backspace.front ++ (String.singleton c ++ z.back) := by
  rw [← String.toList_inj]
  simp [chars, backspace, h]

/-- The text with the character after the cursor set apart. -/
theorem text_of_after {c : Char} {after : List Char} (h : z.after = c :: after) :
    z.text = z.front ++ (String.singleton c ++ z.delete.back) := by
  rw [← String.toList_inj]
  simp [chars, delete, h]

theorem backspace_of_nil (h : z.before = []) : z.backspace = z := by
  rw [backspace, h, List.tail_nil, ← h]

theorem delete_of_nil (h : z.after = []) : z.delete = z := by
  rw [delete, h, List.tail_nil, ← h]

theorem moveRight_of_nil (h : z.after = []) : z.moveRight = z := by
  rw [moveRight, h]

theorem chars_moveLeft : z.moveLeft.chars = z.chars := by
  unfold moveLeft
  split
  · rfl
  · rename_i c before hbefore
    simp [chars, hbefore]

theorem chars_moveRight : z.moveRight.chars = z.chars := by
  unfold moveRight
  split
  · rfl
  · rename_i c after hafter
    simp [chars, hafter]

theorem chars_moveStart : z.moveStart.chars = z.chars := rfl

theorem chars_moveEnd : z.moveEnd.chars = z.chars := by
  simp [chars, moveEnd]

end Zipper

/-! ## Fields -/

namespace TextField

def edit (f : TextField) : FieldEdit → TextField
  | .press k => (f.press k).2
  | .setValue s => f.setValue s
  | .clear => f.clear
  | .setFocused focused => f.setFocused focused
  | .setError error => f.setError error

def after (f : TextField) (edits : List FieldEdit) : TextField :=
  edits.foldl edit f

/-- The field keeps the text and the cursor of the zipper. -/
structure Holds (f : TextField) (numeric : Bool) (z : Zipper) : Prop where
  value : f.value = z.text
  cursor : f.cursor = z.before.length
  kind : f.numeric = numeric
  /-- No edit has fallen inside a character. -/
  unspoilt : f.spoilt = false

/-- The field is that of the zipper, and does what is done on the zipper. -/
structure Follows (f : TextField) (numeric : Bool) (z : Zipper) : Prop extends
    Holds f numeric z where
  within : f.cursor ≤ f.value.length
  /-- The octet at which the field edits is the place between the two parts of the text. -/
  place : ∃ p, f.value.pos? ⟨Text.octetOf f.value f.cursor⟩ = some p ∧ p.Splits z.front z.back
  accepts : ∀ c, f.accepts c = z.takes numeric c
  press : ∀ k, (f.press k).2.value = (z.press numeric k).text
  /-- A key tells whether the text has changed. -/
  reports : ∀ k, (f.press k).1 = true ↔ (f.press k).2.value ≠ f.value

variable {f : TextField} {numeric : Bool} {z : Zipper}

namespace Holds

variable (h : f.Holds numeric z)

include h

theorem toList_value : f.value.toList = z.chars := by
  rw [h.value, Zipper.toList_text]

theorem length_value : f.value.length = z.before.length + z.after.length := by
  rw [h.value, Zipper.length_text]

theorem octetOf_cursor : Text.octetOf f.value f.cursor = z.front.utf8ByteSize := by
  rw [h.value, h.cursor, ← z.length_front]
  exact Text.octetOf_append z.front z.back

/-- The character that the field looks at in front of its text is the one after the cursor, if
    the cursor is there. -/
theorem accepts (c : Char) : f.accepts c = z.takes numeric c := by
  have hminus : (f.cursor == 0 && f.value.toList.head? != some '-') =
      (z.before.isEmpty && z.after.head? != some '-') := by
    rw [h.toList_value, h.cursor, Zipper.chars]
    cases z.before with
    | nil => rfl
    | cons d before => rfl
  rw [TextField.accepts, Zipper.takes, hminus, h.toList_value, h.kind]

theorem insert (c : Char) : (f.insert c).Holds numeric (z.type numeric c) := by
  unfold TextField.insert Zipper.type
  rw [← h.accepts c]
  split
  · -- the octet at the cursor is where the two parts of the text meet
    have hinsert : Text.insertAt? f.value z.front.utf8ByteSize c = some (z.insert c).text := by
      rw [h.value, Zipper.text_insert]
      exact Text.insertAt?_append z.front z.back c
    rw [h.octetOf_cursor, hinsert]
    exact ⟨rfl, congrArg (· + 1) h.cursor, h.kind, h.unspoilt⟩
  · exact h

theorem backspace : f.backspace.Holds numeric z.backspace := by
  unfold TextField.backspace
  rw [h.cursor]
  cases hbefore : z.before with
  | nil =>
    rw [List.length_nil, if_neg (Nat.lt_irrefl 0), Zipper.backspace_of_nil hbefore]
    exact h
  | cons c before =>
    rw [List.length_cons, if_pos (Nat.succ_pos _), Nat.add_sub_cancel]
    -- the character before the cursor begins where the text in front of it ends
    have hlength : z.backspace.front.length = before.length := by
      rw [Zipper.length_front, Zipper.backspace, hbefore]
      rfl
    have hoctet : Text.octetOf f.value before.length = z.backspace.front.utf8ByteSize := by
      rw [h.value, Zipper.text_of_before hbefore, ← hlength]
      exact Text.octetOf_append _ _
    have hremove : Text.removeAt? f.value z.backspace.front.utf8ByteSize =
        some z.backspace.text := by
      rw [h.value, Zipper.text_of_before hbefore]
      exact Text.removeAt?_append _ c z.back
    rw [hoctet, hremove]
    exact ⟨rfl, hlength.symm.trans (z.backspace.length_front), h.kind, h.unspoilt⟩

theorem delete : f.delete.Holds numeric z.delete := by
  unfold TextField.delete
  rw [h.length_value, h.cursor]
  cases hafter : z.after with
  | nil =>
    rw [List.length_nil, Nat.add_zero, if_neg (Nat.lt_irrefl _), Zipper.delete_of_nil hafter]
    exact h
  | cons c after =>
    rw [List.length_cons, if_pos (Nat.lt_add_of_pos_right (Nat.succ_pos _))]
    -- the character after the cursor begins there, too
    have hoctet : Text.octetOf f.value z.before.length = z.front.utf8ByteSize := by
      rw [← h.cursor]
      exact h.octetOf_cursor
    have hremove : Text.removeAt? f.value z.front.utf8ByteSize = some z.delete.text := by
      rw [h.value, Zipper.text_of_after hafter]
      exact Text.removeAt?_append z.front c _
    rw [hoctet, hremove]
    exact ⟨rfl, rfl, h.kind, h.unspoilt⟩

theorem moveLeft : f.moveLeft.Holds numeric z.moveLeft := by
  refine ⟨?_, ?_, h.kind, h.unspoilt⟩
  · rw [Zipper.text_of_chars Zipper.chars_moveLeft]
    exact h.value
  · show f.cursor - 1 = z.moveLeft.before.length
    rw [h.cursor, Zipper.moveLeft]
    cases hbefore : z.before with
    | nil => exact (congrArg List.length hbefore).symm
    | cons c before => rfl

theorem moveRight : f.moveRight.Holds numeric z.moveRight := by
  unfold TextField.moveRight
  rw [h.length_value, h.cursor]
  cases hafter : z.after with
  | nil =>
    rw [List.length_nil, Nat.add_zero, if_neg (Nat.lt_irrefl _), Zipper.moveRight_of_nil hafter]
    exact h
  | cons c after =>
    rw [List.length_cons, if_pos (Nat.lt_add_of_pos_right (Nat.succ_pos _))]
    refine ⟨?_, ?_, h.kind, h.unspoilt⟩
    · rw [Zipper.text_of_chars Zipper.chars_moveRight]
      exact h.value
    · show z.before.length + 1 = z.moveRight.before.length
      rw [Zipper.moveRight, hafter]
      rfl

theorem moveStart : f.moveStart.Holds numeric z.moveStart :=
  ⟨h.value.trans (Zipper.text_of_chars Zipper.chars_moveStart).symm, rfl, h.kind, h.unspoilt⟩

theorem moveEnd : f.moveEnd.Holds numeric z.moveEnd := by
  refine ⟨h.value.trans (Zipper.text_of_chars Zipper.chars_moveEnd).symm, ?_, h.kind, h.unspoilt⟩
  show f.value.length = z.chars.reverse.length
  rw [← String.length_toList, h.toList_value, List.length_reverse]

theorem steer (code : KeyCode) : (f.steer code).Holds numeric (z.steer code) := by
  cases code with
  | backspace => exact h.backspace
  | delete => exact h.delete
  | left => exact h.moveLeft
  | right => exact h.moveRight
  | home => exact h.moveStart
  | toEnd => exact h.moveEnd
  | _ => exact h

theorem press (k : Key) : (f.press k).2.Holds numeric (z.press numeric k) := by
  cases hcode : k.code with
  | char c =>
    simp only [TextField.press, Zipper.press, hcode]
    split
    · exact ⟨rfl, rfl, h.kind, h.unspoilt⟩
    · split
      · exact h
      · exact h.insert c
  | _ =>
    simp only [TextField.press, Zipper.press, hcode]
    exact h.steer _

/-- **Step lemma.** What is done to a field is done on its zipper. -/
theorem edit (e : FieldEdit) : (f.edit e).Holds numeric (z.edit numeric e) := by
  cases e with
  | press k => exact h.press k
  | setValue s =>
    refine ⟨?_, ?_, h.kind, h.unspoilt⟩
    · show s = (Zipper.ofText s).text
      rw [← String.toList_inj, Zipper.toList_text]
      simp [Zipper.chars, Zipper.ofText]
    · show s.length = s.toList.reverse.length
      rw [List.length_reverse, String.length_toList]
  | clear => exact ⟨rfl, rfl, h.kind, h.unspoilt⟩
  | setFocused focused => exact ⟨h.value, h.cursor, h.kind, h.unspoilt⟩
  | setError error => exact ⟨h.value, h.cursor, h.kind, h.unspoilt⟩

/-- A field that keeps what the zipper holds is edited where the zipper is. -/
theorem follows : f.Follows numeric z where
  toHolds := h
  within := by
    rw [h.cursor, h.length_value]
    exact Nat.le_add_right _ _
  place := by
    rw [h.octetOf_cursor, h.value]
    exact Text.exists_place z.front z.back
  accepts := h.accepts
  press := fun k => (h.press k).value
  reports := f.press_iff

end Holds

/-! ## Runs -/

/-- **Run lemma.** What is done to a field in turn is done on its zipper. -/
theorem Holds.after (h : f.Holds numeric z) (edits : List FieldEdit) :
    (f.after edits).Holds numeric (edits.foldl (Zipper.edit numeric) z) := by
  induction edits generalizing f z with
  | nil => exact h
  | cons e edits ih => exact ih (h.edit e)

/-- A new field follows the zipper to which the same is done. -/
theorem follows_zipper (label placeholder : String) (masked numeric : Bool)
    (edits : List FieldEdit) :
    (after { label, placeholder, masked, numeric } edits).Follows numeric
      (Zipper.afterAll numeric edits) := by
  have hnew : Holds { label, placeholder, masked, numeric } numeric {} := ⟨rfl, rfl, rfl, rfl⟩
  exact (hnew.after edits).follows

/-- A letter of two octets is typed behind another one, in front of the rest. -/
example : (after { label := "Name" }
    [.setValue "Çay", .press { code := .home }, .press { code := .right },
      .press { code := .char 'ö' }]).value = "Çöay" := by
  rfl

end TextField

end CatalogDesk
