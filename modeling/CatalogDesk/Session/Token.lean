import CatalogDesk.Text.Quoted
import CatalogDesk.Text.Utf8
import CatalogDesk.Text.Blank

/-! # Bearer tokens

    A token proves a session to the services.  It is never shown in full: a long one
    shows its first and last four octets, a short one only its length.

    Main operations: `Token.ofText?` accepts a token, `Token.masked` shows it. -/

namespace CatalogDesk

/-- A token issued by the identity service. -/
structure Token where
  value : String
  deriving DecidableEq, Inhabited, Repr

/-- A text is cut inside one of its characters. -/
inductive CutError where
  | insideCharacter
  deriving DecidableEq, Inhabited, Repr

namespace Token

/-- The token of a text: trimmed, not empty, and without blanks inside. -/
def ofText? (s : String) : Option Token :=
  let t := Text.trim s
  if t = "" || t.toList.any Text.isBlank then none else some ⟨t⟩

/-- The first octets of a text, which must end between two characters. -/
def firstOctets (n : Nat) (cs : List Char) : Except CutError (List Char) :=
  match n, cs with
  | 0, _ => .ok []
  | _, [] => .ok []
  | n, c :: cs =>
    if c.utf8Size ≤ n then (firstOctets (n - c.utf8Size) cs).map (c :: ·)
    else .error .insideCharacter

/-- The last octets of a text, which must start between two characters. -/
def lastOctets (n : Nat) (cs : List Char) : Except CutError (List Char) :=
  (firstOctets n cs.reverse).map List.reverse

/-- The token as it may be shown. -/
def masked (t : Token) : Except CutError String :=
  let size := t.value.utf8ByteSize
  if size ≤ 10 then .ok (String.ofList (List.replicate size '*'))
  else do
    let front ← firstOctets 4 t.value.toList
    let back ← lastOctets 4 t.value.toList
    .ok (String.ofList (front ++ ['.', '.', '.'] ++ back))

/-- The masked token in the form in which it stands in reports. -/
def described (t : Token) : Except CutError String :=
  t.masked.map fun s => "AuthToken \x7b value: " ++ Text.quoted s ++ " \x7d"

end Token

end CatalogDesk
