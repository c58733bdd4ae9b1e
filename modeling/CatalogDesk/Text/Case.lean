import CatalogDesk.Text.Cased
import CatalogDesk.Text.CaseTable

/-! # Upper and lower case

    Searching ignores case: term and text are both brought to lower case.  The mapping
    works on single characters, except that a capital sigma becomes the final form at
    the end of a word, which depends on the letters around it. -/

namespace CatalogDesk.Text

/-- The shifted code point, if the run covers it. -/
def CaseRun.apply? (r : CaseRun) (n : Nat) : Option Nat :=
  if r.first ≤ n && n ≤ r.last && (n - r.first) % r.step = 0 then
    some ((n : Int) + r.shift).toNat
  else none

/-- The characters that a character maps to. -/
def mapCase (runs : List CaseRun) (sequences : List (Nat × List Nat)) (c : Char) : List Char :=
  match sequences.find? (fun p => p.1 = c.toNat) with
  | some (_, ns) => ns.map Char.ofNat
  | none =>
    match runs.findSome? (fun r => r.apply? c.toNat) with
    | some n => [Char.ofNat n]
    | none => [c]

/-- The lower-case form of a character on its own. -/
def lowerChar (c : Char) : List Char :=
  if c.toNat < 0x80 then [c.toLower] else mapCase lowerRuns lowerSequences c

/-- The upper-case form of a character. -/
def upperChar (c : Char) : List Char :=
  if c.toNat < 0x80 then [c.toUpper] else mapCase upperRuns upperSequences c

/-- Is the nearest character that is not ignorable a cased one? -/
def meetsCased (cs : List Char) : Bool :=
  match cs.dropWhile isCaseIgnorable with
  | [] => false
  | c :: _ => isCased c

/-- The capital sigma. -/
def capitalSigma : Char := 'Σ'

/-- The lower case of what follows `before`, which is given in reverse. -/
def lowerFrom (before : List Char) : List Char → List Char
  | [] => []
  | c :: rest =>
    let mapped :=
      if c = capitalSigma then
        if meetsCased before && !meetsCased rest then ['ς'] else ['σ']
      else lowerChar c
    mapped ++ lowerFrom (c :: before) rest

/-- The text in lower case. -/
def toLower (s : String) : String :=
  String.ofList (lowerFrom [] s.toList)

/-- The text in upper case. -/
def toUpper (s : String) : String :=
  String.ofList (s.toList.flatMap upperChar)

end CatalogDesk.Text
