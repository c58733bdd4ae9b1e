import CatalogDesk.Json.Reader

/-! # Objects field by field

    A record that is read field by field takes each value where it starts, without a data
    value in between: what stands under its keys is looked at even where a later member has
    the same key. -/

namespace CatalogDesk

namespace Json

/-- A quoted text; `cs` starts at its first quote. -/
def readQuoted : List Char → Option (String × List Char)
  | '"' :: cs => readText [] cs
  | _ => none

/-- A quoted text, or null. -/
def readNullable (cs : List Char) : Option (Option String × List Char) :=
  match cs with
  | 'n' :: _ => (dropWord ['n', 'u', 'l', 'l'] cs).map (none, ·)
  | cs => (readQuoted cs).map fun (s, rest) => (some s, rest)

/-- The members of an object up to its closing brace, each taken by `take` where its value
    starts; `cs` starts at a key. -/
def readFields {σ : Type} (take : σ → String → List Char → Option (σ × List Char)) (state : σ) :
    Nat → List Char → Option (σ × List Char)
  | 0, _ => none
  | fuel + 1, cs =>
    match readQuoted (skipSpace cs) with
    | none => none
    | some (key, rest) =>
      match skipSpace rest with
      | ':' :: rest =>
        match take state key (skipSpace rest) with
        | none => none
        | some (state, rest) =>
          match skipSpace rest with
          | '\x7d' :: rest => some (state, rest)
          | ',' :: rest => readFields take state fuel rest
          | _ => none
      | _ => none

/-- What was read, if nothing but blanks stands behind it. -/
def readWhole {α : Type} : Option (α × List Char) → Option α
  | some (a, rest) => if skipSpace rest = [] then some a else none
  | none => none

end Json

end CatalogDesk
