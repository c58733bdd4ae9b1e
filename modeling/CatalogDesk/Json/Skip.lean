import CatalogDesk.Json.Reader

/-! # Passing over data values

    A value that nobody wants is passed over.  Only its form is looked at: it may nest to any
    depth, its numbers may be of any size, and its texts may hold halves of characters. -/

namespace CatalogDesk.Json

/-- What stands behind a quoted text; `cs` starts behind its first quote. -/
def skipText : List Char → Option (List Char)
  | [] => none
  | '"' :: cs => some cs
  | '\\' :: 'u' :: a :: b :: c :: d :: cs =>
    if (hex4? a b c d).isSome then skipText cs else none
  | '\\' :: c :: cs => if (simpleEscape? c).isSome then skipText cs else none
  | c :: cs => if c.toNat < 0x20 then none else skipText cs

/-- What stands behind an exponent, if there is one. -/
def skipExponent : List Char → Option (List Char)
  | [] => some []
  | c :: cs => if c = 'e' || c = 'E' then (splitExponent cs).map (·.2.2) else some (c :: cs)

/-- What stands behind a number without sign. -/
def skipMagnitude (cs : List Char) : Option (List Char) :=
  match cs.takeWhile Char.isDigit with
  | [] => none
  | '0' :: _ :: _ => none
  | _ =>
    match cs.dropWhile Char.isDigit with
    | '.' :: r =>
      if r.takeWhile Char.isDigit = [] then none else skipExponent (r.dropWhile Char.isDigit)
    | r => skipExponent r

/-- What stands behind a value that holds no others. -/
def skipLeaf (cs : List Char) : Option (List Char) :=
  match cs with
  | 'n' :: _ => dropWord ['n', 'u', 'l', 'l'] cs
  | 't' :: _ => dropWord ['t', 'r', 'u', 'e'] cs
  | 'f' :: _ => dropWord ['f', 'a', 'l', 's', 'e'] cs
  | '"' :: r => skipText r
  | '-' :: r => skipMagnitude r
  | r => skipMagnitude r

mutual

/-- What stands behind a value; `cs` starts at its first character.  Twice as much fuel as
    there are characters is more than enough. -/
def skipValue : Nat → List Char → Option (List Char)
  | 0, _ => none
  | fuel + 1, '[' :: cs =>
    match skipSpace cs with
    | ']' :: rest => some rest
    | cs => skipItems fuel cs
  | fuel + 1, '\x7b' :: cs =>
    match skipSpace cs with
    | '\x7d' :: rest => some rest
    | cs => skipMembers fuel cs
  | _ + 1, cs => skipLeaf cs

/-- What stands behind the items of a list and its closing bracket. -/
def skipItems : Nat → List Char → Option (List Char)
  | 0, _ => none
  | fuel + 1, cs =>
    match (skipValue fuel (skipSpace cs)).map skipSpace with
    | some (']' :: rest) => some rest
    | some (',' :: rest) => skipItems fuel rest
    | _ => none

/-- What stands behind the members of an object and its closing brace. -/
def skipMembers : Nat → List Char → Option (List Char)
  | 0, _ => none
  | fuel + 1, cs =>
    match skipSpace cs with
    | '"' :: rest =>
      match (skipText rest).map skipSpace with
      | some (':' :: rest) =>
        match (skipValue fuel (skipSpace rest)).map skipSpace with
        | some ('\x7d' :: rest) => some rest
        | some (',' :: rest) => skipMembers fuel rest
        | _ => none
      | _ => none
    | _ => none

end

end CatalogDesk.Json
