import CatalogDesk.Toml.Lexeme

/-! # Reading settings documents

    A document is a row of lines: headers that begin a table, and values under names.
    Anything that is not well formed makes the whole document unreadable. -/

namespace CatalogDesk.Toml

/-- Lists and tables in braces may be nested this deep. -/
def maxDepth : Nat := 80

/-- The items of a list after its opening bracket, each read by `item`. -/
def listItems? (item : List Char → Read Value) (acc : List Value) (cs : List Char) :
    Nat → Read (List Value)
  | 0 => none
  | fuel + 1 =>
    match skipAll cs with
    | ']' :: rest => some (acc.reverse, rest)
    | cs =>
      match item cs with
      | none => none
      | some (v, rest) =>
        match skipAll rest with
        | ',' :: rest => listItems? item (v :: acc) rest fuel
        | ']' :: rest => some ((v :: acc).reverse, rest)
        | _ => none

/-- A name, the equals sign and the value. -/
def pair? (item : List Char → Read Value) (cs : List Char) :
    Read ((List String × String) × Value) :=
  match name? cs with
  | none => none
  | some (name, cs) =>
    match skipBlanks cs with
    | '=' :: cs => (item (skipBlanks cs)).map fun p => ((name, p.1), p.2)
    | _ => none

/-- The values of a table in braces after its opening brace. -/
def tableItems? (item : List Char → Read Value) (acc : Entries) (cs : List Char) :
    Nat → Read Entries
  | 0 => none
  | fuel + 1 =>
    match skipAll cs with
    | '\x7d' :: rest => some (acc, rest)
    | cs =>
      match pair? item cs with
      | none => none
      | some ((name, v), rest) =>
        match acc.addValue? .closed name.1 name.2 v with
        | none => none
        | some acc =>
          match skipAll rest with
          | ',' :: rest => tableItems? item acc rest fuel
          | '\x7d' :: rest => some (acc, rest)
          | _ => none

/-- A value that is neither a list nor a table. -/
def leaf? (cs : List Char) : Read Value :=
  match cs with
  | '"' :: _ => (text? cs).map fun p => (.text p.1, p.2)
  | '\'' :: _ => (text? cs).map fun p => (.text p.1, p.2)
  | _ =>
    let (word, rest) := splitWord cs
    (wordValue? word).map fun v => (v, rest)

/-- A value with at most so many levels of lists and tables. -/
def value? (cs : List Char) : Nat → Read Value
  | 0 => none
  | depth + 1 =>
    match cs with
    | '[' :: rest =>
      (listItems? (fun cs => value? cs depth) [] rest (cs.length + 1)).map fun p =>
        (.list false p.1, p.2)
    | '\x7b' :: rest =>
      (tableItems? (fun cs => value? cs depth) [] rest (cs.length + 1)).map fun p =>
        (.table .closed p.1, p.2)
    | _ => leaf? cs

/-- What has been read so far: all tables, and the path of the one under the last
    header. -/
structure Document where
  entries : Entries := []
  path : List String := []
  deriving Inhabited

namespace Document

/-- Begins a table under a header. -/
def header? (d : Document) (name : List String × String) (ofList : Bool) : Option Document :=
  let add := if ofList then d.entries.addListHeader? else d.entries.addHeader?
  (add name.1 name.2).map fun entries => { entries, path := name.1 ++ [name.2] }

/-- Defines a value in the current table. -/
def define? (d : Document) (name : List String × String) (v : Value) : Option Document :=
  (Entries.changeAt false .headed d.entries d.path fun kind es =>
    es.addValue? kind name.1 name.2 v).map fun entries => { d with entries }

/-- The content of a line that is not blank. -/
def line? (d : Document) (cs : List Char) : Read Document :=
  match cs with
  | '[' :: '[' :: rest =>
    match name? rest with
    | some (name, ']' :: ']' :: rest) => (d.header? name true).map fun d => (d, rest)
    | _ => none
  | '[' :: rest =>
    match name? rest with
    | some (name, ']' :: rest) => (d.header? name false).map fun d => (d, rest)
    | _ => none
  | _ =>
    match pair? (fun cs => value? cs maxDepth) cs with
    | some ((name, v), rest) => (d.define? name v).map fun d => (d, rest)
    | none => none

/-- The lines from here on. -/
def lines? (d : Document) (cs : List Char) : Nat → Option Document
  | 0 => none
  | fuel + 1 =>
    match skipAll cs with
    | [] => some d
    | cs =>
      match d.line? cs with
      | none => none
      | some (d, rest) =>
        match skipComment (skipBlanks rest) with
        | [] => some d
        | rest =>
          match lineEnd? rest with
          | some rest => d.lines? rest fuel
          | none => none

end Document

/-- The byte order mark, which may stand in front of a document. -/
def byteOrderMark : Char := Char.ofNat 0xFEFF

/-- The values of a document. -/
def read? (s : String) : Option Entries :=
  let cs := match s.toList with
    | c :: cs => if c = byteOrderMark then cs else c :: cs
    | [] => []
  (Document.lines? {} cs (cs.length + 1)).map (·.entries)

end CatalogDesk.Toml
