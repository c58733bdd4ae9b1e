import CatalogDesk.Net.FormEncoding

/-! # Web addresses

    The address of a request in its normal form: dot segments resolved, and characters
    that may not stand in an address written in hexadecimal after `%`.  Only addresses
    with a host and one of the two web schemes are accepted.

    Main definitions: `Address.ofText?`, `Address.withQuery`, `Address.target`. -/

namespace CatalogDesk

/-- An address in its normal form. -/
structure Address where
  secure : Bool
  host : String
  /-- The number of the socket, unless it is the scheme's own. -/
  socket : Option Nat
  /-- The parts between slashes, of which there is at least one. -/
  path : List String
  query : Option String
  fragment : Option String
  deriving DecidableEq, Inhabited, Repr

namespace Address

/-! ## Escaping -/

/-- Characters that no part of an address can hold. -/
def isReserved (c : Char) : Bool :=
  c.toNat ≤ 0x20 || 0x7F ≤ c.toNat || c = '"' || c = '<' || c = '>'

def inPath (c : Char) : Bool :=
  isReserved c || c = '#' || c = '?' || c = '`' || c = '\x7b' || c = '\x7d'

def inQuery (c : Char) : Bool := isReserved c || c = '#' || c = '\''

def inFragment (c : Char) : Bool := isReserved c || c = '`'

/-- The characters with those of a set escaped. -/
def escape (set : Char → Bool) (cs : List Char) : String :=
  String.ofList (cs.flatMap fun c =>
    if set c then (Text.encodeChar c).flatMap FormEncoding.percent else [c])

/-! ## Hosts -/

/-- Characters that no host can hold. -/
def isForbidden (c : Char) : Bool :=
  c.toNat ≤ 0x20 || c.toNat = 0x7F ||
    ['#', '/', ':', '<', '>', '?', '@', '[', '\\', ']', '^', '|', '%'].contains c

/-- The number that a part of a numeric host writes, in one of three bases. -/
def hostNumber? (cs : List Char) : Option Nat :=
  let number (base : Nat) (ds : List Char) : Option Nat :=
    ds.foldlM (fun n c =>
      (Json.hexValue? c).bind fun d => if d < base then some (n * base + d) else none) 0
  match cs with
  | [] => none
  | '0' :: 'x' :: ds => number 16 ds
  | '0' :: 'X' :: ds => number 16 ds
  | '0' :: ds => number 8 ds
  | ds => number 10 ds

/-- The parts of a host between points; a point at the end does not count. -/
def hostParts (cs : List Char) : List (List Char) :=
  let parts := ((String.ofList cs).splitOn ".").map String.toList
  if 1 < parts.length && parts.getLast? = some [] then parts.dropLast else parts

/-- Is a host numeric, by its last part? -/
def looksNumeric (parts : List (List Char)) : Bool :=
  match parts.getLast? with
  | some part => (part ≠ [] && part.all Char.isDigit) || (hostNumber? part).isSome
  | none => false

/-- Do the parts of a numeric host fit four octets? -/
def isFourOctets (parts : List (List Char)) : Bool :=
  match parts.mapM hostNumber? with
  | none => false
  | some ns =>
    ns.length ≤ 4 && ns.dropLast.all (· < 256) &&
      (ns.getLast?).all fun n => n < Nat.pow 256 (5 - ns.length)

/-- Is the text inside brackets a row of eight groups, of which zeros may be left out
    once? -/
def isGroups (cs : List Char) : Bool :=
  let isGroup (g : String) : Bool :=
    let ds := g.toList
    ds ≠ [] && ds.length ≤ 4 && ds.all fun c => (Json.hexValue? c).isSome
  let groups (s : String) : Option Nat :=
    if s = "" then some 0
    else
      let gs := s.splitOn ":"
      if gs.all isGroup then some gs.length else none
  match (String.ofList cs).splitOn "::" with
  | [whole] => groups whole = some 8
  | [front, back] =>
    match groups front, groups back with
    | some a, some b => a + b ≤ 7
    | _, _ => false
  | _ => false

/-- A host in its normal form. -/
def host? (cs : List Char) : Option String :=
  match cs with
  | '[' :: rest =>
    if rest.getLast? = some ']' && isGroups rest.dropLast then
      some (String.ofList (cs.map Char.toLower))
    else none
  | [] => none
  | _ =>
    let cs := (Text.decode (FormEncoding.unpercent (Text.encodeChars cs))).map Char.toLower
    let parts := hostParts cs
    if cs.any isForbidden then none
    else if looksNumeric parts && !isFourOctets parts then none
    else some (String.ofList cs)

/-- The number of a socket; an empty one is the scheme's own. -/
def socket? (own : Nat) (cs : List Char) : Option (Option Nat) :=
  if !cs.all Char.isDigit then none
  else
    let n := Binary64.appendDigits 0 cs
    if 65535 < n then none
    else some (if cs = [] || n = own then none else some n)

/-- The end of a host, before the number of its socket. -/
def splitHost (cs : List Char) : List Char × List Char :=
  match cs with
  | '[' :: _ =>
    let inside := cs.takeWhile (· ≠ ']')
    let rest := cs.drop inside.length
    (inside ++ rest.take 1, rest.drop 1)
  | _ => (cs.takeWhile (· ≠ ':'), cs.dropWhile (· ≠ ':'))

/-- Host and socket of an authority, without the user in front of it. -/
def authority? (own : Nat) (cs : List Char) : Option (String × Option Nat) := do
  let server := (cs.reverse.takeWhile (· ≠ '@')).reverse
  let (name, rest) := splitHost server
  let host ← host? name
  match rest with
  | [] => some (host, none)
  | ':' :: ds => (socket? own ds).map fun socket => (host, socket)
  | _ => none

/-! ## Paths -/

def isSlash (c : Char) : Bool := c = '/' || c = '\\'

/-- The parts between slashes. -/
def splitSlashes (cs : List Char) : List (List Char) :=
  cs.foldr (fun c acc =>
    if isSlash c then [] :: acc
    else
      match acc with
      | part :: rest => (c :: part) :: rest
      | [] => [[c]]) [[]]

/-- A part with escaped points written out, when it is nothing but points. -/
def points (part : List Char) : String :=
  (((String.ofList part).toLower).replace "%2e" ".")

/-- Resolves the dot segments; the parts so far are given in reverse. -/
def resolve (done : List String) : List (List Char) → List String
  | [] => done.reverse
  | part :: rest =>
    let ends := rest.isEmpty
    if points part = ".." then
      resolve (if ends then "" :: done.drop 1 else done.drop 1) rest
    else if points part = "." then resolve (if ends then "" :: done else done) rest
    else resolve (escape inPath part :: done) rest

/-- The parts of a path as written. -/
def pathOf (cs : List Char) : List String :=
  match cs with
  | [] => [""]
  | c :: rest => resolve [] (splitSlashes (if isSlash c then rest else c :: rest))

/-! ## Reading -/

/-- The characters of an address without the blanks around it and the tabs and ends of
    lines inside. -/
def cleaned (s : String) : List Char :=
  let isEdge (c : Char) : Bool := c.toNat ≤ 0x20
  let cs := ((s.toList.dropWhile isEdge).reverse.dropWhile isEdge).reverse
  cs.filter fun c => c ≠ '\t' && c ≠ '\n' && c ≠ '\r'

/-- The part after a mark, if the mark is there. -/
def after (mark : Char) (cs : List Char) : Option (List Char) :=
  match cs.dropWhile (· ≠ mark) with
  | [] => none
  | _ :: rest => some rest

/-- What follows the scheme; with it, whether the connection is a secure one. -/
def scheme? (cs : List Char) : Option (Bool × List Char) :=
  let name := (String.ofList (cs.takeWhile (· ≠ ':'))).toLower
  (after ':' cs).bind fun rest =>
    if name = "http" then some (false, rest)
    else if name = "https" then some (true, rest)
    else none

/-- The address that a text writes. -/
def ofText? (s : String) : Option Address := do
  let (secure, cs) ← scheme? (cleaned s)
  let cs := cs.dropWhile isSlash
  let isEnd (c : Char) : Bool := isSlash c || c = '?' || c = '#'
  let (host, socket) ← authority? (if secure then 443 else 80) (cs.takeWhile fun c => !isEnd c)
  let cs := cs.dropWhile fun c => !isEnd c
  let fragment := (after '#' cs).map (escape inFragment)
  let cs := cs.takeWhile (· ≠ '#')
  let query := (after '?' cs).map (escape inQuery)
  some { secure, host, socket, path := pathOf (cs.takeWhile (· ≠ '?')), query, fragment }

/-! ## Writing -/

/-- The address with pairs appended to its query. -/
def withQuery (a : Address) (pairs : FormEncoding.Pairs) : Address :=
  if pairs.isEmpty then a
  else
    let added := FormEncoding.encode pairs
    match a.query with
    | none => { a with query := some added }
    | some "" => { a with query := some added }
    | some q => { a with query := some (q ++ "&" ++ added) }

/-- What is asked of the host: path and query. -/
def target (a : Address) : String :=
  "/" ++ String.intercalate "/" a.path ++ (match a.query with
    | some q => "?" ++ q
    | none => "")

/-- The text of the address. -/
def text (a : Address) : String :=
  (if a.secure then "https://" else "http://") ++ a.host ++
    (match a.socket with
     | some p => ":" ++ toString p
     | none => "") ++ a.target ++
    (match a.fragment with
     | some f => "#" ++ f
     | none => "")

end Address

end CatalogDesk
