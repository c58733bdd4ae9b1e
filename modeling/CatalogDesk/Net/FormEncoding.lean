import CatalogDesk.Json.Reader
import CatalogDesk.Text.Utf8

/-! # Form encoding

    Pairs of texts as one line: `name=value` joined by `&`, a blank written `+`, and
    every octet that is not a letter, a digit or one of `*-._` written in hexadecimal
    after `%`.  Reading accepts any line. -/

namespace CatalogDesk.FormEncoding

/-- A name with its value. -/
abbrev Pairs := List (String × String)

/-- Is the octet written as itself? -/
def isPlain (b : UInt8) : Bool :=
  let c := Char.ofNat b.toNat
  b < 0x80 && (c.isAlphanum || c = '*' || c = '-' || c = '.' || c = '_')

/-- The upper-case hexadecimal digit of a number below sixteen. -/
def upperHex (n : Nat) : Char :=
  if n < 10 then Char.ofNat (48 + n) else Char.ofNat (55 + n)

/-- An octet after `%`. -/
def percent (b : UInt8) : List Char :=
  ['%', upperHex (b.toNat / 16), upperHex (b.toNat % 16)]

/-- An octet as written. -/
def encodeOctet (b : UInt8) : List Char :=
  if b = 0x20 then ['+']
  else if isPlain b then [Char.ofNat b.toNat]
  else percent b

/-- A name or value as written. -/
def encodeChars (cs : List Char) : List Char :=
  (Text.encodeChars cs).flatMap encodeOctet

def encodePair (p : String × String) : List Char :=
  encodeChars p.1.toList ++ '=' :: encodeChars p.2.toList

/-- The pairs with `&` between them. -/
def encodePairs : Pairs → List Char
  | [] => []
  | [p] => encodePair p
  | p :: q :: ps => encodePair p ++ '&' :: encodePairs (q :: ps)

/-- The line of the pairs. -/
def encode (ps : Pairs) : String :=
  String.ofList (encodePairs ps)

/-! ## Reading -/

/-- Octets with `%` and two hexadecimal digits read as one; a `%` without them stays. -/
def unpercent : List UInt8 → List UInt8
  | [] => []
  | b :: rest =>
    if b = 0x25 then
      match rest with
      | h :: l :: rest =>
        match Json.hexValue? (Char.ofNat h.toNat), Json.hexValue? (Char.ofNat l.toNat) with
        | some x, some y => .ofNat (x * 16 + y) :: unpercent rest
        | _, _ => b :: unpercent (h :: l :: rest)
      | rest => b :: rest
    else b :: unpercent rest

/-- The text of a name or value as written. -/
def decodeChars (cs : List Char) : List Char :=
  Text.decode (unpercent ((Text.encodeChars cs).map fun b => if b = 0x2B then 0x20 else b))

/-- The pieces between the separators; always at least one. -/
def splitOn (sep : Char) : List Char → List (List Char)
  | [] => [[]]
  | c :: cs =>
    if c = sep then [] :: splitOn sep cs
    else
      match splitOn sep cs with
      | [] => [[c]]
      | piece :: pieces => (c :: piece) :: pieces

/-- The pair of a piece: name and value stand around the first `=`. -/
def decodePair (cs : List Char) : String × String :=
  let name := cs.takeWhile (· ≠ '=')
  let value := (cs.dropWhile (· ≠ '=')).drop 1
  (String.ofList (decodeChars name), String.ofList (decodeChars value))

/-- The pairs of a line; empty pieces are skipped. -/
def decode (s : String) : Pairs :=
  ((splitOn '&' s.toList).filter (· ≠ [])).map decodePair

end CatalogDesk.FormEncoding
