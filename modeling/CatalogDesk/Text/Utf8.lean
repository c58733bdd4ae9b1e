/-! # Text as octets

    Characters become one to four octets.  Reading octets never fails: where they are
    no character, the longest piece that could start one is read as U+FFFD.

    A place in a text is the number of octets before it.  A text can be edited at its two
    ends and between two of its characters; an edit at any other place fails. -/

namespace CatalogDesk.Text

/-- The octets of a character. -/
def encodeChar (c : Char) : List UInt8 :=
  let n := c.toNat
  if n < 0x80 then [.ofNat n]
  else if n < 0x800 then [.ofNat (0xC0 + n / 0x40), .ofNat (0x80 + n % 0x40)]
  else if n < 0x10000 then
    [.ofNat (0xE0 + n / 0x1000), .ofNat (0x80 + n / 0x40 % 0x40), .ofNat (0x80 + n % 0x40)]
  else
    [.ofNat (0xF0 + n / 0x40000), .ofNat (0x80 + n / 0x1000 % 0x40),
      .ofNat (0x80 + n / 0x40 % 0x40), .ofNat (0x80 + n % 0x40)]

/-- The octets of characters. -/
def encodeChars (cs : List Char) : List UInt8 :=
  cs.flatMap encodeChar

/-- The octets of a text. -/
def octets (s : String) : List UInt8 :=
  encodeChars s.toList

/-- Does the octet continue a character? -/
def isTail (b : UInt8) : Bool :=
  0x80 ≤ b && b ≤ 0xBF

/-- The octets that may follow a first octet of three or four. -/
def isSecond (a b : UInt8) : Bool :=
  if a = 0xE0 then 0xA0 ≤ b && b ≤ 0xBF
  else if a = 0xED then 0x80 ≤ b && b ≤ 0x9F
  else if a = 0xF0 then 0x90 ≤ b && b ≤ 0xBF
  else if a = 0xF4 then 0x80 ≤ b && b ≤ 0x8F
  else isTail b

/-- What stands for octets that are no character. -/
def replacement : Char := Char.ofNat 0xFFFD

/-- The character with the bits of a first octet and its tails. -/
def joinBits (first : Nat) (tails : List UInt8) : Char :=
  Char.ofNat (tails.foldl (fun n b => n * 0x40 + (b.toNat - 0x80)) first)

/-- The characters that octets stand for; what is no character becomes U+FFFD. -/
def decode : List UInt8 → List Char
  | [] => []
  | a :: rest =>
    if a < 0x80 then Char.ofNat a.toNat :: decode rest
    else if 0xC2 ≤ a && a ≤ 0xDF then
      match rest with
      | b :: r =>
        if isTail b then joinBits (a.toNat - 0xC0) [b] :: decode r
        else replacement :: decode (b :: r)
      | [] => [replacement]
    else if 0xE0 ≤ a && a ≤ 0xEF then
      match rest with
      | b :: r =>
        if isSecond a b then
          match r with
          | c :: r =>
            if isTail c then joinBits (a.toNat - 0xE0) [b, c] :: decode r
            else replacement :: decode (c :: r)
          | [] => [replacement]
        else replacement :: decode (b :: r)
      | [] => [replacement]
    else if 0xF0 ≤ a && a ≤ 0xF4 then
      match rest with
      | b :: r =>
        if isSecond a b then
          match r with
          | c :: r =>
            if isTail c then
              match r with
              | d :: r =>
                if isTail d then joinBits (a.toNat - 0xF0) [b, c, d] :: decode r
                else replacement :: decode (d :: r)
              | [] => [replacement]
            else replacement :: decode (c :: r)
          | [] => [replacement]
        else replacement :: decode (b :: r)
      | [] => [replacement]
    else replacement :: decode rest

/-- The text that octets stand for, if they are the octets of one. -/
def decodeExact? (bs : List UInt8) : Option String :=
  let cs := decode bs
  if encodeChars cs = bs then some (String.ofList cs) else none

/-! ## Editing at an octet -/

/-- The octets at which characters begin, if the first of them begins at `start`. -/
def charStarts (start : Nat) : List Char → List Nat
  | [] => []
  | c :: cs => start :: charStarts (start + c.utf8Size) cs

/-- The octet at which the character with that number begins.  Behind the last character it
    is the end of the text. -/
def octetOf (s : String) (n : Nat) : Nat :=
  ((charStarts 0 s.toList)[n]?).getD s.utf8ByteSize

/-- Inserts a character in front of an octet. -/
def insertAt? (s : String) (octet : Nat) (c : Char) : Option String :=
  (s.pos? ⟨octet⟩).map fun p => (s.sliceTo p).copy ++ String.singleton c ++ (s.sliceFrom p).copy

/-- Removes the character that begins at an octet; there is none at the end. -/
def removeAt? (s : String) (octet : Nat) : Option String :=
  (s.pos? ⟨octet⟩).bind fun p =>
    if h : p = s.endPos then none
    else some ((s.sliceTo p).copy ++ (s.sliceFrom (p.next h)).copy)

end CatalogDesk.Text
