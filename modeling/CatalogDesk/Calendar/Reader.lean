import CatalogDesk.Calendar.Timestamp
import CatalogDesk.Text.Blank

/-! # Reading instants

    Two forms are accepted.  The first is strict: two digits everywhere, a date, `T`
    or a blank, a time, and an offset to UTC.  The second has no offset and is lenient:
    blanks before numbers, short numbers and signed years are allowed.  `ofText` tries
    the strict form and then the lenient one, whose error is the one that counts. -/

namespace CatalogDesk

/-- Why a text is not an instant. -/
inductive TimeError where
  | outOfRange
  | invalid
  | tooShort
  | tooLong
  deriving DecidableEq, Repr

def TimeError.message : TimeError → String
  | .outOfRange => "input is out of range"
  | .invalid => "input contains invalid characters"
  | .tooShort => "premature end of input"
  | .tooLong => "trailing input"

namespace Timestamp

/-- The length of the characters in bytes. -/
def byteLength (cs : List Char) : Nat :=
  cs.foldl (fun n c => n + c.utf8Size) 0

/-- The largest number that reading handles. -/
def maxNumber : Nat := Nat.pow 2 63 - 1

/-- The leading digits of `cs`, at most `max` of them when there is a limit. -/
def leadingDigits (max : Option Nat) (cs : List Char) : List Char :=
  match max with
  | some n => (cs.take n).takeWhile Char.isDigit
  | none => cs.takeWhile Char.isDigit

/-- The number that digits denote. -/
def digitsValue (ds : List Char) : Nat :=
  ds.foldl (fun n c => n * 10 + (c.toNat - '0'.toNat)) 0

/-- A number of at least `min` and at most `max` digits. -/
def number (min : Nat) (max : Option Nat) (cs : List Char) : Except TimeError (Nat × List Char) :=
  if byteLength cs < min then .error .tooShort
  else
    let ds := leadingDigits max cs
    let n := digitsValue ds
    if maxNumber < n then .error .outOfRange
    else if ds.length < min then .error .invalid
    else .ok (n, cs.drop ds.length)

/-- One given character. -/
def literal (c : Char) : List Char → Except TimeError (Unit × List Char)
  | [] => .error .tooShort
  | d :: cs => if d = c then .ok ((), cs) else .error .invalid

/-- Digits after the point, as nanoseconds; digits after the ninth are dropped. -/
def fraction (cs : List Char) : Except TimeError (Nat × List Char) := do
  let (n, rest) ← number 1 (some 9) cs
  let used := cs.length - rest.length
  .ok (n * Nat.pow 10 (9 - used), rest.dropWhile Char.isDigit)

/-- The fraction that may follow the seconds. -/
def optionalFraction : List Char → Except TimeError (Nat × List Char)
  | '.' :: cs => fraction cs
  | cs => .ok (0, cs)

/-- Is the number in the range of its field? -/
def inRange (low high n : Nat) : Except TimeError Unit :=
  if low ≤ n && n ≤ high then .ok () else .error .outOfRange

/-- A number of a field with its range. -/
def field (min low high : Nat) (cs : List Char) : Except TimeError (Nat × List Char) := do
  let (n, rest) ← number min (some 2) cs
  inRange low high n
  .ok (n, rest)

/-- The date and the time of day that the fields denote.  Second 60 is the leap second
    after second 59. -/
def assemble (year : Int) (month day hour minute second nano : Nat) :
    Except TimeError (Date × Nat × Nat) :=
  let date : Date := ⟨year, month, day⟩
  if date.isValid then
    if second = 60 then .ok (date, hour * 3600 + minute * 60 + 59, nano + 1000000000)
    else .ok (date, hour * 3600 + minute * 60 + second, nano)
  else .error .outOfRange

/-! ## The strict form -/

/-- Two digits of an offset. -/
def offsetDigits : List Char → Except TimeError (Nat × List Char)
  | a :: b :: cs =>
    if a.isDigit && b.isDigit then .ok (digitsValue [a, b], cs) else .error .invalid
  | _ => .error .tooShort

/-- The offset to the east of UTC in seconds: `Z`, or a sign, hours, a colon and
    minutes. -/
def offset : List Char → Except TimeError (Int × List Char)
  | [] => .error .tooShort
  | c :: cs =>
    if c = 'Z' || c = 'z' then .ok (0, cs)
    else if c = '+' || c = '-' || c.toNat = 0x2212 then do
      let (hours, rest) ← offsetDigits cs
      let ((), rest) ← literal ':' rest
      let (minutes, rest) ← offsetDigits rest
      if 59 < minutes then .error .outOfRange
      else
        let seconds : Int := (hours * 3600 + minutes * 60 : Nat)
        .ok (if c = '+' then seconds else -seconds, rest)
    else .error .invalid

/-- The largest offset: 23 hours and 59 minutes. -/
def maxOffset : Nat := (23 * 60 + 59) * 60

/-- The letter or blank between date and time. -/
def separator : List Char → Except TimeError (Unit × List Char)
  | [] => .error .tooShort
  | c :: cs => if c = 'T' || c = 't' || c = ' ' then .ok ((), cs) else .error .invalid

/-- An instant with its offset to UTC. -/
def readStrict (cs : List Char) : Except TimeError Timestamp := do
  let (year, cs) ← number 4 (some 4) cs
  let ((), cs) ← literal '-' cs
  let (month, cs) ← field 2 1 12 cs
  let ((), cs) ← literal '-' cs
  let (day, cs) ← field 2 1 31 cs
  let ((), cs) ← separator cs
  let (hour, cs) ← field 2 0 23 cs
  let ((), cs) ← literal ':' cs
  let (minute, cs) ← field 2 0 59 cs
  let ((), cs) ← literal ':' cs
  let (second, cs) ← field 2 0 60 cs
  let (nano, cs) ← optionalFraction cs
  let (east, cs) ← offset cs
  if maxOffset < east.natAbs then .error .outOfRange
  else if cs ≠ [] then .error .tooLong
  else
    let (date, seconds, nano) ← assemble year month day hour minute second nano
    .ok (ofLocal date seconds nano east)

/-! ## The lenient form -/

/-- The years that fit the year field. -/
def maxFieldYear : Int := 2147483647

/-- A year: with a sign any count of digits, without one at most four. -/
def lenientYear (cs : List Char) : Except TimeError (Int × List Char) := do
  let (year, rest) ← match Text.dropBlank cs with
    | '-' :: cs => (number 1 none cs).map fun (n, rest) => (-(n : Int), rest)
    | '+' :: cs => (number 1 none cs).map fun (n, rest) => ((n : Int), rest)
    | cs => (number 1 (some 4) cs).map fun (n, rest) => ((n : Int), rest)
  if year < -maxFieldYear - 1 || maxFieldYear < year then .error .outOfRange
  else .ok (year, rest)

/-- A number of one or two digits after any blanks. -/
def lenientField (low high : Nat) (cs : List Char) : Except TimeError (Nat × List Char) :=
  field 1 low high (Text.dropBlank cs)

/-- An instant in UTC without an offset. -/
def readLenient (cs : List Char) : Except TimeError Timestamp := do
  let (year, cs) ← lenientYear cs
  let ((), cs) ← literal '-' cs
  let (month, cs) ← lenientField 1 12 cs
  let ((), cs) ← literal '-' cs
  let (day, cs) ← lenientField 1 31 cs
  let ((), cs) ← literal 'T' cs
  let (hour, cs) ← lenientField 0 23 cs
  let ((), cs) ← literal ':' cs
  let (minute, cs) ← lenientField 0 59 cs
  let ((), cs) ← literal ':' cs
  let (second, cs) ← lenientField 0 60 cs
  let (nano, cs) ← optionalFraction cs
  if cs ≠ [] then .error .tooLong
  else
    let (date, seconds, nano) ← assemble year month day hour minute second nano
    .ok ⟨date, seconds, nano⟩

/-- The instant that a text denotes. -/
def ofText (s : String) : Except TimeError Timestamp :=
  match readStrict s.toList with
  | .ok t => .ok t
  | .error _ => readLenient s.toList

end Timestamp

end CatalogDesk
