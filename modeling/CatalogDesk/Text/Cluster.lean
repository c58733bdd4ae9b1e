import CatalogDesk.Text.ClusterTable
import CatalogDesk.Text.Combining

/-! # Clusters

    What a reader takes for one character may be several: a letter with its accents, a
    Hangul syllable spelt in parts, a flag, a picture joined from pictures.  A text is
    cut into such clusters by the boundary rules of Unicode; whatever draws a text or
    counts its columns works cluster by cluster.

    The rules look at the character on either side of a possible cut and at a little of
    what came before it, which `Join` keeps. -/

namespace CatalogDesk.Text

/-- Where a Hangul character stands in its syllable. -/
inductive HangulPart
  | leading
  | vowel
  | trailing
  | openSyllable
  | closedSyllable
  deriving DecidableEq, Repr

/-- The part of a Hangul syllable that the character is. -/
def hangulPart? (c : Char) : Option HangulPart :=
  let n := c.toNat
  if n < 0x1100 then none
  else if n ≤ 0x115F || (0xA960 ≤ n && n ≤ 0xA97C) then some .leading
  else if n ≤ 0x11A7 || (0xD7B0 ≤ n && n ≤ 0xD7C6) then some .vowel
  else if n ≤ 0x11FF || (0xD7CB ≤ n && n ≤ 0xD7FB) then some .trailing
  else if 0xAC00 ≤ n && n ≤ 0xD7A3 then
    some (if (n - 0xAC00) % 28 == 0 then .openSyllable else .closedSyllable)
  else none

/-- Does a syllable go on from the first part to the second? -/
def HangulPart.joins : HangulPart → HangulPart → Bool
  | .leading, .leading | .leading, .vowel | .leading, .openSyllable
  | .leading, .closedSyllable => true
  | .openSyllable, .vowel | .openSyllable, .trailing
  | .vowel, .vowel | .vowel, .trailing => true
  | .closedSyllable, .trailing | .trailing, .trailing => true
  | _, _ => false

/-- The character that joins two pictures into one. -/
def joiner : Char := '\u200D'

/-- Is the character one half of a flag? -/
def isRegional (c : Char) : Bool :=
  0x1F1E6 ≤ c.toNat && c.toNat ≤ 0x1F1FF

/-- Is the character one of the five skin tones? -/
def isSkinTone (c : Char) : Bool :=
  0x1F3FB ≤ c.toNat && c.toNat ≤ 0x1F3FF

/-- Is the character a picture? -/
def isPicture (c : Char) : Bool :=
  0xA9 ≤ c.toNat && Ranges.contains c.toNat pictographicRanges

/-- Does the character extend whatever comes before it? -/
def extendsCluster (c : Char) : Bool :=
  c == joiner || isCombining c || isSkinTone c

/-- Does the character stand alone, cut off on both sides? -/
def standsAlone (c : Char) : Bool :=
  c == '\n' || c == '\r' || Ranges.contains c.toNat controlRanges

/-- Does the sign bind the consonants around it together? -/
def isConjunctSign (c : Char) : Bool :=
  c.toNat == 0x94D || c.toNat == 0x9CD || c.toNat == 0xACD || c.toNat == 0xB4D ||
    c.toNat == 0xC4D || c.toNat == 0xD4D

/-- Is the character a consonant that such a sign can bind? -/
def isConjunctLetter (c : Char) : Bool :=
  0x915 ≤ c.toNat && Ranges.contains c.toNat conjunctRanges

/-- What the next boundary depends on, at the end of a cluster in the making. -/
structure Join where
  /-- The character just read. -/
  last : Char
  /-- Half a flag waits for its other half. -/
  halfFlag : Bool
  /-- A picture came last, marks on it aside. -/
  picture : Bool
  /-- The picture is followed by the joiner. -/
  joined : Bool
  /-- A consonant came last, marks on it aside. -/
  letter : Bool
  /-- A binding sign stands among those marks. -/
  bound : Bool
  deriving Repr

/-- A cluster that begins with the character. -/
def Join.start (c : Char) : Join where
  last := c
  halfFlag := isRegional c
  picture := isPicture c
  joined := false
  letter := isConjunctLetter c
  bound := false

/-- Does the character belong to the cluster? -/
def Join.takes (j : Join) (c : Char) : Bool :=
  if c.toNat < 0x300 && j.last.toNat < 0x300 then j.last == '\r' && c == '\n'
  else if standsAlone j.last || standsAlone c then false
  else if extendsCluster c || Ranges.contains c.toNat spacingRanges then true
  else if Ranges.contains j.last.toNat prependRanges then true
  else if j.halfFlag && isRegional c then true
  else if j.joined && isPicture c then true
  else if j.bound && isConjunctLetter c then true
  else match hangulPart? j.last, hangulPart? c with
    | some a, some b => a.joins b
    | _, _ => false

/-- The cluster with the character taken in. -/
def Join.take (j : Join) (c : Char) : Join where
  last := c
  halfFlag := !j.halfFlag && isRegional c
  picture := isPicture c || (j.picture && extendsCluster c && c != joiner)
  joined := j.picture && c == joiner
  letter := isConjunctLetter c || (j.letter && extendsCluster c)
  bound := j.letter && extendsCluster c && (j.bound || isConjunctSign c)

/-- The clusters of the rest of a text; the cluster in the making is given backwards. -/
def clustersFrom (j : Join) (made : List Char) : List Char → List (List Char)
  | [] => [made.reverse]
  | c :: rest =>
    if j.takes c then clustersFrom (j.take c) (c :: made) rest
    else made.reverse :: clustersFrom (Join.start c) [c] rest

/-- The clusters of a text, in order. -/
def clusters : List Char → List (List Char)
  | [] => []
  | c :: rest => clustersFrom (Join.start c) [c] rest

end CatalogDesk.Text
