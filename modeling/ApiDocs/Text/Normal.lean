import ApiDocs.Text.Lines
import ApiDocs.Text.NormalTable

/-!
The compatibility normal form of identifiers: each character is decomposed, marks are put into
canonical order, and what composes is composed.
-/

namespace ApiDocs.Text

/-! ## Reading the tables -/

/-- The value of a hexadecimal digit, in either case. -/
def hexValue? (character : Char) : Option Nat :=
  if '0' ≤ character ∧ character ≤ '9' then some (character.toNat - 48)
  else if 'a' ≤ character ∧ character ≤ 'f' then some (character.toNat - 87)
  else if 'A' ≤ character ∧ character ≤ 'F' then some (character.toNat - 55)
  else none

/-- The number that digits of a base stand for; other characters count as zero. -/
def numberOfDigits (base : Nat) (digits : List Char) : Nat :=
  digits.foldl (fun value digit => value * base + (hexValue? digit).getD 0) 0

/-- The character with a number.  Texts hold no surrogates: the replacement character stands for
one. -/
def characterOf (codePoint : Nat) : Char :=
  if codePoint.isValidChar then Char.ofNat codePoint else '\uFFFD'

/-- The sequence of code points of one side of an entry. -/
def codePointsOf (side : List Char) : List Nat :=
  (splitOn '.' side).map (numberOfDigits 16)

/-- The entries of a table, each with its two sides. -/
def tableEntries (rows : List String) : List (List Char × List Char) :=
  rows.flatMap fun row => (splitOn ' ' row.toList).map fun entry =>
    (entry.takeWhile (· ≠ '='), (entry.dropWhile (· ≠ '=')).drop 1)

def decompositions : Array (List Nat × List Nat) :=
  ((tableEntries decompositionText).map fun entry =>
    (codePointsOf entry.1, codePointsOf entry.2)).toArray

def compositions : Array (List Nat × List Nat) :=
  ((tableEntries compositionText).map fun entry =>
    (codePointsOf entry.1, codePointsOf entry.2)).toArray

def combiningClasses : Array (List Nat × Nat) :=
  ((tableEntries combiningText).map fun entry =>
    (codePointsOf entry.1, numberOfDigits 10 entry.2)).toArray

/-! ## Syllables of Hangul -/

def firstSyllable : Nat := 0xAC00
def firstLeading : Nat := 0x1100
def firstVowel : Nat := 0x1161
/-- The code point before the first trailing consonant. -/
def noTrailing : Nat := 0x11A7
def leadingCount : Nat := 19
def vowelCount : Nat := 21
def trailingCount : Nat := 28

/-- The parts of a syllable, if the code point is one. -/
def syllableParts? (codePoint : Nat) : Option (List Nat) :=
  let index := codePoint - firstSyllable
  if firstSyllable ≤ codePoint ∧ index < leadingCount * vowelCount * trailingCount then
    let trailing := index % trailingCount
    some ([firstLeading + index / (vowelCount * trailingCount),
      firstVowel + index / trailingCount % vowelCount] ++
      (if trailing = 0 then [] else [noTrailing + trailing]))
  else none

/-- The syllable of a leading consonant and a vowel, or of an open syllable and a trailing
consonant. -/
def composeSyllable? (first second : Nat) : Option Nat :=
  if firstLeading ≤ first ∧ first < firstLeading + leadingCount ∧
      firstVowel ≤ second ∧ second < firstVowel + vowelCount then
    some (firstSyllable +
      ((first - firstLeading) * vowelCount + (second - firstVowel)) * trailingCount)
  else if firstSyllable ≤ first ∧
      first < firstSyllable + leadingCount * vowelCount * trailingCount ∧
      (first - firstSyllable) % trailingCount = 0 ∧
      noTrailing < second ∧ second < noTrailing + trailingCount then
    some (first + (second - noTrailing))
  else none

/-! ## The normal form -/

def decompose (codePoint : Nat) : List Nat :=
  match syllableParts? codePoint with
  | some parts => parts
  | none =>
    match decompositions.find? fun entry => entry.1 == [codePoint] with
    | some entry => entry.2
    | none => [codePoint]

/-- The combining class; characters that are no marks have class zero. -/
def combiningClass (codePoint : Nat) : Nat :=
  match combiningClasses.find? fun entry =>
      (entry.1.headD 0) ≤ codePoint && codePoint ≤ (entry.1.getLastD 0) with
  | some entry => entry.2
  | none => 0

/-- A mark goes before the marks of greater class at the end of what is already in order, which
is given in reverse. -/
def insertMark (mark : Nat) (classOf : Nat) : List (Nat × Nat) → List (Nat × Nat)
  | [] => [(mark, classOf)]
  | (last, lastClass) :: earlier =>
    if classOf ≠ 0 ∧ classOf < lastClass then (last, lastClass) :: insertMark mark classOf earlier
    else (mark, classOf) :: (last, lastClass) :: earlier

/-- Canonical order: between characters of class zero, marks ascend by class, stably. -/
def orderMarks (codePoints : List Nat) : List (Nat × Nat) :=
  (codePoints.foldl (fun ordered codePoint =>
    insertMark codePoint (combiningClass codePoint) ordered) []).reverse

def compose? (first second : Nat) : Option Nat :=
  match composeSyllable? first second with
  | some syllable => some syllable
  | none =>
    (compositions.find? fun entry => entry.1 == [first, second]).bind fun entry => entry.2.head?

/-- Composes marks with the starter before them.  A mark is blocked by a mark between that has at
least its class.  `blocked` is the class of the last mark that was kept, and `kept` holds the
characters after the starter in reverse. -/
def composeFrom (starter : Nat) (kept : List Nat) (blocked : Option Nat) :
    List (Nat × Nat) → List Nat
  | [] => starter :: kept.reverse
  | (codePoint, classOf) :: later =>
    let open? := match blocked with
      | none => true
      | some last => last < classOf
    match if open? then compose? starter codePoint else none with
    | some composed => composeFrom composed kept blocked later
    | none =>
      if classOf = 0 then starter :: kept.reverse ++ composeFrom codePoint [] none later
      else composeFrom starter (codePoint :: kept) (some classOf) later

/-- What stands before the first starter is kept. -/
def composeMarks (ordered : List (Nat × Nat)) : List Nat :=
  let leading := ordered.takeWhile fun item => item.2 ≠ 0
  match ordered.drop leading.length with
  | [] => leading.map Prod.fst
  | (starter, _) :: later => leading.map Prod.fst ++ composeFrom starter [] none later

/-- The normal form of an identifier. -/
def normalForm (identifier : List Char) : List Char :=
  if identifier.all fun character => character.toNat < 0x80 then identifier
  else
    (composeMarks (orderMarks (identifier.flatMap fun character =>
      decompose character.toNat))).map Char.ofNat

end ApiDocs.Text
