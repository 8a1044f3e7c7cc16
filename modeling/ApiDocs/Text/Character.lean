import ApiDocs.Text.CaseTable
import ApiDocs.Text.IdentifierTable
import ApiDocs.Text.PrintableTable
import ApiDocs.Text.WordTable

/-!
Classes of characters.  White space and line breaks are short lists; the other classes are read
from the tables of this folder.
-/

namespace ApiDocs.Text

/-- Whether a code point lies in one of the intervals. -/
def inRanges (ranges : Array (Nat × Nat)) (codePoint : Nat) : Bool :=
  ranges.any fun range => range.1 ≤ codePoint && codePoint ≤ range.2

/-- White space: what trimming removes and what separates a heading mark from its title. -/
def isBlank (character : Char) : Bool :=
  let codePoint := character.toNat
  (0x09 ≤ codePoint && codePoint ≤ 0x0D) || (0x1C ≤ codePoint && codePoint ≤ 0x20) ||
    codePoint == 0x85 || codePoint == 0xA0 || codePoint == 0x1680 ||
    (0x2000 ≤ codePoint && codePoint ≤ 0x200A) || codePoint == 0x2028 || codePoint == 0x2029 ||
    codePoint == 0x202F || codePoint == 0x205F || codePoint == 0x3000

/-- The characters that end a line of a comment or document. -/
def isLineBreak (character : Char) : Bool :=
  let codePoint := character.toNat
  (0x0A ≤ codePoint && codePoint ≤ 0x0D) || (0x1C ≤ codePoint && codePoint ≤ 0x1E) ||
    codePoint == 0x85 || codePoint == 0x2028 || codePoint == 0x2029

/-- Characters that are written as themselves inside a quoted literal. -/
def isPrintable (character : Char) : Bool :=
  inRanges printableRanges character.toNat

/-- Letters, numbers and the underscore. -/
def isWord (character : Char) : Bool :=
  character == '_' || inRanges wordRanges character.toNat

def isIdentifierStart (character : Char) : Bool :=
  inRanges identifierStartRanges character.toNat

def isIdentifierContinue (character : Char) : Bool :=
  inRanges identifierContinueRanges character.toNat

/-- A name is upper case when it has an upper-case letter and no lower- or title-case one. -/
def isUpperCase (name : List Char) : Bool :=
  name.any (fun character => inRanges uppercaseRanges character.toNat) &&
    name.all (fun character => !inRanges lowercaseOrTitlecaseRanges character.toNat)

end ApiDocs.Text
