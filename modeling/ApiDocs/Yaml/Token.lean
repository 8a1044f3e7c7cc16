import ApiDocs.Text.Normal
import ApiDocs.Yaml.Fault

/-!
Tokens of YAML 1.1 documents and the characters that separate them.
-/

namespace ApiDocs.Yaml

/-- A tag as it is written: a handle, which stands for the beginning of tags, and the rest. -/
structure WrittenTag where
  handle : Option String
  suffix : String
deriving DecidableEq, Repr

/-- Tokens.  Block structure, which indentation expresses, is made explicit by the tokens that begin
and end blocks. -/
inductive Token where
  | versionDirective (major : Int)
  | tagDirective (handle start : String)
  | otherDirective
  | documentStart
  | documentEnd
  | blockSequenceStart
  | blockMappingStart
  | blockEnd
  | flowSequenceStart
  | flowSequenceEnd
  | flowMappingStart
  | flowMappingEnd
  | blockEntry
  | flowEntry
  | key
  | value
  | reference (name : String)
  | anchor (name : String)
  | tag (tag : WrittenTag)
  | scalar (text : List Char) (isPlain : Bool)
  /-- What cannot be read.  Nothing follows it. -/
  | unreadable (fault : Fault)
deriving DecidableEq, Repr

/-- The characters that end a line. -/
def isBreak (character : Char) : Bool :=
  character == '\n' || character == '\r' || character == '\x85' || character == '\u2028' ||
    character == '\u2029'

def isSpaceOrTab (character : Char) : Bool := character == ' ' || character == '\t'

/-- Whether a text is at its end or at a character of a class. -/
def isAt (isMember : Char → Bool) (text : List Char) : Bool :=
  match text with
  | [] => true
  | next :: _ => isMember next

def atBreak (text : List Char) : Bool := isAt isBreak text

/-- The end of a word: a line end or a space. -/
def atSpace (text : List Char) : Bool :=
  isAt (fun next => isBreak next || next == ' ') text

/-- A line end, a space or a tab. -/
def atBlank (text : List Char) : Bool :=
  isAt (fun next => isBreak next || isSpaceOrTab next) text

/-- Two characters that end one line together. -/
def isDoubleBreak (text : List Char) : Bool := ['\r', '\n'].isPrefixOf text

/-- The line end that a text begins with, as it is kept in scalars, and what follows. -/
def lineBreak? (text : List Char) : Option (Char × List Char) :=
  match text with
  | [] => none
  | next :: rest =>
    if isDoubleBreak text then some ('\n', rest.drop 1)
    else if next == '\u2028' || next == '\u2029' then some (next, rest)
    else if isBreak next then some ('\n', rest)
    else none

/-- Whether a line begins with the mark of a document's start or end. -/
def atDocumentMark (text : List Char) : Bool :=
  (['-', '-', '-'].isPrefixOf text || ['.', '.', '.'].isPrefixOf text) && atBlank (text.drop 3)

/-- Characters that a document may hold. -/
def isAllowed (character : Char) : Bool :=
  let codePoint := character.toNat
  codePoint == 0x09 || codePoint == 0x0A || codePoint == 0x0D ||
    (0x20 ≤ codePoint && codePoint ≤ 0x7E) || codePoint == 0x85 ||
    (0xA0 ≤ codePoint && codePoint ≤ 0xFFFD) || 0x10000 ≤ codePoint

/-- Letters, digits, the hyphen and the underscore. -/
def isNameCharacter (character : Char) : Bool :=
  character.isAlphanum || character == '-' || character == '_'

end ApiDocs.Yaml
