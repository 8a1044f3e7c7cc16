import ApiDocs.Yaml.Number
import ApiDocs.Yaml.Timestamp

/-!
Tags: what the nodes of a document are.  A plain scalar without a tag gets one by its form.
-/

namespace ApiDocs.Yaml

/-- The standard tags, and all others by their text. -/
inductive Tag where
  | null
  | boolean
  | integer
  | double
  | binary
  | timestamp
  | orderedPairs
  | pairs
  | set
  | text
  | sequence
  | mapping
  | merge
  | value
  | other (text : String)
deriving DecidableEq, Repr

namespace Tag

/-- What the standard tags begin with. -/
def standardStart : String := "tag:yaml.org,2002:"

def standard : List (String × Tag) :=
  [("null", null), ("bool", boolean), ("int", integer), ("float", double), ("binary", binary),
    ("timestamp", timestamp), ("omap", orderedPairs), ("pairs", pairs), ("set", set),
    ("str", text), ("seq", sequence), ("map", mapping), ("merge", merge), ("value", value)]

def ofString (written : String) : Tag :=
  let known := standard.find? fun (word, _) => standardStart ++ word == written
  (known.map Prod.snd).getD (other written)

/-- The written tag that leaves the tag open. -/
def unspecific : String := "!"

/-! ## Tags by form -/

/-- The words for the truth values. -/
def booleanWords : List (String × Bool) :=
  [("yes", true), ("no", false), ("true", true), ("false", false), ("on", true), ("off", false)]

/-- Whether a word is written in small letters, in capitals, or with one capital at its start. -/
def isUniform (word : List Char) : Bool :=
  let small := word.map Char.toLower
  let rest := word.drop 1
  word == small || word == word.map Char.toUpper ||
    (rest == small.drop 1 && word.head? == (small.head?.map Char.toUpper))

def isBoolean (text : List Char) : Bool :=
  isUniform text && (booleanWords.lookup (String.ofList (text.map Char.toLower))).isSome

def isNull (text : List Char) : Bool := ["", "~", "null", "Null", "NULL"].contains (String.ofList text)

/-- The tag of a plain scalar without a tag.  One line end after it is not looked at. -/
def ofForm (text : List Char) : Tag :=
  let word := if text.getLast? == some '\n' then text.dropLast else text
  if isBoolean word then boolean
  else if isDouble word then double
  else if isInteger word then integer
  else if word == "<<".toList then merge
  else if isNull text || (isNull word && !word.isEmpty) then null
  else if Timestamp.isTimestamp word then timestamp
  else if word == "=".toList then value
  else if ["!", "&", "*"].contains (String.ofList word) then other (standardStart ++ "yaml")
  else .text

/-- The tag of a scalar.  Where none is written, a plain scalar gets one by its form and any other
scalar is a text. -/
def ofScalar (written : Option String) (content : String) (isPlain : Bool) : Tag :=
  match written with
  | none => if isPlain then ofForm content.toList else text
  | some tag => if tag = unspecific then ofForm content.toList else ofString tag

end Tag

end ApiDocs.Yaml
