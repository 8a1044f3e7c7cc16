import ApiDocs.Model.Declaration
import ApiDocs.Source.Nesting
import ApiDocs.Source.Statement
import ApiDocs.Text.NameTable
import ApiDocs.Yaml.Distinct

/-!
The machine and the libraries that a program runs with, as far as what it does depends on them: the
names of characters, the depth to which sources and values can be nested, and the reader of
documents.
-/

namespace ApiDocs

/-- A reader of documents.  No key stands twice in a mapping that it reads. -/
structure DocumentReader where
  read : List UInt8 → Except Yaml.Fault (Option Value)
  isMapping {bytes : List UInt8} {pairs : List (Value × Value)} :
    read bytes = .ok (some (.mapping pairs)) → IsMapping pairs

/-- What a program finds in the machine that it runs on. -/
structure Platform where
  /-- The characters that have names. -/
  names : Source.CharacterNames
  /-- What the text of a source exhausts while it is read, if it is nested too deeply. -/
  readingExhausts? : List Char → Option Exhaustion
  /-- What is exhausted while a part of a signature is written.  Members of classes are written with
  less room left than what stands in a module itself. -/
  writingExhausts? : Kind → Source.Phrase → Option Exhaustion
  /-- How many levels of values there is room for inside of a value that a message shows. -/
  showingRoom : Nat
  documents : DocumentReader

namespace Platform

/-- How many levels of expressions a signature may have. -/
def writingRoom : Nat := 328

/-- How many levels of expressions a source may have. -/
def readingRoom : Nat := 2980

/-- The stack is exhausted by more levels than it has room for. -/
def exhaustedBy (room levels : Nat) (activity : String) : Option Exhaustion :=
  if room < levels then some (.stack activity) else none

/-- A machine with a stack of the usual size, which knows the names of common characters. -/
def standard : Platform where
  names := Text.codePointOfName?
  readingExhausts? text :=
    if text.length ≤ readingRoom then none
    else
      match Source.SourceFile.read Text.codePointOfName? text with
      | .ok source =>
        exhaustedBy readingRoom (Source.levelsOfBody source.body) "during ast construction"
      | .error _ => none
  writingExhausts? _ phrase := exhaustedBy writingRoom phrase.levels ""
  showingRoom := 995
  documents := { read := Yaml.readFile, isMapping := Yaml.readFile_isMapping }

end Platform

end ApiDocs
