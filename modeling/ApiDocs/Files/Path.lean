import ApiDocs.Text.Lines

/-!
Paths of files.  A path is kept as its root and its components; repeated slashes and components
that are a single dot say nothing and are dropped, while a component of two dots is kept, since
only the file system can tell where it leads.
-/

namespace ApiDocs

/-- A path: its root (empty for a relative path) and its components. -/
structure Path where
  root : String
  parts : List String
deriving DecidableEq, Repr

namespace Path

/-- The pieces of a text between slashes. -/
def pieces (text : String) : List String := (Text.splitOn '/' text.toList).map String.ofList

/-- The components that a text names. -/
def components (text : String) : List String :=
  (pieces text).filter fun piece => piece ≠ "" && piece ≠ "."

/-- The root of a path: exactly two slashes at the start are kept apart from one. -/
def rootOf (text : List Char) : String :=
  match text with
  | '/' :: '/' :: '/' :: _ => "/"
  | '/' :: '/' :: _ => "//"
  | '/' :: _ => "/"
  | _ => ""

def ofString (text : String) : Path :=
  { root := rootOf text.toList, parts := components text }

def isAbsolute (path : Path) : Bool := path.root ≠ ""

/-- The text of a path; a path without components is a single dot. -/
def text (path : Path) : String :=
  let body := "/".intercalate path.parts
  if path.root = "" && body = "" then "." else path.root ++ body

/-- A path that is meant from another one: an absolute path stands for itself. -/
def join (base path : Path) : Path :=
  if path.isAbsolute then path else { base with parts := base.parts ++ path.parts }

/-- A path followed by one more component. -/
def child (path : Path) (name : String) : Path := { path with parts := path.parts ++ [name] }

/-- The path without its last component. -/
def parent (path : Path) : Path := { path with parts := path.parts.dropLast }

def name (path : Path) : String := path.parts.getLast?.getD ""

/-- The position of the dot that begins the suffix of a name: the last one, if something stands
before and after it. -/
def suffixStart? (name : List Char) : Option Nat :=
  let tail := (name.reverse.takeWhile (· ≠ '.')).length
  let start := name.length - tail - 1
  if tail < name.length ∧ 0 < start ∧ 0 < tail then some start else none

/-- The suffix of the last component, with its dot; empty if there is none. -/
def suffix (path : Path) : String :=
  match suffixStart? path.name.toList with
  | some start => String.ofList (path.name.toList.drop start)
  | none => ""

/-- The last component without its suffix. -/
def stem (path : Path) : String :=
  match suffixStart? path.name.toList with
  | some start => String.ofList (path.name.toList.take start)
  | none => path.name

/-- The components of a path below another one. -/
def relativeTo (path base : Path) : Path :=
  { root := "", parts := path.parts.drop base.parts.length }

end Path

end ApiDocs
