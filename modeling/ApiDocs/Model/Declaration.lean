/-!
Documented declarations: what is known of one, apart from its place in a project.
-/

namespace ApiDocs

/-- The kinds of declarations.  A project is the root of the others. -/
inductive Kind where
  | project
  | moduleFile
  | classDefinition
  | function
  | method
  | property
  | variableBinding
deriving DecidableEq, Repr

/-- The word for a kind, as pages show it. -/
def Kind.word : Kind → String
  | .project => "project"
  | .moduleFile => "module"
  | .classDefinition => "class"
  | .function => "function"
  | .method => "method"
  | .property => "property"
  | .variableBinding => "variable"

def Kind.all : List Kind :=
  [.project, .moduleFile, .classDefinition, .function, .method, .property, .variableBinding]

/-- The kind that a word names. -/
def Kind.ofWord? (word : String) : Option Kind := Kind.all.find? fun kind => kind.word == word

theorem Kind.ofWord?_word (kind : Kind) : Kind.ofWord? kind.word = some kind := by
  cases kind <;> decide

/-- Where a declaration was found; the file is relative to the input it belongs to. -/
structure SourcePlace where
  file : String
  line : Int
deriving DecidableEq, Repr

/-- A declaration.  The flags are kept in ascending order, each once. -/
structure Declaration where
  name : String
  kind : Kind
  comment : String
  signature : String
  source : Option SourcePlace
  flags : List String
deriving DecidableEq, Repr

/-- A flag is added to an ascending list of flags. -/
def insertFlag (flag : String) : List String → List String
  | [] => [flag]
  | head :: tail =>
    if flag < head then flag :: head :: tail
    else if flag = head then head :: tail
    else head :: insertFlag flag tail

/-- The flags of a list, in ascending order, each once. -/
def flagsOfList (flags : List String) : List String := flags.foldr insertFlag []

namespace Declaration

/-- A declaration of which only name and kind are given. -/
def ofName (name : String) (kind : Kind) : Declaration :=
  { name, kind, comment := "", signature := "", source := none, flags := [] }

def addFlag (declaration : Declaration) (flag : String) : Declaration :=
  { declaration with flags := insertFlag flag declaration.flags }

/-- The dotted name of the first declaration of a chain that goes from a declaration to its
parent, the parent's parent and so on: the names from the outermost to the first, projects and
what lies beyond them excluded. -/
def dottedName (chain : List Declaration) : String :=
  let names := (chain.takeWhile fun declaration => declaration.kind ≠ .project).map name
  ".".intercalate names.reverse

end Declaration

end ApiDocs
