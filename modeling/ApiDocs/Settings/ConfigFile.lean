import ApiDocs.Failure
import ApiDocs.Files.Environment

/-!
Configuration files.  A file is a mapping from option names to values; names of files in it are
meant from the directory of the file, and a text that is one reference to an environment variable
stands for the value of that variable.
-/

namespace ApiDocs

/-- The value that a reference to an environment variable stands for; a variable that is not set
is empty.  Every other value stands for itself. -/
def Environment.resolve (environment : Environment) (value : Value) : Value :=
  match value with
  | .text text =>
    let name := (text.toList.drop 2).dropLast
    if text.startsWith "$\x7b" && text.endsWith "\x7d" then
      .text ((environment.value? (String.ofList name)).getD "")
    else value
  | _ => value

namespace ConfigFile

/-- The name of the file that is read where none is asked for. -/
def standardName : String := "quire.yaml"

/-- The configuration file of a directory, if it has one. -/
def find? (disk : Disk) (directory : String) : Option Path :=
  let candidate := (Disk.pathOf (disk.resolve (Path.ofString directory))).child standardName
  if disk.isFile candidate then some candidate else none

/-- The pairs that a file holds; an empty file holds none. -/
def readPairs (documents : DocumentReader) (path : Path) (bytes : List UInt8) :
    Except Failure (List (Value × Value)) :=
  match documents.read bytes with
  | .ok none => .ok []
  | .ok (some .null) => .ok []
  | .ok (some (.mapping pairs)) => .ok pairs
  | .ok (some _) => .error (.config (.notMapping path))
  | .error .malformed => .error (.config (.malformed path))
  | .error fault => .error (.document fault)

/-- The path that the name of a file means from a directory. -/
def fileName (directory : Path) (name : Value) : Except Failure Value :=
  match name with
  | .text text => .ok (.text (directory.join (Path.ofString text)).text)
  | _ => .error (.notFileName name.typeName)

/-- What a value of the file means: references are resolved, also in the items of a list, and names
of files are meant from the directory of the file. -/
def meaning (environment : Environment) (directory : Path) (key value : Value) :
    Except Failure Value :=
  let resolved :=
    match value with
    | .list items => .list (items.map environment.resolve)
    | _ => environment.resolve value
  let isKey (option : OptionName) : Bool :=
    match key with
    | .text word => word == option.word
    | _ => false
  if isKey .inputFiles then
    let items :=
      match resolved with
      | .list items => items
      | _ => [resolved]
    (items.mapM (fileName directory)).map Value.list
  else if isKey .readme && resolved.isTrue then fileName directory resolved
  else .ok resolved

/-- The values of a configuration file, in their order. -/
def load (environment : Environment) (disk : Disk) (path : Path) :
    Except Failure (List (Value × Value)) := do
  match environment.expandHome? path with
  | none => throw (.homeless path)
  | some path =>
    if path.text.toList.contains '\x00' then throw .nullInName
    match disk.read path with
    | .error fault => throw (.config (.unreadable path fault))
    | .ok bytes =>
      let pairs ← readPairs environment.platform.documents path bytes
      pairs.mapM fun (key, value) => do
        return (key, ← meaning environment path.parent key value)

end ConfigFile

end ApiDocs
