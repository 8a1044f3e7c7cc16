import ApiDocs.Failure
import ApiDocs.Files.Environment

/-!
The source files that inputs name: files, and directories with all source files below them.
-/

namespace ApiDocs.Convert

/-- A source file with the directory that its module name is relative to. -/
structure SourceInput where
  root : Path
  file : Path
deriving DecidableEq, Repr

/-- The ending of source files. -/
def sourceEnding : String := ".py"

/-- Directories with these names are passed over: caches and hidden ones. -/
def isIgnoredDirectory (name : String) : Bool :=
  name == "__pycache__" || name.startsWith "."

/-- Whether a place below an input is a source: by the ending of its name, and outside of ignored
directories. -/
def isSourcePlace (relative : List String) : Bool :=
  (relative.getLast?.any fun name => name.endsWith sourceEnding) &&
    !(relative.dropLast.any isIgnoredDirectory)

/-- Order of places: by components, from the first on. -/
def precedes : List String → List String → Bool
  | [], _ => true
  | _ :: _, [] => false
  | first :: rest, first' :: rest' =>
    if first = first' then precedes rest rest' else decide (first < first')

/-- The sources below a directory, in order. -/
def sourcesBelow (entry : Entry) : List (List String) :=
  (((Disk.below [] entry).map Prod.fst).filter isSourcePlace).mergeSort precedes

/-- The sources of one input; none if it is neither a source file nor a directory.  A name that no
entry can have is a fault. -/
def candidates? (disk : Disk) (path : Path) : Except FileFault (Option (List SourceInput)) :=
  match disk.locate path with
  | .error .nameTooLong => .error { problem := .nameTooLong, path := path.text }
  | .error _ => .ok none
  | .ok place =>
    match disk.tree.get? place with
    | some (.directory entries) =>
      .ok (some ((sourcesBelow (.directory entries)).map fun place =>
        { root := path, file := { path with parts := path.parts ++ place } }))
    | some (.file _) =>
      if path.suffix = sourceEnding then .ok (some [{ root := path.parent, file := path }])
      else .ok none
    | none => .ok none

/-- The sources found so far, with the places that they are at. -/
structure Found where
  sources : List SourceInput
  places : List (List String)

/-- A source is added unless its place has been found before. -/
def Found.add (disk : Disk) (found : Found) (source : SourceInput) : Found :=
  let place := disk.resolve source.file
  if found.places.contains place then found
  else { sources := found.sources ++ [source], places := place :: found.places }

/-- The sources of all inputs, each once, with the logger after the inputs that are none have been
reported.  The first input in the home directory of an unknown user or with a name that no entry
can have is a failure. -/
def expandFrom (environment : Environment) (disk : Disk) (found : Found) (logger : Logger) :
    List String → Except Failure (List SourceInput) × Logger
  | [] => (.ok found.sources, logger)
  | input :: inputs =>
    match environment.expandHome? (Path.ofString input) with
    | none => (.error (.homeless (Path.ofString input)), logger)
    | some path =>
      match candidates? disk path with
      | .error fault => (.error (.file fault), logger)
      | .ok (some sources) =>
        expandFrom environment disk (sources.foldl (Found.add disk) found) logger inputs
      | .ok none =>
        expandFrom environment disk found
          (logger.error s!"Input file {input} is not a Python file or directory.") inputs

def expandInputs (environment : Environment) (disk : Disk) (logger : Logger)
    (inputs : List String) : Except Failure (List SourceInput) × Logger :=
  expandFrom environment disk { sources := [], places := [] } logger inputs

end ApiDocs.Convert
