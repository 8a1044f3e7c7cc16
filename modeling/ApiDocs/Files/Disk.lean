import ApiDocs.Files.Path
import ApiDocs.Text.Quoted

/-!
File systems without symbolic links: a tree of directories and files, and a working directory.
A failed operation says what it met and on which path.
-/

namespace ApiDocs

/-- A file or a directory with its named entries. -/
inductive Entry where
  | file (content : List UInt8)
  | directory (entries : List (String × Entry))

namespace Entry

def isDirectory : Entry → Bool
  | directory _ => true
  | file _ => false

def isFile : Entry → Bool
  | directory _ => false
  | file _ => true

def entries : Entry → List (String × Entry)
  | directory entries => entries
  | file _ => []

/-- What stands at a place below an entry. -/
def get? : Entry → List String → Option Entry
  | entry, [] => some entry
  | file _, _ :: _ => none
  | directory entries, name :: names => (entries.lookup name).bind fun entry => get? entry names

/-- The entry of one name is replaced, or added as the last one. -/
def setName (entries : List (String × Entry)) (name : String) (entry : Entry) :
    List (String × Entry) :=
  match entries with
  | [] => [(name, entry)]
  | head :: tail =>
    if head.1 = name then (name, entry) :: tail else head :: setName tail name entry

/-- A place below an entry gets a new entry, or loses the one it has.  The directories on the way
exist already; where one does not, nothing changes. -/
def put : Entry → List String → Option Entry → Entry
  | entry, [], _ => entry
  | file content, _ :: _, _ => file content
  | directory entries, [name], some entry => directory (setName entries name entry)
  | directory entries, [name], none => directory (entries.filter fun pair => pair.1 ≠ name)
  | directory entries, name :: names, new? =>
    match entries.lookup name with
    | some entry => directory (setName entries name (put entry names new?))
    | none => directory entries

end Entry

/-- What an operation on files met. -/
inductive FileProblem where
  | notFound
  | exists
  | notDirectory
  | isDirectory
  | nameTooLong
deriving DecidableEq, Repr

/-- The number and the wording that the system has for a problem. -/
def FileProblem.description : FileProblem → Nat × String
  | .notFound => (2, "No such file or directory")
  | .exists => (17, "File exists")
  | .notDirectory => (20, "Not a directory")
  | .isDirectory => (21, "Is a directory")
  | .nameTooLong => (36, "File name too long")

/-- A failed operation and the path it was asked for. -/
structure FileFault where
  problem : FileProblem
  path : String
deriving DecidableEq, Repr

def FileFault.message (fault : FileFault) : String :=
  let (number, wording) := fault.problem.description
  s!"[Errno {number}] {wording}: {String.ofList (Text.quoted fault.path.toList)}"

/-- A file system with a working directory, which is an absolute place. -/
structure Disk where
  tree : Entry
  workingDirectory : List String

namespace Disk

/-! ## Places -/

/-- One component further, without a look at the file system. -/
def step (place : List String) (part : String) : List String :=
  if part = ".." then place.dropLast else place ++ [part]

/-- The place that a path means when no file system is consulted; the root encloses itself. -/
def resolve (disk : Disk) (path : Path) : List String :=
  path.parts.foldl step (if path.isAbsolute then [] else disk.workingDirectory)

/-- An absolute place as a path. -/
def pathOf (place : List String) : Path := { root := "/", parts := place }

/-- The longest name that an entry may have, in bytes. -/
def longestName : Nat := 255

/-- The place that a path leads to; every place on the way has to be a directory. -/
def walk (tree : Entry) (place : List String) : List String → Except FileProblem (List String)
  | [] => .ok place
  | part :: parts =>
    match tree.get? place with
    | none => .error .notFound
    | some (.file _) => .error .notDirectory
    | some (.directory _) =>
      if part.utf8ByteSize > longestName then .error .nameTooLong
      else walk tree (step place part) parts

def locate (disk : Disk) (path : Path) : Except FileProblem (List String) :=
  walk disk.tree (if path.isAbsolute then [] else disk.workingDirectory) path.parts

/-- What a path leads to. -/
def find? (disk : Disk) (path : Path) : Option Entry :=
  match disk.locate path with
  | .ok place => disk.tree.get? place
  | .error _ => none

def isDirectory (disk : Disk) (path : Path) : Bool :=
  match disk.find? path with
  | some entry => entry.isDirectory
  | none => false

def isFile (disk : Disk) (path : Path) : Bool :=
  match disk.find? path with
  | some entry => entry.isFile
  | none => false

/-! ## Reading -/

/-- The content of a file. -/
def read (disk : Disk) (path : Path) : Except FileFault (List UInt8) :=
  match disk.locate path with
  | .error problem => .error { problem, path := path.text }
  | .ok place =>
    match disk.tree.get? place with
    | none => .error { problem := .notFound, path := path.text }
    | some (.directory _) => .error { problem := .isDirectory, path := path.text }
    | some (.file content) => .ok content

mutual

/-- The places below an entry, with what stands there. -/
def below (place : List String) : Entry → List (List String × Entry)
  | .file _ => []
  | .directory entries => belowEntries place entries

def belowEntries (place : List String) : List (String × Entry) → List (List String × Entry)
  | [] => []
  | (name, entry) :: rest =>
    (place ++ [name], entry) :: (below (place ++ [name]) entry ++ belowEntries place rest)

end

/-! ## Writing -/

def put (disk : Disk) (place : List String) (new? : Option Entry) : Disk :=
  { disk with tree := disk.tree.put place new? }

/-- A directory is made; its parent exists already and nothing stands in its place. -/
def makeDirectory (disk : Disk) (path : Path) : Except FileFault Disk :=
  match disk.locate path with
  | .error problem => .error { problem, path := path.text }
  | .ok place =>
    match disk.tree.get? place with
    | some _ => .error { problem := .exists, path := path.text }
    | none => .ok (disk.put place (some (.directory [])))

/-- A directory is made; where it may exist, one that exists already is no fault. -/
def ensureDirectory (disk : Disk) (path : Path) (mayExist : Bool) : Except FileFault Disk :=
  match disk.makeDirectory path with
  | .ok disk => .ok disk
  | .error fault =>
    if mayExist && fault.problem ≠ .notFound && disk.isDirectory path then .ok disk
    else .error fault

/-- A directory is made after the directories it stands in, as many components up as are given. -/
def makeDirectoriesFrom (disk : Disk) (path : Path) (mayExist : Bool) :
    Nat → Except FileFault Disk
  | 0 => disk.ensureDirectory path mayExist
  | levels + 1 =>
    match disk.ensureDirectory path mayExist with
    | .ok disk => .ok disk
    | .error fault =>
      if fault.problem = .notFound then
        match makeDirectoriesFrom disk path.parent true levels with
        | .ok disk => disk.ensureDirectory path mayExist
        | .error fault => .error fault
      else .error fault

/-- A directory is made together with the directories it stands in.  That it exists already is a
fault only where `mayExist` is false. -/
def makeDirectories (disk : Disk) (path : Path) (mayExist : Bool) : Except FileFault Disk :=
  disk.makeDirectoriesFrom path mayExist path.parts.length

/-- A file is written, over the one that stands there if there is one. -/
def write (disk : Disk) (path : Path) (content : List UInt8) : Except FileFault Disk :=
  match disk.locate path with
  | .error problem => .error { problem, path := path.text }
  | .ok place =>
    match disk.tree.get? place with
    | some (.directory _) => .error { problem := .isDirectory, path := path.text }
    | _ => .ok (disk.put place (some (.file content)))

/-- An entry is removed with everything below it. -/
def remove (disk : Disk) (place : List String) : Disk := disk.put place none

end Disk

end ApiDocs
