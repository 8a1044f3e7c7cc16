import ApiDocs.CommandLine.Command

/-!
The program: it reads the files that a run can meet, runs the command, and brings the files to the
state that the command left them in.
-/

namespace ApiDocs.Program

/-- Directories are read down to this depth. -/
def greatestDepth : Nat := 64

/-- The entry at an absolute path; what cannot be read is left out. -/
def readEntry? : Nat → String → IO (Option Entry)
  | 0, _ => return none
  | depth + 1, path => do
    let place := (← IO.currentDir) / path
    try
      if ← place.isDir then
        let entries ← (← place.readDir).toList.filterMapM fun item => do
          let entry? ← readEntry? depth item.path.toString
          return entry?.map fun entry => (item.fileName, entry)
        return some (.directory entries)
      else if ← place.pathExists then
        return some (.file (← IO.FS.readBinFile path).toList)
      else return none
    catch _ => return none

/-- An entry is put at a place, with the directories it stands in. -/
def putEntry (entry : Entry) : List String → Entry → Entry
  | [], _ => entry
  | name :: names, tree =>
    let old := (tree.entries.lookup name).getD (.directory [])
    .directory (Entry.setName tree.entries name (putEntry entry names old))

/-- Reads what stands at the places that some texts name. -/
def readPlaces (disk : Disk) (names : List String) : IO Disk := do
  let mut disk := disk
  for name in names do
    let place := disk.resolve (Path.ofString name)
    if (disk.tree.get? place).isNone then
      if let some entry ← readEntry? greatestDepth (Disk.pathOf place).text then
        disk := { disk with tree := putEntry entry place disk.tree }
  return disk

/-- The variables of the environment. -/
def readEnvironment : IO Environment := do
  try
    let bytes ← IO.FS.readBinFile "/proc/self/environ"
    let text := ((Text.decode bytes.toList).toOption).getD []
    let bindings := (Text.splitOn '\x00' text).map fun line =>
      (String.ofList (line.takeWhile (· ≠ '=')),
        String.ofList ((line.dropWhile (· ≠ '=')).drop 1))
    return { bindings }
  catch _ => return .bare

/-- The texts in a value. -/
def textsOf : Value → List String
  | .text text => [text]
  | .list items => items.map Value.plain
  | _ => []

/-- The texts in the configuration file of a run. -/
def configuredTexts (environment : Environment) (disk : Disk) (config : Option String) :
    List String :=
  let path? := (config.map Path.ofString).or (ConfigFile.find? disk "")
  match path?.map (ConfigFile.load environment disk) with
  | some (.ok pairs) => pairs.flatMap fun pair => textsOf pair.2
  | _ => []

/-- The files that a run can meet: those below the working directory and those that the arguments
and the configuration file name. -/
def readDisk (environment : Environment) (arguments : List String) : IO Disk := do
  let directory := Path.ofString (← IO.currentDir).toString
  let disk : Disk := { tree := .directory [], workingDirectory := directory.parts }
  let disk ← readPlaces disk ["."]
  match CommandLine.split arguments with
  | .error _ => return disk
  | .ok split =>
    let disk ← readPlaces disk (split.inputs ++ split.given.map Prod.snd)
    readPlaces disk (configuredTexts environment disk (split.value? .config))

/-- The files below an absolute path are brought from one state to another. -/
partial def writeChanges (path : String) (old? new? : Option Entry) : IO Unit := do
  match old?, new? with
  | _, none =>
    match old? with
    | some (.file _) => IO.FS.removeFile path
    | some (.directory _) => IO.FS.removeDirAll path
    | none => return ()
  | some (.directory old), some (.directory new) =>
    for name in ((old ++ new).map Prod.fst).eraseDups do
      writeChanges (path ++ "/" ++ name) (old.lookup name) (new.lookup name)
  | some (.file old), some (.file new) =>
    if old ≠ new then IO.FS.writeBinFile path (ByteArray.mk new.toArray)
  | none, some (.file new) => IO.FS.writeBinFile path (ByteArray.mk new.toArray)
  | none, some (.directory new) =>
    IO.FS.createDirAll path
    for (name, entry) in new do
      writeChanges (path ++ "/" ++ name) none (some entry)
  | some _, some _ =>
    writeChanges path old? none
    writeChanges path none new?

end ApiDocs.Program

open ApiDocs ApiDocs.Program

def main (arguments : List String) : IO UInt32 := do
  let environment ← readEnvironment
  let disk ← readDisk environment arguments
  let start : Application Unit := .initial environment disk .empty [] ()
  let outcome := CommandLine.execute start arguments
  IO.print outcome.output
  IO.eprint outcome.errors
  if let some failure := outcome.failure then IO.eprintln failure.message
  writeChanges "" (some disk.tree) (some outcome.disk.tree)
  return outcome.exitCode.toUInt32
