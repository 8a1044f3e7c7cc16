import ApiDocs.Files.Disk
import ApiDocs.Platform

/-!
What a run finds around it: environment variables, the home directories of users and the platform.
-/

namespace ApiDocs

/-- Environment variables with their values, the home directories of the users that are known by
name, and the platform that a program runs on. -/
structure Environment where
  bindings : List (String × String)
  users : List (String × String) := []
  platform : Platform := .standard

namespace Environment

/-- No variable is set. -/
def bare : Environment := { bindings := [] }

def value? (environment : Environment) (name : String) : Option String :=
  environment.bindings.lookup name

/-- The home directory where none is given by the environment. -/
def defaultHome : String := "/root"

/-- The home directory that a tilde stands for, or a tilde before the name of a user. -/
def home? (environment : Environment) (tilde : String) : Option String :=
  let directory? :=
    if tilde = "~" then some ((environment.value? "HOME").getD defaultHome)
    else environment.users.lookup (String.ofList (tilde.toList.drop 1))
  directory?.map fun directory => String.ofList (Text.trimEndOf '/' directory.toList)

/-- A path whose first component begins with a tilde is meant from a home directory. -/
def expandHome? (environment : Environment) (path : Path) : Option Path :=
  match path.root, path.parts with
  | "", first :: rest =>
    if first.startsWith "~" then
      match environment.home? first with
      | none => none
      | some home =>
        let home := if home = "" then "/" else home
        if home.startsWith "~" then none
        else some (rest.foldl Path.child (Path.ofString home))
    else some path
  | _, _ => some path

end Environment

end ApiDocs
