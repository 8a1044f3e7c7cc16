import ApiDocs.Files.Disk
import ApiDocs.Plugins.Fault
import ApiDocs.Settings.Options
import ApiDocs.Source.Printer
import ApiDocs.Text.Utf8
import ApiDocs.Yaml.Document

/-!
What can end a step of a run: every cause with the text that it is reported by.
-/

namespace ApiDocs

/-- Why a configuration file cannot be used. -/
inductive ConfigFault where
  | unreadable (path : Path) (fault : FileFault)
  | malformed (path : Path)
  | notMapping (path : Path)

def ConfigFault.message : ConfigFault → String
  | unreadable path fault => s!"Could not read config file {path.text}: {fault.message}"
  | malformed path => s!"Invalid YAML in {path.text}: {Yaml.Fault.malformed.message}"
  | notMapping path => s!"Config file {path.text} must contain a mapping"

/-- A cause of failure. -/
inductive Failure where
  /-- A listener or plugin failed; `kind` names the sort of failure. -/
  | listener (kind message : String)
  /-- A link was asked for to a declaration that has no page. -/
  | noAddress
  /-- An operation on files failed. -/
  | file (fault : FileFault)
  /-- A file is not UTF-8. -/
  | undecodable (fault : Text.DecodeFault)
  /-- A source holds the null character. -/
  | nullCharacter
  /-- The name of a file holds the null character. -/
  | nullInName
  /-- A source cannot be read, or a value cannot be written. -/
  | exhausted (exhaustion : Exhaustion)
  /-- An expression of a source cannot be written on one line. -/
  | unprintable (fault : Source.PrintFault)
  /-- A path begins with the home directory of an unknown user. -/
  | noHome
  /-- A value of this type is not the name of a file. -/
  | notFileName (typeName : String)
  | option (fault : OptionFault)
  | config (fault : ConfigFault)
  | registry (fault : RegistryFault)
  /-- A configuration file holds a value that does not exist. -/
  | document (fault : Yaml.Fault)

namespace Failure

/-- What a path fails with whose home directory is not known.  A user is not looked for by a name
that holds the null character. -/
def homeless (path : Path) : Failure :=
  if path.parts.head?.any fun user => user.toList.contains '\x00' then .nullInName else .noHome

def message : Failure → String
  | listener _ message => message
  | noAddress => "no path specified"
  | file fault => fault.message
  | undecodable fault => fault.message
  | nullCharacter => "source code string cannot contain null bytes"
  | nullInName => "embedded null byte"
  | exhausted exhaustion => exhaustion.message
  | unprintable fault => fault.message
  | noHome => "Could not determine home directory."
  | notFileName typeName =>
    s!"unsupported operand type(s) for /: 'PosixPath' and '{typeName}'"
  | option fault => fault.message
  | config fault => fault.message
  | registry fault => fault.message
  | document fault => fault.message

end Failure

end ApiDocs
