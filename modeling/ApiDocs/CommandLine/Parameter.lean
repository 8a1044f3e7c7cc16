/-!
The parameters of the command line, and the help text that describes them.
-/

namespace ApiDocs.CommandLine

/-- The options of the command line. -/
inductive Parameter where
  | out
  | name
  | readme
  | config
  | plugin
  | gaId
  | disableSources
  | verbose
  | version
  | help
deriving DecidableEq, Repr

namespace Parameter

def all : List Parameter :=
  [out, name, readme, config, plugin, gaId, disableSources, verbose, version, help]

/-- The long spelling. -/
def long : Parameter → String
  | out => "--out"
  | name => "--name"
  | readme => "--readme"
  | config => "--config"
  | plugin => "--plugin"
  | gaId => "--ga-id"
  | disableSources => "--disable-sources"
  | verbose => "--verbose"
  | version => "--version"
  | help => "--help"

/-- The letter of the short spelling, if there is one. -/
def letter? : Parameter → Option Char
  | out => some 'o'
  | name => some 'n'
  | config => some 'c'
  | plugin => some 'p'
  | verbose => some 'v'
  | _ => none

def short? (parameter : Parameter) : Option String :=
  parameter.letter?.map fun letter => String.ofList ['-', letter]

/-- What a value is: any text, or the name of a file that exists.  A switch has none. -/
inductive ValueKind where
  | text
  | file
deriving DecidableEq, Repr

def valueKind? : Parameter → Option ValueKind
  | out => some .text
  | name => some .text
  | readme => some .file
  | config => some .file
  | plugin => some .text
  | gaId => some .text
  | _ => none

def takesValue (parameter : Parameter) : Bool := parameter.valueKind?.isSome

def ofLong? (spelling : String) : Option Parameter :=
  all.find? fun parameter => parameter.long == spelling

def ofLetter? (letter : Char) : Option Parameter :=
  all.find? fun parameter => parameter.letter? == some letter

/-- How an error message names a parameter. -/
def hint (parameter : Parameter) : String :=
  match parameter.short? with
  | some short => s!"'{parameter.long}' / '{short}'"
  | none => s!"'{parameter.long}'"

def description : Parameter → String
  | out => "Output directory (default: docs)"
  | name => "Project name shown in the page header"
  | readme => "Markdown file for the index page"
  | config => "YAML config file (default: ./quire.yaml)"
  | plugin => "Plugin name or module to load"
  | gaId => "Google Analytics tracking id"
  | disableSources => "Omit 'Defined in' source references"
  | verbose => "Show verbose output"
  | version => "Show the version and exit."
  | help => "Show this message and exit."

/-- The spellings of a parameter and the kind of its value. -/
def synopsis (parameter : Parameter) : String :=
  let spellings :=
    match parameter.short? with
    | some short => short ++ ", " ++ parameter.long
    | none => parameter.long
  match parameter.valueKind? with
  | some .text => spellings ++ " TEXT"
  | some .file => spellings ++ " FILE"
  | none => spellings

end Parameter

/-- How the inputs are called in messages. -/
def inputsHint : String := "'[INPUTS]...'"

def usage : String := "Usage: cli [OPTIONS] [INPUTS]..."

/-- What is printed before the message about a wrong command line. -/
def usageHelp : String := usage ++ "\nTry 'cli --help' for help.\n\n"

/-- A line of the help text: the spellings, filled up to the width of the column, and what the
parameter does. -/
def helpLine (width : Nat) (parameter : Parameter) : String :=
  let synopsis := parameter.synopsis
  let space := String.ofList (List.replicate (width - synopsis.length) ' ')
  "  " ++ synopsis ++ space ++ "  " ++ parameter.description ++ "\n"

def helpText : String :=
  let width := (Parameter.all.map fun parameter => parameter.synopsis.length).foldl max 0
  usage ++ "\n\n  Generate HTML documentation for the Python sources in INPUTS.\n\nOptions:\n" ++
    String.join (Parameter.all.map (helpLine width))

def versionText : String := "quire, version 0.1.0\n"

end ApiDocs.CommandLine
