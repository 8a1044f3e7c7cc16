import ApiDocs.CommandLine.Parameter
import ApiDocs.Files.Disk
import ApiDocs.Settings.Options
import ApiDocs.Text.Similar

/-!
Arguments of the command line: what they ask for, or why they are wrong.
-/

namespace ApiDocs.CommandLine

/-- Why the arguments are wrong. -/
inductive UsageFault where
  | unknown (spelling : String) (offers : List String)
  | needsValue (spelling : String)
  | takesNoValue (spelling : String)
  /-- The place of a parameter is missing, or is a directory where a file is needed. -/
  | missing (hint kind place : String)
  | isDirectory (hint kind place : String)
deriving DecidableEq, Repr

namespace UsageFault

def message : UsageFault → String
  | unknown spelling [] => s!"No such option: {spelling}"
  | unknown spelling [offer] => s!"No such option: {spelling} Did you mean {offer}?"
  | unknown spelling offers =>
    let words := ", ".intercalate (offers.mergeSort fun first second => decide (first ≤ second))
    s!"No such option: {spelling} (Possible options: {words})"
  | needsValue spelling => s!"Option {Value.quote spelling} requires an argument."
  | takesNoValue spelling => s!"Option {Value.quote spelling} does not take a value."
  | missing hint kind place =>
    s!"Invalid value for {hint}: {kind} {Value.quote place} does not exist."
  | isDirectory hint kind place =>
    s!"Invalid value for {hint}: {kind} {Value.quote place} is a directory."

/-- What is printed: the message, after the usage unless only a value is missing or too many. -/
def text (fault : UsageFault) : String :=
  let error := s!"Error: {fault.message}\n"
  match fault with
  | needsValue _ => error
  | takesNoValue _ => error
  | _ => usageHelp ++ error

end UsageFault

/-! ## Splitting -/

/-- The parameters that were given, in their order, each with its value, and the inputs. -/
structure Split where
  given : List (Parameter × String)
  inputs : List String
deriving DecidableEq, Repr

/-- The value of a parameter, and the arguments that are left. -/
def takeValue (spelling : String) (attached : Option String) (rest : List String) :
    Except UsageFault (String × List String) :=
  match attached, rest with
  | some value, rest => .ok (value, rest)
  | none, value :: rest => .ok (value, rest)
  | none, [] => .error (.needsValue spelling)

/-- The parameters behind a hyphen: switches, and at the end one with its value. -/
def splitLetters :
    List Char → List String → Except UsageFault (List (Parameter × String) × List String)
  | [], rest => .ok ([], rest)
  | letter :: letters, rest =>
    let spelling := String.ofList ['-', letter]
    match Parameter.ofLetter? letter with
    | none => .error (.unknown spelling [])
    | some parameter =>
      if parameter.takesValue then do
        let attached := if letters.isEmpty then none else some (String.ofList letters)
        let (value, rest) ← takeValue spelling attached rest
        return ([(parameter, value)], rest)
      else do
        let (given, rest) ← splitLetters letters rest
        return ((parameter, "") :: given, rest)

/-- The long spelling of an argument, and the value after an equals sign. -/
def splitEquals (argument : String) : String × Option String :=
  let before := argument.toList.takeWhile (· ≠ '=')
  match argument.toList.dropWhile (· ≠ '=') with
  | _ :: value => (String.ofList before, some (String.ofList value))
  | [] => (argument, none)

/-- One argument that begins with a hyphen, and what it takes from the arguments after it. -/
def splitParameter (argument : String) (rest : List String) :
    Except UsageFault (List (Parameter × String) × List String) :=
  let (spelling, attached) := splitEquals argument
  match Parameter.ofLong? spelling with
  | some parameter =>
    if parameter.takesValue then do
      let (value, rest) ← takeValue spelling attached rest
      return ([(parameter, value)], rest)
    else
      match attached with
      | some _ => .error (.takesNoValue spelling)
      | none => .ok ([(parameter, "")], rest)
  | none =>
    if argument.startsWith "--" then
      .error (.unknown spelling (Text.closeMatches spelling (Parameter.all.map Parameter.long)))
    else splitLetters (argument.toList.drop 1) rest

/-- Splits arguments.  Parameters and inputs may stand in any order; after two hyphens there are
inputs only, and so is a single hyphen. -/
def splitFrom : Nat → List String → Except UsageFault Split
  | 0, _ => .ok { given := [], inputs := [] }
  | _, [] => .ok { given := [], inputs := [] }
  | bound + 1, argument :: rest =>
    if argument = "--" then .ok { given := [], inputs := rest }
    else if argument.startsWith "-" && argument ≠ "-" then do
      let (given, rest) ← splitParameter argument rest
      let split ← splitFrom bound rest
      return { split with given := given ++ split.given }
    else do
      let split ← splitFrom bound rest
      return { split with inputs := argument :: split.inputs }

def split (arguments : List String) : Except UsageFault Split :=
  splitFrom (arguments.length + 1) arguments

/-! ## Requests -/

/-- What the arguments say about a run. -/
structure Arguments where
  inputs : List String
  out : Option String
  name : Option String
  readme : Option String
  config : Option String
  plugins : List String
  gaId : Option String
  disableSources : Bool
  verbose : Bool
deriving DecidableEq, Repr

/-- What is asked for: a text to be printed, or a run. -/
inductive Request where
  | print (text : String)
  | run (arguments : Arguments)

/-- What stands at a place.  A place that ends in a slash or in a single dot is a directory. -/
def entryAt? (disk : Disk) (place : String) : Option Entry :=
  let last := (Path.pieces place).getLast?.getD ""
  match disk.find? (Path.ofString place) with
  | none => none
  | some entry =>
    if place = "" then none
    else if (last = "" || last = ".") && entry.isFile then none
    else some entry

/-- A parameter that names a file names one that exists. -/
def checkFile (disk : Disk) (parameter : Parameter) (value : String) : Except UsageFault Unit :=
  match entryAt? disk value with
  | none => .error (.missing parameter.hint "File" value)
  | some entry =>
    if entry.isDirectory then .error (.isDirectory parameter.hint "File" value) else .ok ()

def checkInput (disk : Disk) (input : String) : Except UsageFault Unit :=
  match entryAt? disk input with
  | none => .error (.missing inputsHint "Path" input)
  | some _ => .ok ()

namespace Split

/-- The value of a parameter: the last one that was given. -/
def value? (split : Split) (parameter : Parameter) : Option String :=
  ((split.given.filter fun pair => pair.1 = parameter).getLast?).map Prod.snd

def has (split : Split) (parameter : Parameter) : Bool := (split.value? parameter).isSome

def arguments (split : Split) : Arguments :=
  { inputs := split.inputs
    out := split.value? .out
    name := split.value? .name
    readme := split.value? .readme
    config := split.value? .config
    plugins := (split.given.filter fun pair => pair.1 = .plugin).map Prod.snd
    gaId := split.value? .gaId
    disableSources := split.has .disableSources
    verbose := split.has .verbose }

/-- The text that the first request for help or for the version asks for. -/
def printed? (split : Split) : Option String :=
  split.given.findSome? fun pair =>
    match pair.1 with
    | .help => some helpText
    | .version => some versionText
    | _ => none

/-- Checks files in the order in which their parameters were first given, and then the inputs. -/
def check (split : Split) (disk : Disk) : Except UsageFault Unit := do
  for parameter in (split.given.map Prod.fst).eraseDups do
    if parameter.valueKind? = some .file then
      checkFile disk parameter ((split.value? parameter).getD "")
  for input in split.inputs do
    checkInput disk input

end Split

/-- What arguments ask for.  A request for help or for the version comes before all checks of
places. -/
def request (disk : Disk) (arguments : List String) : Except UsageFault Request := do
  let split ← split arguments
  match split.printed? with
  | some text => return .print text
  | none =>
    split.check disk
    return .run split.arguments

/-! ## Settings -/

/-- The settings that the arguments give.  What is not given, or empty, is left to the configuration
file. -/
def Arguments.settings (arguments : Arguments) : List (OptionName × Value) :=
  let texts (option : OptionName) (values : List String) : List (OptionName × Value) :=
    if values.isEmpty then [] else [(option, .list (values.map Value.text))]
  let text (option : OptionName) (value : Option String) : List (OptionName × Value) :=
    match value with
    | none => []
    | some value => if value = "" then [] else [(option, .text value)]
  texts .inputFiles arguments.inputs ++ text .out arguments.out ++ text .name arguments.name ++
    text .readme arguments.readme ++ texts .plugins arguments.plugins ++
    text .gaId arguments.gaId ++
    (if arguments.disableSources then [(.disableSources, .boolean true)] else []) ++
    (if arguments.verbose then [(.logLevel, .text Level.verbose.word)] else [])

end ApiDocs.CommandLine
