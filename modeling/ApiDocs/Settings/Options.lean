import ApiDocs.Log.Logger
import ApiDocs.Settings.Value

/-!
The options of a run.  Each option has a type; a value of another type, a word that is not among
the allowed ones and an unknown name are refused, and a refused value changes nothing.
-/

namespace ApiDocs

/-- The names of the options. -/
inductive OptionName where
  | name
  | inputFiles
  | out
  | readme
  | excludePrivate
  | disableSources
  | plugins
  | gaId
  | gaSite
  | footer
  | highlightStyle
  | logger
  | logLevel
deriving DecidableEq, Repr

namespace OptionName

def word : OptionName → String
  | name => "name"
  | inputFiles => "input_files"
  | out => "out"
  | readme => "readme"
  | excludePrivate => "exclude_private"
  | disableSources => "disable_sources"
  | plugins => "plugins"
  | gaId => "ga_id"
  | gaSite => "ga_site"
  | footer => "footer"
  | highlightStyle => "highlight_style"
  | logger => "logger"
  | logLevel => "log_level"

def all : List OptionName :=
  [name, inputFiles, out, readme, excludePrivate, disableSources, plugins, gaId, gaSite, footer,
    highlightStyle, logger, logLevel]

def ofWord? (word : String) : Option OptionName := all.find? fun option => option.word == word

theorem ofWord?_word (option : OptionName) : ofWord? option.word = some option := by
  cases option <;> decide

end OptionName

/-- The types of options: a switch, a text or a list of texts. -/
inductive Setting where
  | switch (value : Bool)
  | text (value : String)
  | texts (values : List String)
deriving DecidableEq, Repr

/-- The setting as a value. -/
def Setting.value : Setting → Value
  | .switch value => .boolean value
  | .text value => .text value
  | .texts values => .list (values.map Value.text)

/-- Why a setting was refused. -/
inductive OptionFault where
  | unknown (name : String)
  | notSwitch (option : OptionName) (given : Value)
  | notList (option : OptionName) (given : Value)
  | notText (option : OptionName) (given : Value)
  | notAllowed (option : OptionName) (allowed : List String)
  /-- Something was added to a setting of another type than a list. -/
  | noList (typeName : String)
  /-- What was given cannot be written. -/
  | exhausted (exhaustion : Exhaustion)

def OptionFault.message : OptionFault → String
  | unknown name => s!"Unknown option '{name}'"
  | notSwitch option given =>
    s!"Option '{option.word}' expects true or false, got {given.literal}"
  | notList option given => s!"Option '{option.word}' expects a list, got {given.literal}"
  | notText option given => s!"Option '{option.word}' expects a string, got {given.literal}"
  | notAllowed option allowed =>
    let words := ", ".intercalate allowed
    s!"Option '{option.word}' must be one of {words}"
  | noList typeName => s!"'{typeName}' object has no attribute 'append'"
  | exhausted exhaustion => exhaustion.message

/-- A fault that tells of a value, unless there is no room to write it. -/
def OptionFault.telling (room : Nat) (given : Value) (fault : OptionFault) : OptionFault :=
  ((given.exhaustsWithin? room).map OptionFault.exhausted).getD fault

/-- The value of an option that has not been set. -/
def OptionName.default : OptionName → Setting
  | name => .text ""
  | inputFiles => .texts []
  | out => .text "docs"
  | readme => .text ""
  | excludePrivate => .switch true
  | disableSources => .switch false
  | plugins => .texts []
  | gaId => .text ""
  | gaSite => .text "auto"
  | footer => .text ""
  | highlightStyle => .text "default"
  | logger => .text "console"
  | logLevel => .text "info"

/-- The words that an option is limited to, if it is. -/
def OptionName.allowed? : OptionName → Option (List String)
  | logger => some ["console", "none"]
  | logLevel => some (Level.all.map Level.word)
  | _ => none

/-- The texts of items, unless there is no room to write one of them. -/
def plainTexts (room : Nat) (items : List Value) : Except OptionFault Setting :=
  match items.findSome? (Value.exhaustsWithin? room) with
  | none => .ok (.texts (items.map Value.plain))
  | some exhaustion => .error (.exhausted exhaustion)

/-- The setting that a value means for an option.  A value is written with room for so many levels
inside of it. -/
def OptionName.accept (option : OptionName) (room : Nat) (given : Value) :
    Except OptionFault Setting :=
  match option.default with
  | .switch _ =>
    match given with
    | .boolean value => .ok (.switch value)
    | _ => .error (.telling room given (.notSwitch option given))
  | .texts _ =>
    match given with
    | .text value => .ok (.texts [value])
    | .path value => .ok (.texts [value.text])
    | .list items => plainTexts room items
    | .tuple items => plainTexts room items
    | _ => .error (.telling room given (.notList option given))
  | .text _ =>
    let text? :=
      match given with
      | .text value => some value
      | .path value => some value.text
      | _ => none
    match text? with
    | none => .error (.telling room given (.notText option given))
    | some text =>
      match option.allowed? with
      | none => .ok (.text text)
      | some allowed =>
        if allowed.contains text then .ok (.text text) else .error (.notAllowed option allowed)

/-- The settings of all options, and the options that have been set. -/
structure Options where
  settings : OptionName → Setting
  given : List OptionName

namespace Options

/-- Every option has its default. -/
def initial : Options := { settings := OptionName.default, given := [] }

/-- The setting of an option, asked for by name. -/
def get (options : Options) (name : String) : Except OptionFault Setting :=
  match OptionName.ofWord? name with
  | some option => .ok (options.settings option)
  | none => .error (.unknown name)

def put (options : Options) (option : OptionName) (setting : Setting) : Options :=
  { options with settings := fun other => if other = option then setting else options.settings other }

/-- An option is set, if name and value are accepted. -/
def set (options : Options) (room : Nat) (name : String) (given : Value) :
    Except OptionFault Options :=
  match OptionName.ofWord? name with
  | none => .error (.unknown name)
  | some option =>
    match option.accept room given with
    | .error fault => .error fault
    | .ok setting =>
      .ok { options.put option setting with given := options.given.insert option }

/-- Options are set one after the other, up to the first that is refused. -/
def setAll (options : Options) (room : Nat) : List (String × Value) → Options × Option OptionFault
  | [] => (options, none)
  | (name, given) :: rest =>
    match options.set room name given with
    | .error fault => (options, some fault)
    | .ok options => options.setAll room rest

/-- A text is added to a list of texts.  The list belongs to the store, so this does not count as
setting the option. -/
def append (options : Options) (name : String) (text : String) : Except OptionFault Options :=
  match OptionName.ofWord? name with
  | none => .error (.unknown name)
  | some option =>
    match options.settings option with
    | .texts values => .ok (options.put option (.texts (values ++ [text])))
    | setting => .error (.noList setting.value.typeName)

def isSet (options : Options) (name : String) : Bool :=
  match OptionName.ofWord? name with
  | some option => options.given.contains option
  | none => false

/-- All settings by name, in their order. -/
def snapshot (options : Options) : List (String × Setting) :=
  OptionName.all.map fun option => (option.word, options.settings option)

/-! ## Settings by type -/

def textOf (options : Options) (option : OptionName) : String :=
  match options.settings option with
  | .text value => value
  | _ => ""

def switchOf (options : Options) (option : OptionName) : Bool :=
  match options.settings option with
  | .switch value => value
  | _ => false

def textsOf (options : Options) (option : OptionName) : List String :=
  match options.settings option with
  | .texts values => values
  | _ => []

end Options

end ApiDocs
