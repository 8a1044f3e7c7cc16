import ApiDocs.Convert.Inputs
import ApiDocs.Convert.Outline
import ApiDocs.Hooks.Basic
import ApiDocs.Model.Store
import ApiDocs.Source.Statement
import ApiDocs.Text.Utf8

/-!
Building the model of a project from source files.  Listeners follow the events of the conversion
and may change the model.
-/

namespace ApiDocs.Convert

/-- The events of a conversion. -/
inductive ConvertEvent where
  | begin
  | createDeclaration
  | resolveBegin
  | resolve
  | finish
deriving DecidableEq, Repr

namespace ConvertEvent

def word : ConvertEvent → String
  | begin => "begin"
  | createDeclaration => "create_declaration"
  | resolveBegin => "resolve_begin"
  | resolve => "resolve"
  | finish => "end"

def all : List ConvertEvent := [begin, createDeclaration, resolveBegin, resolve, finish]

def ofWord? (word : String) : Option ConvertEvent := all.find? fun event => event.word == word

end ConvertEvent

/-- A listener is told the declaration that an event is about and, when it has just been created,
where it comes from.  It may change the model. -/
abbrev ConvertListener (Observed : Type) :=
  Nat → Option Origin → ExceptT Failure (StateM (Model × Observed)) Unit

/-- Options, diagnostics and listeners of conversions, with the model and what listeners have
observed so far. -/
structure Converter (Observed : Type) where
  logger : Logger
  options : Options
  environment : Environment
  disk : Disk
  hooks : Hooks ConvertEvent (ConvertListener Observed)
  model : Model
  observed : Observed

/-- A computation of the converter; its state survives a failure. -/
abbrev Converting (Observed Answer : Type) :=
  ExceptT Failure (StateM (Converter Observed)) Answer

variable {Observed : Type}

/-! ## Events -/

/-- A listener runs on the model and on what has been observed. -/
def notify (listener : ConvertListener Observed) (key : Nat) (origin : Option Origin) :
    Converting Observed Unit := do
  let converter ← get
  let (answer, (model, observed)) :=
    (listener key origin).run (converter.model, converter.observed)
  set { converter with model, observed }
  match answer with
  | .ok () => return ()
  | .error failure => throw failure

/-- An event about a declaration is announced. -/
def announce (event : ConvertEvent) (key : Nat) (origin : Option Origin) :
    Converting Observed Unit := do
  let converter ← get
  set { converter with hooks := converter.hooks.dropOnce event }
  for listener in converter.hooks.snapshot event do
    notify listener key origin

def report (level : Level) (message : String) : Converting Observed Unit :=
  modify fun converter => { converter with logger := converter.logger.log level message }

/-! ## Declarations -/

/-- A declaration is created as the last child of its parent and announced; its identity is
returned. -/
def attach (parent : Nat) (declaration : Declaration) (origin : Origin) :
    Converting Observed Nat := do
  let converter ← get
  let key := converter.model.size
  set { converter with model := (converter.model.create declaration).addChild parent key }
  announce .createDeclaration key (some origin)
  return key

mutual

/-- A declaration is attached before its members. -/
def attachEntry (parent : Nat) : Entry → Converting Observed Unit
  | .failed failure => throw failure
  | .declared declaration origin members => do
    let key ← attach parent declaration origin
    attachEntries key members

def attachEntries (parent : Nat) : List Entry → Converting Observed Unit
  | [] => pure ()
  | entry :: entries => do
    attachEntry parent entry
    attachEntries parent entries

end

/-! ## Files -/

/-- The text of a file with unified line ends. -/
def readText (disk : Disk) (path : Path) : Except Failure (List Char) :=
  match disk.read path with
  | .error fault => .error (.file fault)
  | .ok bytes =>
    match Text.decode bytes with
    | .error fault => .error (.undecodable fault)
    | .ok text => .ok (Text.unifyLineEnds text)

/-- What is read from one source file: its module, an error to be reported, or a failure. -/
inductive Reading where
  | parsed (entry : Entry)
  | rejected (message : String)
  | failed (failure : Failure)

/-- The module of a file with the given text.  The reason why a text cannot be parsed is a message
of the parser, for all of which `invalid syntax` stands here; the line is the one that it names. -/
def readSource (platform : Platform) (options : Options) (relative : Path) (text : List Char) :
    Reading :=
  if text.contains '\x00' then .failed .nullCharacter
  else
    match platform.readingExhausts? text with
    | some exhaustion => .failed (.exhausted exhaustion)
    | none =>
      match Source.SourceFile.read platform.names text with
      | .error line => .rejected s!"{relative.text}:{line}: invalid syntax"
      | .ok source =>
        let view : View :=
          { file := relative.text
            excludesPrivate := options.switchOf .excludePrivate
            hidesSources := options.switchOf .disableSources
            platform }
        .parsed (moduleEntry view (moduleName relative) source)

/-- The module of an input. -/
def readInput (platform : Platform) (options : Options) (disk : Disk) (input : SourceInput) :
    Reading :=
  match readText disk input.file with
  | .error failure => .rejected s!"Could not read {input.file.text}: {failure.message}"
  | .ok text => readSource platform options (input.file.relativeTo input.root) text

/-- The module of an input is attached to the project; an input that cannot be read is
reported. -/
def convertInput (project : Nat) (input : SourceInput) : Converting Observed Unit := do
  let converter ← get
  match readInput converter.environment.platform converter.options converter.disk input with
  | .parsed entry => attachEntry project entry
  | .rejected message => report .error message
  | .failed failure => throw failure

/-- The readme that the options name; one that cannot be opened is reported. -/
def readReadme : Converting Observed String := do
  let converter ← get
  let readme := converter.options.textOf .readme
  if readme = "" then return ""
  else if readme.toList.contains '\x00' then throw .nullInName
  else
    match readText converter.disk (Path.ofString readme) with
    | .ok text => return String.ofList text
    | .error (.file fault) =>
      report .warn s!"Could not read readme {readme}: {fault.message}"
      return ""
    | .error failure => throw failure

/-! ## Projects -/

/-- Announces the descendants of a declaration down to a depth.  The children are those that it
has when it is reached. -/
def resolveBelow : Nat → Nat → Converting Observed Unit
  | 0, _ => pure ()
  | depth + 1, key => do
    let converter ← get
    for child in converter.model.children key do
      announce .resolve child none
      resolveBelow depth child

/-- The source files of the inputs. -/
def findSources (inputs : List String) : Converting Observed (List SourceInput) := do
  let converter ← get
  let (sources, logger) :=
    expandInputs converter.environment converter.disk converter.logger inputs
  set { converter with logger }
  liftM sources

/-- Builds the project of the inputs; its identity in the model is returned. -/
def convert (inputs : List String) : Converting Observed Nat := do
  let readme ← readReadme
  let converter ← get
  let project := converter.model.size
  let declaration := Declaration.ofName (converter.options.textOf .name) .project
  set { converter with model := converter.model.createProject declaration readme }
  let sources ← findSources inputs
  if sources.isEmpty then report .error "No Python source files found in the given inputs."
  announce .begin project none
  for source in sources do
    convertInput project source
  announce .resolveBegin project none
  let converter ← get
  resolveBelow converter.model.size project
  announce .finish project none
  return project

end ApiDocs.Convert
