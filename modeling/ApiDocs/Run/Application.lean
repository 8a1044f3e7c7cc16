import ApiDocs.Log.Console
import ApiDocs.Plugins.BuiltIn
import ApiDocs.Settings.ConfigFile

/-!
Runs: settings and plugins are prepared, the sources are converted, and the project is rendered.
Problems with single settings and plugins are reported together and do not end the preparation.
-/

namespace ApiDocs

/-- A module that plugins can be loaded from: with a loader, or without one. -/
inductive PluginModule (Observed : Type) where
  | loader (load : Loading Observed Unit)
  | withoutLoader

/-- Why a plugin is not loaded. -/
inductive PluginFault where
  | failed (failure : Failure)
  | noName
  | relative (name : String)
  | notFound (name : String)
  | notPackage (name parent : String)
  | noLoader (name : String)

def PluginFault.message : PluginFault → String
  | failed failure => failure.message
  | noName => "Empty module name"
  | relative name =>
    s!"the 'package' argument is required to perform a relative import for {Value.quote name}"
  | notFound name => s!"No module named {Value.quote name}"
  | notPackage name parent =>
    s!"No module named {Value.quote name}; {Value.quote parent} is not a package"
  | noLoader name => s!"module {name} has no load(app) function"

/-- What a run starts from and what it has come to: diagnostics (all messages for the console, also
those of earlier loggers), settings, surroundings, known plugins and modules, the names of the
loaded plugins, listeners and the model. -/
structure Application (Observed : Type) where
  logger : Logger
  output : List (Level × String)
  options : Options
  environment : Environment
  disk : Disk
  registry : Registry Observed
  modules : List (String × PluginModule Observed)
  loaded : List String
  listeners : Listeners Observed
  model : Model
  observed : Observed

/-- A step of a run; its state survives a failure. -/
abbrev Running (Observed Answer : Type) :=
  ExceptT Failure (StateM (Application Observed)) Answer

namespace Application

variable {Observed : Type}

def initial (environment : Environment) (disk : Disk) (registry : Registry Observed)
    (modules : List (String × PluginModule Observed)) (observed : Observed) :
    Application Observed :=
  { logger := .new .console .info
    output := []
    options := .initial
    environment
    disk
    registry
    modules
    loaded := []
    listeners := .empty
    model := .empty
    observed }

def report (level : Level) (message : String) : Running Observed Unit :=
  modify fun application => { application with logger := application.logger.log level message }

/-- Everything that has been written to the console. -/
def console (application : Application Observed) : String :=
  Console.outputOf false application.output ++ Console.output false application.logger

/-! ## Settings -/

/-- Later values replace earlier ones where these stand. -/
def mergeValues (values others : List (Value × Value)) : List (Value × Value) :=
  others.foldl (fun values pair => Yaml.insertPair values pair.1 pair.2) values

/-- The values of the configuration file.  One that cannot be read as such is a problem to be
reported. -/
def configured (path? : Option Path) : Running Observed (List (Value × Value) × List String) := do
  let application ← get
  match path? with
  | none => return ([], [])
  | some path =>
    match ConfigFile.load application.environment application.disk path with
    | .ok values => return (values, [])
    | .error (.config fault) => return ([], [fault.message])
    | .error failure => throw failure

/-- How many levels of values there is room for inside of a value that a message shows. -/
abbrev room (application : Application Observed) : Nat :=
  application.environment.platform.showingRoom

/-- What is exhausted while an entry is set, or while the problem with it is written. -/
def entryExhausts? (room : Nat) (entry : Value × Value) : Option Exhaustion :=
  match entry.1 with
  | .text name =>
    match OptionName.ofWord? name with
    | none => none
    | some option =>
      match option.accept room entry.2 with
      | .error (.exhausted exhaustion) => some exhaustion
      | _ => none
  | name => name.exhaustsWithin? room

/-- The entries before the first that something is exhausted with. -/
def tellable (room : Nat) (entries : List (Value × Value)) : List (Value × Value) :=
  entries.takeWhile fun entry => (entryExhausts? room entry).isNone

/-- Sets what can be set; the problems with the rest are returned. -/
def applySettings (room : Nat) (options : Options) : List (Value × Value) → Options × List String
  | [] => (options, [])
  | (name, value) :: rest =>
    let outcome :=
      match name with
      | .text name => options.set room name value
      | _ => .error (.unknown name.plain)
    match outcome with
    | .ok options => applySettings room options rest
    | .error fault =>
      let (options, problems) := applySettings room options rest
      (options, fault.message :: problems)

/-- Makes the settings that entries ask for.  The problems with them are returned, unless something
is exhausted with an entry: then those before it are all that is set. -/
def makeSettings (entries : List (Value × Value)) : Running Observed (List String) := do
  let application ← get
  let (options, problems) :=
    applySettings application.room application.options (tellable application.room entries)
  set { application with options }
  match entries.findSome? (entryExhausts? application.room) with
  | none => return problems
  | some exhaustion => throw (.exhausted exhaustion)

/-- The logger that the settings ask for takes the place of the one before. -/
def replaceLogger : Running Observed Unit :=
  modify fun application =>
    let level := (Level.ofWord? (application.options.textOf .logLevel)).getD .info
    { application with
      output := application.output ++ Console.shown application.logger
      logger := .ofName (application.options.textOf .logger) level }

/-! ## Plugins -/

/-- A module of a dotted name is looked for inside of the one that its first part names.  No module
holds others. -/
def missingModule (modules : List (String × PluginModule Observed)) (name : String) :
    PluginFault :=
  match Text.splitOn '.' name.toList with
  | first :: second :: _ =>
    let parent := String.ofList first
    if (modules.lookup parent).isSome then
      .notPackage (parent ++ "." ++ String.ofList second) parent
    else .notFound parent
  | _ => .notFound name

/-- What loads the plugin of a name: a registered plugin or, failing that, a module. -/
def loaderOf (application : Application Observed) (name : String) :
    Except PluginFault (Loading Observed Unit) :=
  match application.registry.find? name with
  | some plugin => .ok plugin.load
  | none =>
    if name = "" then .error .noName
    else if name.startsWith "." then .error (.relative name)
    else
      match application.modules.lookup name with
      | some (.loader load) => .ok load
      | some .withoutLoader => .error (.noLoader name)
      | none => .error (missingModule application.modules name)

/-- A plugin adds its listeners. -/
def loadPlugin (name : String) : Running Observed Unit := do
  let application ← get
  let outcome ←
    match loaderOf application name with
    | .error fault => pure (.error fault)
    | .ok load =>
      let (outcome, listeners) := load.run application.listeners
      set { application with listeners }
      pure (outcome.mapError PluginFault.failed)
  match outcome with
  | .error fault => report .error s!"The plugin {name} could not be loaded: {fault.message}"
  | .ok () =>
    modify fun application => { application with loaded := application.loaded ++ [name] }
    report .verbose s!"Loaded plugin {name}"

/-- The built-in plugins are registered and loaded, then those that the settings name; each is
loaded once. -/
def loadPlugins : Running Observed Unit := do
  let application ← get
  let (registry, fault?) := application.registry.registerAll Plugin.builtIn
  set { application with registry }
  match fault? with
  | some fault => throw (.registry fault)
  | none =>
    let builtIn := (Plugin.builtIn : List (Plugin Observed)).map Plugin.name
    for name in builtIn ++ application.options.textsOf .plugins do
      if !(← get).loaded.contains name then loadPlugin name

/-- Prepares a run: the settings of the configuration file, over them the given ones, a logger, and
the plugins. -/
def bootstrap (given : List (Value × Value)) (config : Option String) : Running Observed Unit := do
  let application ← get
  let path? :=
    match config with
    | none => ConfigFile.find? application.disk ""
    | some "" => ConfigFile.find? application.disk ""
    | some path => some (Path.ofString path)
  let (values, problems) ← configured path?
  let refused ← makeSettings (mergeValues values given)
  replaceLogger
  for problem in problems ++ refused do
    report .error problem
  loadPlugins

/-! ## Steps of a run -/

/-- Converts the inputs.  There is no project if anything has been reported as an error. -/
def convert : Running Observed (Option Nat) := do
  let application ← get
  let inputs := application.options.textsOf .inputFiles
  report .verbose s!"Converting {inputs.length} input(s)"
  let application ← get
  let (outcome, converter) := (Convert.convert inputs).run
    { logger := application.logger
      options := application.options
      environment := application.environment
      disk := application.disk
      hooks := application.listeners.convert
      model := application.model
      observed := application.observed }
  set { application with
    logger := converter.logger
    listeners := { application.listeners with convert := converter.hooks }
    model := converter.model
    observed := converter.observed }
  match outcome with
  | .error failure =>
    report .error s!"Conversion failed: {failure.message}"
    return none
  | .ok project => return if (← get).logger.hasErrors then none else some project

/-- Renders a project of the model into a directory. -/
def generate (project : Nat) (out : String) : Running Observed Unit := do
  report .verbose s!"Rendering documentation to {out}"
  let application ← get
  let (outcome, renderer) :=
    (Site.render (application.model.project project) (Path.ofString out)).run
      { logger := application.logger
        options := application.options
        environment := application.environment
        hooks := application.listeners.hooks
        events := application.listeners.events
        disk := application.disk
        observed := application.observed }
  set { application with
    logger := renderer.logger
    disk := renderer.disk
    observed := renderer.observed
    listeners :=
      { application.listeners with hooks := renderer.hooks, events := renderer.events } }
  match outcome with
  | .error failure => throw failure
  | .ok () =>
    if !(← get).logger.hasErrors then report .info s!"Documentation generated at {out}"

end Application

end ApiDocs
