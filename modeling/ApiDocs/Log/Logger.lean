/-!
Diagnostics of a run.  A logger counts errors and warnings, whatever its threshold, and passes on
the messages that reach the threshold.
-/

namespace ApiDocs

/-- How much a message matters; as a threshold, `none` lets nothing pass. -/
inductive Level where
  | verbose
  | info
  | warn
  | error
  | none
deriving DecidableEq, Repr

namespace Level

def rank : Level → Nat
  | verbose => 0
  | info => 1
  | warn => 2
  | error => 3
  | none => 4

def word : Level → String
  | verbose => "verbose"
  | info => "info"
  | warn => "warn"
  | error => "error"
  | none => "none"

/-- The level as it is called in capital letters. -/
def title (level : Level) : String := level.word.toUpper

def all : List Level := [verbose, info, warn, error, none]

def ofWord? (word : String) : Option Level := all.find? fun level => level.word == word

end Level

/-- Where the messages of a logger go: nowhere, or to the console. -/
inductive Sink where
  | silent
  | console
deriving DecidableEq, Repr

/-- A logger with the messages that it has passed on, the earliest first. -/
structure Logger where
  sink : Sink
  threshold : Level
  errors : Nat
  warnings : Nat
  passed : List (Level × String)
deriving DecidableEq, Repr

namespace Logger

def new (sink : Sink) (threshold : Level) : Logger :=
  { sink, threshold, errors := 0, warnings := 0, passed := [] }

/-- The logger of a name: `none` is silent, every other one writes to the console. -/
def ofName (name : String) (threshold : Level) : Logger :=
  if name = "none" then new .silent .none else new .console threshold

def hasErrors (logger : Logger) : Bool := logger.errors > 0

def hasWarnings (logger : Logger) : Bool := logger.warnings > 0

def resetErrors (logger : Logger) : Logger := { logger with errors := 0 }

def resetWarnings (logger : Logger) : Logger := { logger with warnings := 0 }

/-- Whether a message of a level reaches the threshold. -/
def passes (logger : Logger) (level : Level) : Bool := logger.threshold.rank ≤ level.rank

/-- The counters after a message of a level. -/
def count (logger : Logger) (level : Level) : Logger :=
  match level with
  | .error => { logger with errors := logger.errors + 1 }
  | .warn => { logger with warnings := logger.warnings + 1 }
  | _ => logger

/-- A message is counted and, if it reaches the threshold, passed on. -/
def log (logger : Logger) (level : Level) (message : String) : Logger :=
  let counted := logger.count level
  if logger.passes level then { counted with passed := counted.passed ++ [(level, message)] }
  else counted

def error (logger : Logger) (message : String) : Logger := logger.log .error message

def warn (logger : Logger) (message : String) : Logger := logger.log .warn message

def info (logger : Logger) (message : String) : Logger := logger.log .info message

def verbose (logger : Logger) (message : String) : Logger := logger.log .verbose message

/-- Whether the sink has a form for messages of the level; the console has none for messages that
belong to the threshold which lets nothing pass. -/
def accepts (logger : Logger) (level : Level) : Bool :=
  logger.sink = .silent || level ≠ .none

end Logger

end ApiDocs
