import ApiDocs.CommandLine.Arguments
import ApiDocs.Run.Application

/-!
The command: arguments are read, and what they ask for is done.
-/

namespace ApiDocs.CommandLine

/-- How the command ended: its exit code, what it wrote to both streams, the failure that ended it
if one did, and the files afterwards. -/
structure Outcome where
  exitCode : Nat
  output : String
  errors : String
  failure : Option Failure
  disk : Disk

/-- What a run comes to: a line that sums it up, or a step after which it is not continued. -/
inductive Result where
  | finished (summary : String)
  | stopped (message : String)

/-- The summary of a run. -/
def summary (modules : Nat) (out : String) (logger : Logger) : String :=
  let warnings := if logger.hasWarnings then s!" . {logger.warnings} warnings" else ""
  Console.print false (Console.summaryLine s!"{modules} modules documented" (out ++ warnings))

variable {Observed : Type}

def hasErrors : Running Observed Bool := do return (← get).logger.hasErrors

/-- A run, step by step.  An error that a step reports ends it. -/
def steps (arguments : Arguments) : Running Observed Result := do
  let settings := arguments.settings.map fun (option, value) => (Value.text option.word, value)
  Application.bootstrap settings arguments.config
  if ← hasErrors then return .stopped "Invalid configuration, see errors above"
  match ← Application.convert with
  | none => return .stopped "Conversion failed, see errors above"
  | some project =>
    let out := (← get).options.textOf .out
    Application.generate project out
    if ← hasErrors then return .stopped "Rendering failed, see errors above"
    let application ← get
    let modules := (application.model.modules project).length
    return .finished (summary modules out application.logger)

/-- Runs the command in the given surroundings. -/
def execute (start : Application Observed) (arguments : List String) : Outcome :=
  match request start.disk arguments with
  | .error fault =>
    { exitCode := 2, output := "", errors := fault.text, failure := none, disk := start.disk }
  | .ok (.print text) =>
    { exitCode := 0, output := text, errors := "", failure := none, disk := start.disk }
  | .ok (.run arguments) =>
    let (answer, application) := (steps arguments).run start
    let disk := application.disk
    let errors := application.console
    match answer with
    | .ok (.finished summary) => { exitCode := 0, output := summary, errors, failure := none, disk }
    | .ok (.stopped message) =>
      { exitCode := 1, output := "", errors := errors ++ s!"Error: {message}\n", failure := none
        disk }
    | .error failure => { exitCode := 1, output := "", errors, failure := some failure, disk }

end ApiDocs.CommandLine
