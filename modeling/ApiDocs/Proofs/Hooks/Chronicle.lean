import ApiDocs.Hooks.Script
import ApiDocs.Proofs.Hooks.History

/-!
# Recorded runs

A chronicle is a session that keeps its past: everything that has happened, each with the
registry right after it.  Recording changes neither what a run answers nor the session it ends
in.
-/

namespace ApiDocs

/-- Something that has happened, with the registry right after it. -/
structure Instant (Event Listener Value Failure : Type) where
  occurrence : Occurrence Event Listener Value Failure
  hooks : Hooks Event Listener

/-- The registry after a past that began with an empty registry. -/
def registryAfter {Event Listener Value Failure : Type}
    (past : List (Instant Event Listener Value Failure)) : Hooks Event Listener :=
  (past.getLast?.map Instant.hooks).getD .empty

/-- A session together with its past, the earliest instant first. -/
structure Chronicle (Event Listener Value Note Failure : Type) where
  session : Session Event Listener Note
  past : List (Instant Event Listener Value Failure)

namespace Chronicle

variable {Event Listener Value Note Failure : Type}

/-- The chronicle of a registry that has just been made. -/
def fresh (notes : List Note) : Chronicle Event Listener Value Note Failure :=
  { session := { hooks := .empty, notes }, past := [] }

def history (chronicle : Chronicle Event Listener Value Note Failure) :
    List (Occurrence Event Listener Value Failure) :=
  chronicle.past.map Instant.occurrence

/-- Something happens, and the registry is replaced. -/
def add (chronicle : Chronicle Event Listener Value Note Failure)
    (occurrence : Occurrence Event Listener Value Failure) (hooks : Hooks Event Listener) :
    Chronicle Event Listener Value Note Failure :=
  { session := { chronicle.session with hooks }
    past := chronicle.past ++ [{ occurrence, hooks }] }

def report (chronicle : Chronicle Event Listener Value Note Failure)
    (occurrence : Occurrence Event Listener Value Failure) :
    Chronicle Event Listener Value Note Failure :=
  chronicle.add occurrence chronicle.session.hooks

@[simp]
theorem report_session (chronicle : Chronicle Event Listener Value Note Failure)
    (occurrence : Occurrence Event Listener Value Failure) :
    (chronicle.report occurrence).session = chronicle.session :=
  rfl

def write (chronicle : Chronicle Event Listener Value Note Failure) (entry : Note) :
    Chronicle Event Listener Value Note Failure :=
  { chronicle with
    session := { chronicle.session with notes := chronicle.session.notes ++ [entry] } }

variable [DecidableEq Event]

def register (chronicle : Chronicle Event Listener Value Note Failure)
    (event : Event) (registration : Registration Listener) :
    Chronicle Event Listener Value Note Failure :=
  chronicle.add (.registered event registration)
    (chronicle.session.hooks.register event registration)

def withdraw [DecidableEq Listener] (chronicle : Chronicle Event Listener Value Note Failure)
    (event : Event) (listener : Listener) : Chronicle Event Listener Value Note Failure :=
  chronicle.add (.withdrawn event listener) (chronicle.session.hooks.off event listener)

def start (chronicle : Chronicle Event Listener Value Note Failure)
    (event : Event) (arguments : List Value) : Chronicle Event Listener Value Note Failure :=
  chronicle.add (.emitted event arguments) (chronicle.session.hooks.dropOnce event)

end Chronicle

/-! ## Recording -/

namespace Script

variable {Event Listener Value Note Failure : Type} [DecidableEq Event] [DecidableEq Listener]

/-- Runs a script and records it, given what an emission does. -/
def record
    (emission : Event → List Value → Chronicle Event Listener Value Note Failure →
      Except (Stop Failure) (List Value) × Chronicle Event Listener Value Note Failure) :
    Script Event Listener Value Note Failure → Chronicle Event Listener Value Note Failure →
      Except (Stop Failure) Value × Chronicle Event Listener Value Note Failure
  | finish value, chronicle => (.ok value, chronicle)
  | fail failure, chronicle => (.error (.failure failure), chronicle)
  | note entry next, chronicle => record emission next (chronicle.write entry)
  | review next, chronicle => record emission (next chronicle.session.notes) chronicle
  | on event listener order next, chronicle =>
    record emission next (chronicle.register event { listener, order, once := false })
  | once event listener order next, chronicle =>
    record emission next (chronicle.register event { listener, order, once := true })
  | off event listener next, chronicle =>
    record emission next (chronicle.withdraw event listener)
  | count event next, chronicle =>
    record emission (next (chronicle.session.hooks.count event)) chronicle
  | attempt event arguments next, chronicle =>
    match emission event arguments chronicle with
    | (.ok values, chronicle) => record emission (next (.ok values)) chronicle
    | (.error (.failure failure), chronicle) => record emission (next (.error failure)) chronicle
    | (.error .tooDeep, chronicle) => (.error .tooDeep, chronicle)

/-- Calls listeners one after the other, up to the first one that fails, and records each call
with what comes of it. -/
def recordCalls (number : Nat) (arguments : List Value)
    (call : Listener → Chronicle Event Listener Value Note Failure →
      Except (Stop Failure) Value × Chronicle Event Listener Value Note Failure) :
    List Listener → Chronicle Event Listener Value Note Failure →
      Except (Stop Failure) (List Value) × Chronicle Event Listener Value Note Failure
  | [], chronicle => (.ok [], chronicle)
  | listener :: listeners, chronicle =>
    match call listener (chronicle.report (.called number listener arguments)) with
    | (.error .tooDeep, chronicle) => (.error .tooDeep, chronicle)
    | (.error (.failure failure), chronicle) =>
      (.error (.failure failure), chronicle.report (.raised number failure))
    | (.ok value, chronicle) =>
      match
        recordCalls number arguments call listeners (chronicle.report (.answered number value))
      with
      | (.error stop, chronicle) => (.error stop, chronicle)
      | (.ok values, chronicle) => (.ok (value :: values), chronicle)

/-- A recorded emission, `depth` levels deep at most. -/
def recordEmission
    (behaviour : Listener → List Value → Script Event Listener Value Note Failure) :
    Nat → Event → List Value → Chronicle Event Listener Value Note Failure →
      Except (Stop Failure) (List Value) × Chronicle Event Listener Value Note Failure
  | 0, _, _, chronicle => (.error .tooDeep, chronicle)
  | depth + 1, event, arguments, chronicle =>
    let number := chronicle.past.length
    match
      recordCalls number arguments
        (fun listener => record (recordEmission behaviour depth) (behaviour listener arguments))
        (chronicle.session.hooks.snapshot event) (chronicle.start event arguments)
    with
    | (.error stop, chronicle) => (.error stop, chronicle)
    | (.ok values, chronicle) => (.ok values, chronicle.report (.completed number values))

/-- A recorded run from outside all emissions, on a new registry. -/
def recordRun (behaviour : Listener → List Value → Script Event Listener Value Note Failure)
    (depth : Nat) (script : Script Event Listener Value Note Failure) (notes : List Note) :
    Except (Stop Failure) Value × Chronicle Event Listener Value Note Failure :=
  record (recordEmission behaviour depth) script (.fresh notes)

/-! ## Recording changes nothing -/

section Agreement

variable {Answer : Type}

/-- What remains of a recorded outcome when the past is forgotten. -/
def forgetPast
    (outcome : Except (Stop Failure) Answer × Chronicle Event Listener Value Note Failure) :
    Except (Stop Failure) Answer × Session Event Listener Note :=
  (outcome.1, outcome.2.session)

theorem record_agrees
    {recorded : Event → List Value → Chronicle Event Listener Value Note Failure →
      Except (Stop Failure) (List Value) × Chronicle Event Listener Value Note Failure}
    {emission : Event → List Value → Session Event Listener Note →
      Except (Stop Failure) (List Value) × Session Event Listener Note}
    (agree : ∀ event arguments chronicle,
      forgetPast (recorded event arguments chronicle) =
        emission event arguments chronicle.session)
    (script : Script Event Listener Value Note Failure)
    (chronicle : Chronicle Event Listener Value Note Failure) :
    forgetPast (record recorded script chronicle) =
      interpret emission script chronicle.session := by
  induction script generalizing chronicle with
  | finish value =>
      rfl
  | fail failure =>
      rfl
  | note entry next inductionHypothesis =>
      exact inductionHypothesis (chronicle.write entry)
  | review next inductionHypothesis =>
      exact inductionHypothesis chronicle.session.notes chronicle
  | on event listener order next inductionHypothesis =>
      exact inductionHypothesis (chronicle.register event ⟨listener, order, false⟩)
  | once event listener order next inductionHypothesis =>
      exact inductionHypothesis (chronicle.register event ⟨listener, order, true⟩)
  | off event listener next inductionHypothesis =>
      exact inductionHypothesis (chronicle.withdraw event listener)
  | count event next inductionHypothesis =>
      exact inductionHypothesis (chronicle.session.hooks.count event) chronicle
  | attempt event arguments next inductionHypothesis =>
      have same := agree event arguments chronicle
      rw [record, interpret, ← same]
      rcases recorded event arguments chronicle with ⟨outcome, after⟩
      cases outcome with
      | ok values => exact inductionHypothesis (.ok values) after
      | error stop =>
          cases stop with
          | failure failure => exact inductionHypothesis (.error failure) after
          | tooDeep => rfl

omit [DecidableEq Event] [DecidableEq Listener] in
theorem recordCalls_agrees
    {recorded : Listener → Chronicle Event Listener Value Note Failure →
      Except (Stop Failure) Value × Chronicle Event Listener Value Note Failure}
    {call : Listener → Session Event Listener Note →
      Except (Stop Failure) Value × Session Event Listener Note}
    (agree : ∀ listener chronicle,
      forgetPast (recorded listener chronicle) = call listener chronicle.session)
    (number : Nat) (arguments : List Value) (listeners : List Listener)
    (chronicle : Chronicle Event Listener Value Note Failure) :
    forgetPast (recordCalls number arguments recorded listeners chronicle) =
      callAll call listeners chronicle.session := by
  induction listeners generalizing chronicle with
  | nil =>
      rfl
  | cons listener listeners inductionHypothesis =>
      have same := agree listener (chronicle.report (.called number listener arguments))
      rw [Chronicle.report_session] at same
      rw [recordCalls, callAll, ← same]
      rcases recorded listener (chronicle.report (.called number listener arguments)) with
        ⟨outcome, after⟩
      cases outcome with
      | error stop => cases stop <;> rfl
      | ok value =>
          have rest := inductionHypothesis (after.report (.answered number value))
          rw [Chronicle.report_session] at rest
          simp only [forgetPast]
          rw [← rest]
          rcases recordCalls number arguments recorded listeners
            (after.report (.answered number value)) with ⟨results, final⟩
          cases results <;> rfl

theorem recordEmission_agrees
    (behaviour : Listener → List Value → Script Event Listener Value Note Failure)
    (depth : Nat) (event : Event) (arguments : List Value)
    (chronicle : Chronicle Event Listener Value Note Failure) :
    forgetPast (recordEmission behaviour depth event arguments chronicle) =
      emission behaviour depth event arguments chronicle.session := by
  induction depth generalizing event arguments chronicle with
  | zero =>
      rfl
  | succ depth inductionHypothesis =>
      have calls := recordCalls_agrees
        (fun listener chronicle =>
          record_agrees inductionHypothesis (behaviour listener arguments) chronicle)
        chronicle.past.length arguments (chronicle.session.hooks.snapshot event)
        (chronicle.start event arguments)
      rw [recordEmission, emission]
      refine Eq.trans ?_ calls
      rcases recordCalls chronicle.past.length arguments _ _ _ with ⟨outcome, after⟩
      cases outcome <;> rfl

/-- A recorded run gives the answer of the run and ends in the same session. -/
theorem recordRun_agrees
    (behaviour : Listener → List Value → Script Event Listener Value Note Failure)
    (depth : Nat) (script : Script Event Listener Value Note Failure) (notes : List Note) :
    forgetPast (recordRun behaviour depth script notes) =
      run behaviour depth script { hooks := .empty, notes } :=
  record_agrees (recordEmission_agrees behaviour depth) script (.fresh notes)

end Agreement

end Script

end ApiDocs
