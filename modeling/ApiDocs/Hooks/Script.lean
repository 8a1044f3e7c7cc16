import ApiDocs.Hooks.Basic

/-!
Runs of listeners that use the registry they are called from.  What a listener does is a script:
a finite sequence of requests, each of which may depend on the answers so far and on everything
that has been noted, which is how listeners keep state.  An emission calls the listeners that were
registered when it began, whatever they register or remove meanwhile, and ends at the first one
that fails; whoever asked for it may go on after the failure.
-/

namespace ApiDocs

/-- What a listener, or the program around the registry, does step by step. -/
inductive Script (Event Listener Value Note Failure : Type) : Type where
  | finish (value : Value)
  | fail (failure : Failure)
  | note (entry : Note) (next : Script Event Listener Value Note Failure)
  | review (next : List Note → Script Event Listener Value Note Failure)
  | on (event : Event) (listener : Listener) (order : Int)
      (next : Script Event Listener Value Note Failure)
  | once (event : Event) (listener : Listener) (order : Int)
      (next : Script Event Listener Value Note Failure)
  | off (event : Event) (listener : Listener)
      (next : Script Event Listener Value Note Failure)
  | count (event : Event) (next : Nat → Script Event Listener Value Note Failure)
  /-- An emission; what follows depends on the results, or on the failure of a listener. -/
  | attempt (event : Event) (arguments : List Value)
      (next : Except Failure (List Value) → Script Event Listener Value Note Failure)

/-- Why a run ended early: a listener failed, or emissions were nested too deeply. -/
inductive Stop (Failure : Type) where
  | failure (failure : Failure)
  | tooDeep
deriving DecidableEq, Repr

/-- A registry in use, with the notes taken so far. -/
structure Session (Event Listener Note : Type) where
  hooks : Hooks Event Listener
  notes : List Note

namespace Script

variable {Event Listener Value Note Failure : Type}

/-- An emission whose failure is not handled. -/
def emit (event : Event) (arguments : List Value)
    (next : List Value → Script Event Listener Value Note Failure) :
    Script Event Listener Value Note Failure :=
  attempt event arguments fun
    | .ok values => next values
    | .error failure => fail failure

variable [DecidableEq Event] [DecidableEq Listener]

/-- Runs a script, given what an emission does. -/
def interpret
    (emission : Event → List Value → Session Event Listener Note →
      Except (Stop Failure) (List Value) × Session Event Listener Note) :
    Script Event Listener Value Note Failure → Session Event Listener Note →
      Except (Stop Failure) Value × Session Event Listener Note
  | finish value, session => (.ok value, session)
  | fail failure, session => (.error (.failure failure), session)
  | note entry next, session =>
    interpret emission next { session with notes := session.notes ++ [entry] }
  | review next, session => interpret emission (next session.notes) session
  | on event listener order next, session =>
    interpret emission next { session with hooks := session.hooks.on event listener order }
  | once event listener order next, session =>
    interpret emission next { session with hooks := session.hooks.once event listener order }
  | off event listener next, session =>
    interpret emission next { session with hooks := session.hooks.off event listener }
  | count event next, session =>
    interpret emission (next (session.hooks.count event)) session
  | attempt event arguments next, session =>
    match emission event arguments session with
    | (.ok values, session) => interpret emission (next (.ok values)) session
    | (.error (.failure failure), session) => interpret emission (next (.error failure)) session
    | (.error .tooDeep, session) => (.error .tooDeep, session)

/-- Calls listeners one after the other, up to the first one that fails. -/
def callAll
    (call : Listener → Session Event Listener Note →
      Except (Stop Failure) Value × Session Event Listener Note) :
    List Listener → Session Event Listener Note →
      Except (Stop Failure) (List Value) × Session Event Listener Note
  | [], session => (.ok [], session)
  | listener :: listeners, session =>
    match call listener session with
    | (.error stop, session) => (.error stop, session)
    | (.ok value, session) =>
      match callAll call listeners session with
      | (.error stop, session) => (.error stop, session)
      | (.ok values, session) => (.ok (value :: values), session)

/-- An emission whose listeners may emit in turn, `depth` levels deep at most.  What is
registered once is removed before the first listener runs. -/
def emission (behaviour : Listener → List Value → Script Event Listener Value Note Failure) :
    Nat → Event → List Value → Session Event Listener Note →
      Except (Stop Failure) (List Value) × Session Event Listener Note
  | 0, _, _, session => (.error .tooDeep, session)
  | depth + 1, event, arguments, session =>
    callAll (fun listener => interpret (emission behaviour depth) (behaviour listener arguments))
      (session.hooks.snapshot event)
      { session with hooks := session.hooks.dropOnce event }

/-- Runs a script from outside all emissions. -/
def run (behaviour : Listener → List Value → Script Event Listener Value Note Failure)
    (depth : Nat) (script : Script Event Listener Value Note Failure)
    (session : Session Event Listener Note) :
    Except (Stop Failure) Value × Session Event Listener Note :=
  interpret (emission behaviour depth) script session

end Script

end ApiDocs
