import ApiDocs.Proofs.Hooks.Chronicle

/-!
# The registry along a run

At every instant of a recorded run the stored sequence of every event is the live registrations
of that event, sorted into the order of dispatch.  Each change of a registry keeps this, and a
run consists of such changes.
-/

namespace ApiDocs

open Stamped

variable {Event Listener Value Note Failure : Type} [DecidableEq Event] [DecidableEq Listener]

/-! ## Changes of a registry -/

/-- Every stored sequence is the live registrations of its event, sorted. -/
def Hooks.Sorts (hooks : Hooks Event Listener)
    (history : List (Occurrence Event Listener Value Failure)) : Prop :=
  ∀ event,
    hooks.registrations event =
      (inDispatchOrder (live event history)).map Stamped.registration

namespace Hooks

variable {hooks : Hooks Event Listener}
  {history : List (Occurrence Event Listener Value Failure)}

theorem sorts_empty :
    (empty : Hooks Event Listener).Sorts
      ([] : List (Occurrence Event Listener Value Failure)) := by
  intro event
  simp [empty, inDispatchOrder]

theorem Sorts.update
    (sorted : hooks.Sorts history) {event : Event}
    {occurrence : Occurrence Event Listener Value Failure}
    (about : (∃ registration, occurrence = .registered event registration) ∨
      (∃ listener, occurrence = .withdrawn event listener) ∨
        ∃ arguments, occurrence = .emitted event arguments)
    {records : List (Registration Listener)}
    (stored : records =
      (inDispatchOrder (live event (history ++ [occurrence]))).map Stamped.registration) :
    (hooks.update event records).Sorts (history ++ [occurrence]) := by
  intro other
  by_cases same : other = event
  · subst same
    rw [registrations_update_self, stored]
  · rw [registrations_update_of_ne hooks records same, sorted other,
      live_append_of_ne (Ne.symm same) about]

theorem Sorts.register
    (sorted : hooks.Sorts history) (event : Event) (registration : Registration Listener) :
    (hooks.register event registration).Sorts
      (history ++ [.registered event registration]) := by
  apply sorted.update (Or.inl ⟨registration, rfl⟩)
  have latest : ∀ other ∈ live event history,
      other.time < (Stamped.mk history.length registration).time :=
    fun other member => time_lt_of_mem_live member
  rw [live_append_registered, inDispatchOrder_append_latest live_distinctTimes latest,
    sorted event]
  exact (map_insertByOrder Stamped.registration Registration.order
    ⟨history.length, registration⟩ (inDispatchOrder (live event history))).symm

theorem Sorts.off
    (sorted : hooks.Sorts history) (event : Event) (listener : Listener) :
    (hooks.off event listener).Sorts (history ++ [.withdrawn event listener]) := by
  apply sorted.update (Or.inr (Or.inl ⟨listener, rfl⟩))
  rw [live_append_withdrawn, ← eraseP_inDispatchOrder listener live_distinctTimes,
    sorted event, removeFirst]
  simp only [List.eraseP_map]
  rfl

theorem Sorts.dropOnce
    (sorted : hooks.Sorts history) (event : Event) (arguments : List Value) :
    (hooks.dropOnce event).Sorts (history ++ [.emitted event arguments]) := by
  apply sorted.update (Or.inr (Or.inr ⟨arguments, rfl⟩))
  rw [live_append_emitted, inDispatchOrder_filter live_distinctTimes, sorted event,
    List.filter_map]
  rfl

theorem Sorts.report
    (sorted : hooks.Sorts history) {occurrence : Occurrence Event Listener Value Failure}
    (report : occurrence.isReport = true) :
    hooks.Sorts (history ++ [occurrence]) := by
  intro event
  rw [live_append_report report, sorted event]

end Hooks

/-! ## What every run keeps -/

/-- A property of chronicles that everything a run does keeps. -/
structure Chronicle.Kept (holds : Chronicle Event Listener Value Note Failure → Prop) :
    Prop where
  write : ∀ chronicle entry, holds chronicle → holds (chronicle.write entry)
  register : ∀ chronicle event registration,
    holds chronicle → holds (chronicle.register event registration)
  withdraw : ∀ chronicle event listener,
    holds chronicle → holds (chronicle.withdraw event listener)
  start : ∀ chronicle event arguments,
    holds chronicle → holds (chronicle.start event arguments)
  report : ∀ chronicle occurrence, occurrence.isReport = true →
    holds chronicle → holds (chronicle.report occurrence)

namespace Script

variable {holds : Chronicle Event Listener Value Note Failure → Prop}

theorem record_kept
    (kept : Chronicle.Kept holds)
    {emission : Event → List Value → Chronicle Event Listener Value Note Failure →
      Except (Stop Failure) (List Value) × Chronicle Event Listener Value Note Failure}
    (emissionKept : ∀ event arguments chronicle,
      holds chronicle → holds (emission event arguments chronicle).2)
    (script : Script Event Listener Value Note Failure)
    {chronicle : Chronicle Event Listener Value Note Failure} (start : holds chronicle) :
    holds (record emission script chronicle).2 := by
  induction script generalizing chronicle with
  | finish value =>
      exact start
  | fail failure =>
      exact start
  | note entry next inductionHypothesis =>
      exact inductionHypothesis (kept.write chronicle entry start)
  | review next inductionHypothesis =>
      exact inductionHypothesis chronicle.session.notes start
  | on event listener order next inductionHypothesis =>
      exact inductionHypothesis (kept.register chronicle event _ start)
  | once event listener order next inductionHypothesis =>
      exact inductionHypothesis (kept.register chronicle event _ start)
  | off event listener next inductionHypothesis =>
      exact inductionHypothesis (kept.withdraw chronicle event listener start)
  | count event next inductionHypothesis =>
      exact inductionHypothesis (chronicle.session.hooks.count event) start
  | attempt event arguments next inductionHypothesis =>
      have afterEmission := emissionKept event arguments chronicle start
      rw [record]
      rcases result : emission event arguments chronicle with ⟨outcome, after⟩
      rw [result] at afterEmission
      cases outcome with
      | ok values => exact inductionHypothesis (.ok values) afterEmission
      | error stop =>
          cases stop with
          | failure failure => exact inductionHypothesis (.error failure) afterEmission
          | tooDeep => exact afterEmission

theorem recordCalls_kept
    (kept : Chronicle.Kept holds) (number : Nat) (arguments : List Value)
    {call : Listener → Chronicle Event Listener Value Note Failure →
      Except (Stop Failure) Value × Chronicle Event Listener Value Note Failure}
    (callKept : ∀ listener chronicle, holds chronicle → holds (call listener chronicle).2)
    (listeners : List Listener)
    {chronicle : Chronicle Event Listener Value Note Failure} (start : holds chronicle) :
    holds (recordCalls number arguments call listeners chronicle).2 := by
  induction listeners generalizing chronicle with
  | nil =>
      exact start
  | cons listener listeners inductionHypothesis =>
      have afterCall :=
        callKept listener _ (kept.report chronicle (.called number listener arguments) rfl start)
      rw [recordCalls]
      rcases result : call listener (chronicle.report (.called number listener arguments)) with
        ⟨outcome, after⟩
      rw [result] at afterCall
      cases outcome with
      | error stop =>
          cases stop with
          | failure failure => exact kept.report after (.raised number failure) rfl afterCall
          | tooDeep => exact afterCall
      | ok value =>
          have afterRest :=
            inductionHypothesis (kept.report after (.answered number value) rfl afterCall)
          simp only
          rcases rest : recordCalls number arguments call listeners
            (after.report (.answered number value)) with ⟨results, final⟩
          rw [rest] at afterRest
          cases results <;> exact afterRest

theorem recordEmission_kept
    (kept : Chronicle.Kept holds)
    (behaviour : Listener → List Value → Script Event Listener Value Note Failure)
    (depth : Nat) (event : Event) (arguments : List Value)
    {chronicle : Chronicle Event Listener Value Note Failure} (start : holds chronicle) :
    holds (recordEmission behaviour depth event arguments chronicle).2 := by
  induction depth generalizing event arguments chronicle with
  | zero =>
      exact start
  | succ depth inductionHypothesis =>
      have afterCalls := recordCalls_kept kept chronicle.past.length arguments
        (fun listener chronicle callStart =>
          record_kept kept
            (fun event arguments chronicle => inductionHypothesis event arguments)
            (behaviour listener arguments) callStart)
        (chronicle.session.hooks.snapshot event) (kept.start chronicle event arguments start)
      rw [recordEmission]
      rcases result : recordCalls chronicle.past.length arguments _ _ _ with ⟨outcome, after⟩
      rw [result] at afterCalls
      cases outcome with
      | error stop => exact afterCalls
      | ok values => exact kept.report after (.completed _ values) rfl afterCalls

theorem recordRun_kept
    (kept : Chronicle.Kept holds)
    (behaviour : Listener → List Value → Script Event Listener Value Note Failure)
    (depth : Nat) (script : Script Event Listener Value Note Failure) (notes : List Note)
    (start : holds (.fresh notes)) :
    holds (recordRun behaviour depth script notes).2 :=
  record_kept kept
    (fun event arguments _ => recordEmission_kept kept behaviour depth event arguments)
    script start

end Script

/-! ## The stored sequences -/

namespace Chronicle

/-- The registry is the one after the past, and at every instant of the past, as now, its stored
sequences were the live registrations, sorted. -/
structure Faithful (chronicle : Chronicle Event Listener Value Note Failure) : Prop where
  current : chronicle.session.hooks = registryAfter chronicle.past
  sorted : chronicle.session.hooks.Sorts chronicle.history
  instants : ∀ before instant after, chronicle.past = before ++ instant :: after →
    instant.hooks.Sorts (before.map Instant.occurrence ++ [instant.occurrence])

variable {chronicle : Chronicle Event Listener Value Note Failure}

theorem faithful_fresh (notes : List Note) :
    (fresh notes : Chronicle Event Listener Value Note Failure).Faithful where
  current := rfl
  sorted := Hooks.sorts_empty
  instants := by
    intro before instant after partition
    simp [fresh] at partition

omit [DecidableEq Event] [DecidableEq Listener] in
theorem history_add
    (occurrence : Occurrence Event Listener Value Failure) (hooks : Hooks Event Listener) :
    (chronicle.add occurrence hooks).history = chronicle.history ++ [occurrence] := by
  simp [history, add]

theorem Faithful.add
    (faithful : chronicle.Faithful) {occurrence : Occurrence Event Listener Value Failure}
    {hooks : Hooks Event Listener} (sorts : hooks.Sorts (chronicle.history ++ [occurrence])) :
    (chronicle.add occurrence hooks).Faithful where
  current := by
    simp [Chronicle.add, registryAfter]
  sorted := by
    rw [history_add]
    exact sorts
  instants := by
    intro before instant after partition
    rcases List.eq_nil_or_concat after with rfl | ⟨earlier, last, rfl⟩
    · have ends := List.append_inj' partition rfl
      have sameInstant := List.singleton_inj.mp ends.2
      subst sameInstant
      rw [← ends.1]
      exact sorts
    · apply faithful.instants before instant earlier
      rw [List.concat_eq_append, ← List.cons_append, ← List.append_assoc] at partition
      exact (List.append_inj' partition rfl).1

/-- At every point of the past the stored sequences were the live registrations, sorted. -/
theorem Faithful.sorts_take (faithful : chronicle.Faithful) (position : Nat) :
    (registryAfter (chronicle.past.take position)).Sorts (chronicle.history.take position) := by
  have partition := List.take_append_drop position chronicle.past
  rw [history, ← List.map_take]
  rcases List.eq_nil_or_concat (chronicle.past.take position) with
    empty | ⟨before, instant, concat⟩
  · rw [empty]
    exact Hooks.sorts_empty
  · rw [List.concat_eq_append] at concat
    rw [concat, List.append_assoc] at partition
    rw [concat, registryAfter, List.getLast?_concat, List.map_append]
    exact faithful.instants before instant _ partition.symm

theorem faithful_kept :
    Kept (Faithful : Chronicle Event Listener Value Note Failure → Prop) where
  write _ _ faithful := ⟨faithful.current, faithful.sorted, faithful.instants⟩
  register _ event registration faithful :=
    faithful.add (faithful.sorted.register event registration)
  withdraw _ event listener faithful := faithful.add (faithful.sorted.off event listener)
  start _ event arguments faithful := faithful.add (faithful.sorted.dropOnce event arguments)
  report _ _ report faithful := faithful.add (faithful.sorted.report report)

end Chronicle

/-- Along every run the stored sequences are the live registrations, sorted. -/
theorem Script.recordRun_faithful
    (behaviour : Listener → List Value → Script Event Listener Value Note Failure)
    (depth : Nat) (script : Script Event Listener Value Note Failure) (notes : List Note) :
    (recordRun behaviour depth script notes).2.Faithful :=
  recordRun_kept Chronicle.faithful_kept behaviour depth script notes
    (Chronicle.faithful_fresh notes)

end ApiDocs
