import ApiDocs.Proofs.Hooks.Dispatch

/-!
# Registrations made once

A registration made once is taken by the first emission of its event that begins after it, before
any listener of this emission runs.  So no other emission calls it, neither one that begins
during the first nor a later one, and what its listener registers meanwhile waits for the next
emission.
-/

namespace ApiDocs

open Stamped

/-! ## Calls of registrations -/

section Calls

variable {Event Listener Value Failure : Type}

/-- The calls among some reports, each with its listener and its arguments. -/
def callsAmong (reports : List (Occurrence Event Listener Value Failure)) :
    List (Listener × List Value) :=
  reports.filterMap fun
    | .called _ listener arguments => some (listener, arguments)
    | _ => none

/-- The calls that an emission makes, in their order. -/
def callsOf (number : Nat) (history : List (Occurrence Event Listener Value Failure)) :
    List (Listener × List Value) :=
  callsAmong (reportsOf number history)

/-- A listener that an emission calls before it reaches a place raises, so that the emission
stops there. -/
def StopsBefore (history : List (Occurrence Event Listener Value Failure))
    (number place : Nat) : Prop :=
  ∃ earlier < place,
    (callsOf number history).length = earlier + 1 ∧
      ∃ failure, .raised number failure ∈ history

/-- Calls are made from the first listener on.  If not all are made, the last one made fails or
is cut off. -/
theorem Calls.made
    {number : Nat} {arguments : List Value} {listeners : List Listener}
    {outcome : Except (Stop Failure) (List Value)}
    {reports : List (Occurrence Event Listener Value Failure)}
    (calls : Calls number arguments listeners outcome reports) :
    ∃ count,
      callsAmong reports = (listeners.take count).map (fun listener => (listener, arguments)) ∧
        (listeners.length ≤ count ∨
          0 < count ∧ (∃ failure, .raised number failure ∈ reports) ∨
          outcome = .error .tooDeep) := by
  induction calls with
  | nil =>
      exact ⟨0, rfl, Or.inl (Nat.le_refl 0)⟩
  | @returned listeners outcome reports listener value calls inductionHypothesis =>
      obtain ⟨count, made, ending⟩ := inductionHypothesis
      refine ⟨count + 1, ?_, ?_⟩
      · rw [List.take_succ_cons, List.map_cons, ← made]
        rfl
      · rcases ending with all | ⟨_, failure, member⟩ | cutOff
        · exact Or.inl (Nat.succ_le_succ all)
        · refine Or.inr (Or.inl ⟨Nat.succ_pos count, failure, ?_⟩)
          exact List.mem_cons_of_mem _ (List.mem_cons_of_mem _ member)
        · rw [cutOff]
          exact Or.inr (Or.inr rfl)
  | failed listener failure =>
      exact ⟨1, by simp [callsAmong], Or.inr (Or.inl ⟨Nat.one_pos, failure, by simp⟩)⟩
  | cutOff listener =>
      exact ⟨1, by simp [callsAmong], Or.inr (Or.inr rfl)⟩

theorem Conducted.made
    {number : Nat} {arguments : List Value} {listeners : List Listener}
    {outcome : Except (Stop Failure) (List Value)}
    {reports : List (Occurrence Event Listener Value Failure)}
    (conducted : Conducted number arguments listeners outcome reports) :
    ∃ count,
      callsAmong reports = (listeners.take count).map (fun listener => (listener, arguments)) ∧
        (listeners.length ≤ count ∨
          0 < count ∧ (∃ failure, .raised number failure ∈ reports) ∨
          outcome = .error .tooDeep) := by
  cases conducted with
  | returned calls =>
      obtain ⟨count, made, ending⟩ := calls.made
      refine ⟨count, ?_, ?_⟩
      · rw [← made]
        simp [callsAmong]
      · rcases ending with all | ⟨positive, failure, member⟩ | cutOff
        · exact Or.inl all
        · exact Or.inr (Or.inl ⟨positive, failure, List.mem_append_left _ member⟩)
        · cases cutOff
  | stopped calls =>
      exact calls.made

end Calls

variable {Event Listener Value Note Failure : Type} [DecidableEq Event] [DecidableEq Listener]

/-- An emission calls the listener of a registration: the registration has a place in the order
of dispatch when the emission begins, and the call at this place is made. -/
def Invokes (history : List (Occurrence Event Listener Value Failure)) (event : Event)
    (number place : Nat) (stamped : Stamped Listener) : Prop :=
  ∃ arguments,
    history[number]? = some (.emitted event arguments) ∧
      (inDispatchOrder (live event (history.take number)))[place]? = some stamped ∧
      (callsOf number history)[place]? = some (stamped.registration.listener, arguments)

section Histories

variable {history : List (Occurrence Event Listener Value Failure)} {event : Event}
  {number place : Nat} {stamped : Stamped Listener}

theorem Invokes.mem_live (invokes : Invokes history event number place stamped) :
    stamped ∈ live event (history.take number) := by
  obtain ⟨_, _, placed, _⟩ := invokes
  exact mem_inDispatchOrder.mp (List.mem_of_getElem? placed)

theorem not_mem_live_after_emission
    {arguments : List Value} (begins : history[number]? = some (.emitted event arguments))
    (once : stamped.registration.once = true) (earlier : stamped.time < number)
    {later : Nat} (after : number < later) :
    stamped ∉ live event (history.take later) := by
  apply not_mem_live_later (Nat.lt_succ_of_lt earlier) _ after
  intro member
  rw [((mem_live_emitted begins).mp member).2] at once
  cases once

theorem place_unique {otherPlace : Nat}
    (placed : (inDispatchOrder (live event (history.take number)))[place]? = some stamped)
    (placedAgain :
      (inDispatchOrder (live event (history.take number)))[otherPlace]? = some stamped) :
    place = otherPlace := by
  have nodup : (inDispatchOrder (live event (history.take number))).Nodup :=
    (inDispatchOrder_perm _).nodup_iff.mpr live_nodup
  have bound := (List.getElem?_eq_some_iff.mp placed).1
  exact (List.getElem?_inj bound nodup).mp (placed.trans placedAgain.symm)

/-- A registration made once is called by the first emission of its event after it only. -/
theorem Invokes.eq_first
    (once : stamped.registration.once = true) {arguments : List Value} {first : Nat}
    (order : stamped.time < first) (begins : history[first]? = some (.emitted event arguments))
    (quiet : Quiet event history stamped.time first)
    (invokes : Invokes history event number place stamped) :
    number = first := by
  have earlier : stamped.time < number :=
    (time_lt_of_mem_live invokes.mem_live).trans_le (List.length_take_le number history)
  rcases Nat.lt_trichotomy number first with before | same | after
  · obtain ⟨otherArguments, otherBegins, _⟩ := invokes
    exact absurd otherBegins (quiet number earlier before otherArguments)
  · exact same
  · exact absurd invokes.mem_live (not_mem_live_after_emission begins once order after)

theorem Invokes.unique
    {otherNumber otherPlace : Nat} (once : stamped.registration.once = true)
    (invokes : Invokes history event number place stamped)
    (again : Invokes history event otherNumber otherPlace stamped) :
    number = otherNumber ∧ place = otherPlace := by
  have never : ∀ {first second firstPlace secondPlace : Nat},
      Invokes history event first firstPlace stamped →
      Invokes history event second secondPlace stamped → ¬ first < second := by
    intro first second firstPlace secondPlace early late order
    have earlier : stamped.time < first :=
      (time_lt_of_mem_live early.mem_live).trans_le (List.length_take_le first history)
    obtain ⟨arguments, begins, _⟩ := early
    exact not_mem_live_after_emission begins once earlier order late.mem_live
  have same : number = otherNumber :=
    Nat.le_antisymm (Nat.le_of_not_lt (never again invokes))
      (Nat.le_of_not_lt (never invokes again))
  subst same
  obtain ⟨_, _, placed, _⟩ := invokes
  obtain ⟨_, _, placedAgain, _⟩ := again
  exact ⟨rfl, place_unique placed placedAgain⟩

/-- An emission that begins with a registration live calls it at its place, unless it is stopped
before. -/
theorem invokes_or_stopped
    {arguments : List Value} (begins : history[number]? = some (.emitted event arguments))
    {outcome : Except (Stop Failure) (List Value)}
    (conducted : Conducted number arguments
      ((inDispatchOrder (live event (history.take number))).map fun stamped =>
        stamped.registration.listener) outcome (reportsOf number history))
    (alive : stamped ∈ live event (history.take number)) :
    ∃ place,
      (inDispatchOrder (live event (history.take number)))[place]? = some stamped ∧
        (Invokes history event number place stamped ∨
          (StopsBefore history number place ∨ outcome = .error .tooDeep) ∧
            (callsOf number history)[place]? = none) := by
  obtain ⟨place, bound, placed⟩ := List.getElem_of_mem (mem_inDispatchOrder.mpr alive)
  have placed : (inDispatchOrder (live event (history.take number)))[place]? = some stamped :=
    List.getElem?_eq_some_iff.mpr ⟨bound, placed⟩
  refine ⟨place, placed, ?_⟩
  obtain ⟨count, made, ending⟩ := conducted.made
  rw [← callsOf] at made
  by_cases called : place < count
  · left
    refine ⟨arguments, begins, placed, ?_⟩
    rw [made]
    simp [called, placed]
  · right
    have notCalled : (callsOf number history)[place]? = none := by
      rw [made]
      simp [called]
    refine ⟨?_, notCalled⟩
    rcases ending with all | ⟨positive, failure, member⟩ | cutOff
    · rw [List.length_map] at all
      omega
    · left
      refine ⟨count - 1, by omega, ?_, failure, List.mem_of_mem_filter member⟩
      have enough : count ≤ (inDispatchOrder (live event (history.take number))).length := by
        omega
      rw [made, List.length_map, List.length_take, List.length_map]
      omega
    · exact Or.inr cutOff

/-- Whether a listener is registered once for an event. -/
def registersOnce (event : Event) (listener : Listener) :
    Occurrence Event Listener Value Failure → Bool
  | .registered other registration =>
      other = event && registration.once && registration.listener = listener
  | _ => false

/-- From an emission to the next one of its event, what is live of a listener's registrations made
once is what has been registered meanwhile, if nothing is withdrawn. -/
theorem countP_live_once
    {arguments : List Value} (begins : history[number]? = some (.emitted event arguments))
    (listener : Listener) {later : Nat} (after : number < later)
    (quiet : Quiet event history number later)
    (kept : ∀ between, number < between → between < later →
      history[between]? ≠ some (.withdrawn event listener)) :
    (live event (history.take later)).countP (fun stamped =>
        stamped.registration.once && stamped.registration.listener = listener) =
      ((history.take later).drop number).countP (registersOnce event listener) := by
  induction later, after using Nat.le_induction with
  | base =>
      have bound := (List.getElem?_eq_some_iff.mp begins).1
      have onlyEmission : (history.take (number + 1)).drop number = [.emitted event arguments] := by
        rw [List.take_add_one, begins, Option.toList_some]
        exact List.drop_left' (List.length_take_of_le (Nat.le_of_lt bound))
      rw [onlyEmission]
      apply List.countP_eq_zero.mpr
      intro stamped member
      simp [((mem_live_emitted begins).mp member).2]
  | succ later after inductionHypothesis =>
      have before := inductionHypothesis quiet.of_succ
        (fun between after before => kept between after (Nat.lt_succ_of_lt before))
      cases happens : history[later]? with
      | none =>
          rw [List.take_add_one, happens, Option.toList_none, List.append_nil]
          exact before
      | some occurrence =>
          have bound := (List.getElem?_eq_some_iff.mp happens).1
          have reaches : number ≤ (history.take later).length := by
            rw [List.length_take_of_le (Nat.le_of_lt bound)]
            exact Nat.le_of_lt after
          rw [live_take_succ happens, List.take_add_one, happens, Option.toList_some,
            List.drop_append_of_le_length reaches, List.countP_append, ← before,
            List.countP_singleton]
          cases occurrence with
          | registered other registration =>
              by_cases same : other = event
              · simp [Occurrence.advance, registersOnce, same, List.countP_singleton]
              · simp [Occurrence.advance, registersOnce, same]
          | withdrawn other withdrawnListener =>
              by_cases same : other = event
              · have different : withdrawnListener ≠ listener := by
                  rintro rfl
                  rw [same] at happens
                  exact kept later after (Nat.lt_succ_self later) happens
                simp only [Occurrence.advance, if_pos same, registersOnce, List.countP_filter]
                apply List.countP_congr
                intro stamped _
                -- the foremost registration of another listener does not count
                have others : stamped.registration.listener = listener →
                    ¬ stamped.Foremost withdrawnListener (live event (history.take later)) :=
                  fun same foremost => different (foremost.1.symm.trans same)
                simp only [Bool.and_eq_true, decide_eq_true_eq, Bool.not_eq_true',
                  decide_eq_false_iff_not]
                exact ⟨fun counts => counts.1, fun counts => ⟨counts, others counts.2⟩⟩
              · simp [Occurrence.advance, registersOnce, same]
          | emitted other otherArguments =>
              by_cases same : other = event
              · rw [same] at happens
                exact absurd happens (quiet later after (Nat.lt_succ_self later) otherArguments)
              · simp [Occurrence.advance, registersOnce, same]
          | called | answered | raised | completed =>
              simp [Occurrence.advance, registersOnce]

end Histories

/-! ## Runs -/

namespace Script

theorem conducted_of_emitted
    (behaviour : Listener → List Value → Script Event Listener Value Note Failure)
    (depth : Nat) (script : Script Event Listener Value Note Failure) (notes : List Note)
    {event : Event} {number : Nat} {arguments : List Value}
    (begins : (recordRun behaviour depth script notes).2.history[number]? =
      some (.emitted event arguments)) :
    ∃ result,
      Conducted number arguments
          ((inDispatchOrder
              (live event ((recordRun behaviour depth script notes).2.history.take number))).map
            fun stamped => stamped.registration.listener)
          result (reportsOf number (recordRun behaviour depth script notes).2.history) ∧
        (result = .error .tooDeep →
          (recordRun behaviour depth script notes).1 = .error .tooDeep) := by
  have sorts := (recordRun_faithful behaviour depth script notes).sorts_take
  obtain ⟨bound, begins⟩ := List.getElem?_eq_some_iff.mp begins
  have pastBound : number < (recordRun behaviour depth script notes).2.past.length := by
    simpa [Chronicle.history] using bound
  have happens : (recordRun behaviour depth script notes).2.past[number].occurrence =
      .emitted event arguments := by
    simpa [Chronicle.history] using begins
  have partition : (recordRun behaviour depth script notes).2.past =
      (recordRun behaviour depth script notes).2.past.take number ++
        ⟨.emitted event arguments, (recordRun behaviour depth script notes).2.past[number].hooks⟩ ::
          (recordRun behaviour depth script notes).2.past.drop (number + 1) := by
    rw [← happens, ← List.drop_eq_getElem_cons pastBound, List.take_append_drop]
  have conducted := recordRun_conducted behaviour depth script notes partition
  rw [List.length_take_of_le (Nat.le_of_lt pastBound), Hooks.snapshot, sorts, List.map_map]
    at conducted
  exact conducted

/-- In every run a registration made once is called at most once.  The first emission of its event
that begins after it calls it exactly once, unless it has been removed or an earlier listener of
this emission raises; then nothing ever calls it.  From the beginning of this emission on it is
not stored.  What a listener registers once during an emission is stored for the next one, as
often as it was registered. -/
theorem once_registration_invoked_once
    (behaviour : Listener → List Value → Script Event Listener Value Note Failure)
    (depth : Nat) (script : Script Event Listener Value Note Failure) (notes : List Note) :
    let outcome := recordRun behaviour depth script notes
    let history := outcome.2.history
    -- the recorded run is the run
    forgetPast outcome = run behaviour depth script { hooks := .empty, notes } ∧
      -- at every point the live registrations are stored, sorted
      (∀ position event,
        (registryAfter (outcome.2.past.take position)).registrations event =
          (inDispatchOrder (live event (history.take position))).map Stamped.registration) ∧
      -- an emission calls what is stored when it begins, from the first place on
      (∀ event number arguments, history[number]? = some (.emitted event arguments) →
        callsOf number history <+:
          (inDispatchOrder (live event (history.take number))).map fun stamped =>
            (stamped.registration.listener, arguments)) ∧
      (∀ event time registration, history[time]? = some (.registered event registration) →
        registration.once = true →
          -- at most one call in the whole run
          (∀ number place otherNumber otherPlace,
            Invokes history event number place ⟨time, registration⟩ →
            Invokes history event otherNumber otherPlace ⟨time, registration⟩ →
              number = otherNumber ∧ place = otherPlace) ∧
          -- the first emission after the registration
          ∀ number arguments, time < number →
            history[number]? = some (.emitted event arguments) →
            Quiet event history time number →
              ((∃ place, ∀ otherNumber otherPlace,
                  Invokes history event otherNumber otherPlace ⟨time, registration⟩ ↔
                    otherNumber = number ∧ otherPlace = place) ∨
                (∀ otherNumber otherPlace,
                  ¬ Invokes history event otherNumber otherPlace ⟨time, registration⟩) ∧
                ((∃ between, time < between ∧ between < number ∧
                    history[between]? = some (.withdrawn event registration.listener) ∧
                    ⟨time, registration⟩ ∈ live event (history.take between) ∧
                    ⟨time, registration⟩ ∉ live event (history.take (between + 1))) ∨
                  ∃ place,
                    (inDispatchOrder (live event (history.take number)))[place]? =
                        some ⟨time, registration⟩ ∧
                      (StopsBefore history number place ∨ outcome.1 = .error .tooDeep))) ∧
              -- it is not stored any more
              ∀ later, number < later →
                ⟨time, registration⟩ ∉ live event (history.take later)) ∧
      -- what is registered during an emission is stored for the next
      ∀ event number arguments, history[number]? = some (.emitted event arguments) →
        ∀ listener later, number < later → Quiet event history number later →
          (∀ between, number < between → between < later →
            history[between]? ≠ some (.withdrawn event listener)) →
          ((registryAfter (outcome.2.past.take later)).registrations event).countP
              (fun registration => registration.once && registration.listener = listener) =
            ((history.take later).drop number).countP (registersOnce event listener) := by
  intro outcome history
  have faithful : outcome.2.Faithful := recordRun_faithful behaviour depth script notes
  have stored : ∀ position event,
      (registryAfter (outcome.2.past.take position)).registrations event =
        (inDispatchOrder (live event (history.take position))).map Stamped.registration :=
    faithful.sorts_take
  refine ⟨recordRun_agrees behaviour depth script notes, stored, ?_, ?_, ?_⟩
  · intro event number arguments begins
    obtain ⟨result, conducted, _⟩ := conducted_of_emitted behaviour depth script notes begins
    obtain ⟨count, made, _⟩ := conducted.made
    rw [callsOf, made, List.map_take, List.map_map]
    exact List.take_prefix count _
  · intro event time registration registered once
    refine ⟨fun number place otherNumber otherPlace => Invokes.unique once, ?_⟩
    intro number arguments order begins quiet
    refine ⟨?_, fun later => not_mem_live_after_emission begins once order⟩
    have onlyFirst : ∀ otherNumber otherPlace,
        Invokes history event otherNumber otherPlace ⟨time, registration⟩ →
          otherNumber = number :=
      fun _ _ => Invokes.eq_first once order begins quiet
    rcases mem_live_or_withdrawn registered order quiet with
      alive | ⟨between, after, before, happens, alive, gone⟩
    · obtain ⟨result, conducted, isCut⟩ := conducted_of_emitted behaviour depth script notes begins
      obtain ⟨place, placed, invokes | ⟨stopped, notCalled⟩⟩ :=
        invokes_or_stopped begins conducted alive
      · left
        refine ⟨place, fun otherNumber otherPlace => ⟨fun again => again.unique once invokes, ?_⟩⟩
        rintro ⟨rfl, rfl⟩
        exact invokes
      · right
        refine ⟨?_, Or.inr ⟨place, placed, stopped.imp_right isCut⟩⟩
        intro otherNumber otherPlace invokes
        obtain rfl := onlyFirst otherNumber otherPlace invokes
        obtain ⟨_, _, placedAgain, called⟩ := invokes
        rw [place_unique placedAgain placed, notCalled] at called
        cases called
    · right
      refine ⟨?_, Or.inl ⟨between, after, before, happens, alive, gone⟩⟩
      intro otherNumber otherPlace invokes
      obtain rfl := onlyFirst otherNumber otherPlace invokes
      exact not_mem_live_later (Nat.lt_succ_of_lt after) gone before invokes.mem_live
  · intro event number arguments begins listener later after quiet kept
    rw [stored, List.countP_map, (inDispatchOrder_perm _).countP_eq]
    exact countP_live_once begins listener after quiet kept

end Script

end ApiDocs
