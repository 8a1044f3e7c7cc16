import ApiDocs.Proofs.Hooks.Registry

/-!
# What an emission does

An emission calls the listeners that are stored for its event when it begins, in their order and
with its arguments, up to the first one that fails, and returns what they returned.  Listeners
that register, remove and emit meanwhile add to the history between these calls, but whatever
they add belongs to emissions that began later.
-/

namespace ApiDocs

open Stamped

section Reports

variable {Event Listener Value Failure : Type}

/-- What a history says of one emission after it has begun. -/
def reportsOf (number : Nat) (history : List (Occurrence Event Listener Value Failure)) :
    List (Occurrence Event Listener Value Failure) :=
  history.filter fun occurrence => occurrence.emission? == some number

@[simp]
theorem reportsOf_append
    (number : Nat) (first second : List (Occurrence Event Listener Value Failure)) :
    reportsOf number (first ++ second) = reportsOf number first ++ reportsOf number second :=
  List.filter_append first second

theorem reportsOf_eq_nil
    {number : Nat} {history : List (Occurrence Event Listener Value Failure)}
    (foreign : ∀ occurrence ∈ history, ∀ emission,
      occurrence.emission? = some emission → emission ≠ number) :
    reportsOf number history = [] := by
  apply List.filter_eq_nil_iff.mpr
  intro occurrence member same
  exact foreign occurrence member number (beq_iff_eq.mp same) rfl

/-- Listeners are called one after the other, each with the same arguments, up to the first one
that does not return: the reports of this and what comes of it. -/
inductive Calls (number : Nat) (arguments : List Value) :
    List Listener → Except (Stop Failure) (List Value) →
      List (Occurrence Event Listener Value Failure) → Prop
  | nil : Calls number arguments [] (.ok []) []
  | returned {listeners outcome reports} (listener : Listener) (value : Value) :
      Calls number arguments listeners outcome reports →
      Calls number arguments (listener :: listeners) (outcome.map fun values => value :: values)
        (.called number listener arguments :: .answered number value :: reports)
  | failed {listeners} (listener : Listener) (failure : Failure) :
      Calls number arguments (listener :: listeners) (.error (.failure failure))
        [.called number listener arguments, .raised number failure]
  | cutOff {listeners} (listener : Listener) :
      Calls number arguments (listener :: listeners) (.error .tooDeep)
        [.called number listener arguments]

/-- The reports of a whole emission: those of its calls, and its own return. -/
inductive Conducted (number : Nat) (arguments : List Value) (listeners : List Listener) :
    Except (Stop Failure) (List Value) →
      List (Occurrence Event Listener Value Failure) → Prop
  | returned {values reports} :
      Calls number arguments listeners (.ok values) reports →
      Conducted number arguments listeners (.ok values) (reports ++ [.completed number values])
  | stopped {stop reports} :
      Calls number arguments listeners (.error stop) reports →
      Conducted number arguments listeners (.error stop) reports

end Reports

/-! ## Parts of a past -/

section Segments

variable {Event Listener Value Failure : Type} [DecidableEq Event]

/-- A part of a past, after the part before it.  Its reports belong to emissions that began in
it, or to outer ones; every emission that began in it calls the listeners stored at that instant,
and is cut off only if the whole run is. -/
structure Segment (start : List (Instant Event Listener Value Failure)) (outer : Nat → Prop)
    (cut : Prop) (added : List (Instant Event Listener Value Failure)) : Prop where
  numbered : ∀ before instant after, added = before ++ instant :: after → ∀ number,
    instant.occurrence.emission? = some number →
      outer number ∨ start.length ≤ number ∧ number < start.length + before.length
  conducted : ∀ before event arguments hooks after,
    added = before ++ ⟨.emitted event arguments, hooks⟩ :: after →
      ∃ outcome,
        Conducted (start.length + before.length) arguments
            ((registryAfter (start ++ before)).snapshot event) outcome
            (reportsOf (start.length + before.length) (after.map Instant.occurrence)) ∧
          (outcome = .error .tooDeep → cut)

namespace Segment

variable {start : List (Instant Event Listener Value Failure)} {outer : Nat → Prop} {cut : Prop}
  {first second added : List (Instant Event Listener Value Failure)}

omit [DecidableEq Event] in
theorem nil : Segment start outer cut [] where
  numbered := by
    intro before instant after partition
    simp at partition
  conducted := by
    intro before event arguments hooks after partition
    simp at partition

omit [DecidableEq Event] in
/-- A single report of an outer emission. -/
theorem report
    {instant : Instant Event Listener Value Failure} {number : Nat}
    (emission : instant.occurrence.emission? = some number) (isOuter : outer number) :
    Segment start outer cut [instant] where
  numbered := by
    intro before other after partition emissionOf same
    have member : other ∈ [instant] := by
      rw [partition]
      simp
    rw [List.mem_singleton.mp member, emission] at same
    cases same
    exact Or.inl isOuter
  conducted := by
    intro before event arguments hooks after partition
    have member : (⟨.emitted event arguments, hooks⟩ :
        Instant Event Listener Value Failure) ∈ [instant] := by
      rw [partition]
      simp
    rw [← List.mem_singleton.mp member] at emission
    simp [Occurrence.emission?] at emission

omit [DecidableEq Event] in
theorem change
    {instant : Instant Event Listener Value Failure}
    (noReport : instant.occurrence.emission? = none)
    (noEmission : ∀ event arguments, instant.occurrence ≠ .emitted event arguments) :
    Segment start outer cut [instant] where
  numbered := by
    intro before other after partition emission same
    have member : other ∈ [instant] := by
      rw [partition]
      simp
    rw [List.mem_singleton.mp member, noReport] at same
    cases same
  conducted := by
    intro before event arguments hooks after partition
    have member : (⟨.emitted event arguments, hooks⟩ :
        Instant Event Listener Value Failure) ∈ [instant] := by
      rw [partition]
      simp
    rw [← List.mem_singleton.mp member] at noEmission
    exact absurd rfl (noEmission event arguments)

omit [DecidableEq Event] in
theorem weaken
    {wider : Nat → Prop} {cutLater : Prop}
    (segment : Segment start outer cut added)
    (outerSubset : ∀ number, outer number → wider number) (cutKept : cut → cutLater) :
    Segment start wider cutLater added where
  numbered := by
    intro before instant after partition number same
    exact (segment.numbered before instant after partition number same).imp_left
      (outerSubset number)
  conducted := by
    intro before event arguments hooks after partition
    obtain ⟨outcome, conducted, isCut⟩ :=
      segment.conducted before event arguments hooks after partition
    exact ⟨outcome, conducted, fun deep => cutKept (isCut deep)⟩

omit [DecidableEq Event] in
theorem foreign
    (segment : Segment start outer cut added)
    {number : Nat} (notOuter : ¬ outer number) (earlier : number < start.length) :
    reportsOf number (added.map Instant.occurrence) = [] := by
  apply reportsOf_eq_nil
  rintro occurrence member emission same rfl
  obtain ⟨instant, instantMember, rfl⟩ := List.mem_map.mp member
  obtain ⟨before, after, partition⟩ := List.append_of_mem instantMember
  rcases segment.numbered before instant after partition emission same with isOuter | bound
  · exact notOuter isOuter
  · omega

omit [DecidableEq Event] in
/-- An emission that began in the first part has no reports in the second one. -/
theorem append
    (outerEarlier : ∀ number, outer number → number < start.length)
    (segmentFirst : Segment start outer cut first)
    (segmentSecond : Segment (start ++ first) outer cut second) :
    Segment start outer cut (first ++ second) where
  numbered := by
    intro before instant after partition number same
    rcases List.append_eq_append_iff.mp partition with
      ⟨middle, beforeEq, secondEq⟩ | ⟨middle, firstEq, afterEq⟩
    · refine (segmentSecond.numbered middle instant after secondEq number same).imp_right ?_
      intro bound
      rw [beforeEq]
      rw [List.length_append] at bound ⊢
      omega
    · cases middle with
      | nil =>
          rw [List.append_nil] at firstEq
          refine (segmentSecond.numbered [] instant after afterEq.symm number same).imp_right ?_
          intro bound
          rw [List.length_append, firstEq, List.length_nil] at bound
          omega
      | cons head middle =>
          rw [List.cons_append, List.cons.injEq] at afterEq
          obtain ⟨rfl, _⟩ := afterEq
          exact segmentFirst.numbered before instant middle firstEq number same
  conducted := by
    intro before event arguments hooks after partition
    rcases List.append_eq_append_iff.mp partition with
      ⟨middle, beforeEq, secondEq⟩ | ⟨middle, firstEq, afterEq⟩
    · obtain ⟨outcome, conducted, isCut⟩ :=
        segmentSecond.conducted middle event arguments hooks after secondEq
      rw [List.length_append, List.append_assoc, ← beforeEq, Nat.add_assoc,
        ← List.length_append, ← beforeEq] at conducted
      exact ⟨outcome, conducted, isCut⟩
    · cases middle with
      | nil =>
          rw [List.nil_append] at afterEq
          rw [List.append_nil] at firstEq
          obtain ⟨outcome, conducted, isCut⟩ :=
            segmentSecond.conducted [] event arguments hooks after afterEq.symm
          rw [List.append_nil, List.length_append, List.length_nil, Nat.add_zero,
            firstEq] at conducted
          exact ⟨outcome, conducted, isCut⟩
      | cons emission middle =>
          rw [List.cons_append, List.cons.injEq] at afterEq
          obtain ⟨emissionEq, afterEq⟩ := afterEq
          subst emissionEq
          obtain ⟨outcome, conducted, isCut⟩ :=
            segmentFirst.conducted before event arguments hooks middle firstEq
          have length := congrArg List.length firstEq
          simp only [List.length_append, List.length_cons] at length
          have later :
              reportsOf (start.length + before.length) (second.map Instant.occurrence) = [] := by
            apply segmentSecond.foreign
            · intro isOuter
              have earlier := outerEarlier _ isOuter
              omega
            · rw [List.length_append]
              omega
          rw [afterEq, List.map_append, reportsOf_append, later, List.append_nil]
          exact ⟨outcome, conducted, isCut⟩

omit [DecidableEq Event] in
/-- An emission with everything that happens until it ends. -/
theorem emission
    {event : Event} {arguments : List Value} {hooks : Hooks Event Listener}
    {outcome : Except (Stop Failure) (List Value)}
    (segment : Segment (start ++ [⟨.emitted event arguments, hooks⟩])
      (fun number => number = start.length) cut added)
    (conducted : Conducted start.length arguments ((registryAfter start).snapshot event) outcome
      (reportsOf start.length (added.map Instant.occurrence)))
    (isCut : outcome = .error .tooDeep → cut) :
    Segment start (fun _ => False) cut (⟨.emitted event arguments, hooks⟩ :: added) where
  numbered := by
    intro before instant after partition number same
    cases before with
    | nil =>
        rw [List.nil_append, List.cons.injEq] at partition
        rw [← partition.1] at same
        simp [Occurrence.emission?] at same
    | cons head before =>
        rw [List.cons_append, List.cons.injEq] at partition
        rw [List.length_cons]
        rcases segment.numbered before instant after partition.2 number same with rfl | bound
        · exact Or.inr (by omega)
        · rw [List.length_append, List.length_singleton] at bound
          exact Or.inr (by omega)
  conducted := by
    intro before other otherArguments otherHooks after partition
    cases before with
    | nil =>
        rw [List.nil_append, List.cons.injEq, Instant.mk.injEq, Occurrence.emitted.injEq]
          at partition
        obtain ⟨⟨⟨rfl, rfl⟩, rfl⟩, rfl⟩ := partition
        exact ⟨outcome, by simpa using conducted, isCut⟩
    | cons head before =>
        rw [List.cons_append, List.cons.injEq] at partition
        obtain ⟨rfl, partition⟩ := partition
        obtain ⟨inner, innerConducted, innerCut⟩ :=
          segment.conducted before other otherArguments otherHooks after partition
        have length : (start ++ [⟨.emitted event arguments, hooks⟩] :
            List (Instant Event Listener Value Failure)).length + before.length =
              start.length + (before.length + 1) := by
          simp only [List.length_append, List.length_cons, List.length_nil]
          omega
        rw [length, List.append_assoc] at innerConducted
        exact ⟨inner, innerConducted, innerCut⟩

end Segment

end Segments

/-! ## Runs add segments -/

namespace Script

variable {Event Listener Value Note Failure : Type} [DecidableEq Event] [DecidableEq Listener]

/-- What a step adds to the past is a segment; emissions in it are cut off only if the step is. -/
def Adds {Answer : Type} (chronicle : Chronicle Event Listener Value Note Failure)
    (outcome : Except (Stop Failure) Answer × Chronicle Event Listener Value Note Failure) :
    Prop :=
  ∃ added,
    outcome.2.past = chronicle.past ++ added ∧
      Segment chronicle.past (fun _ => False) (outcome.1 = .error .tooDeep) added

omit [DecidableEq Event] [DecidableEq Listener] in
theorem adds_nothing {Answer : Type}
    (chronicle : Chronicle Event Listener Value Note Failure)
    (outcome : Except (Stop Failure) Answer) :
    Adds chronicle (outcome, chronicle) :=
  ⟨[], by simp, Segment.nil⟩

omit [DecidableEq Event] [DecidableEq Listener] in
theorem Adds.trans {Answer Other : Type}
    {chronicle middle : Chronicle Event Listener Value Note Failure}
    {first : Except (Stop Failure) Other}
    {outcome : Except (Stop Failure) Answer × Chronicle Event Listener Value Note Failure}
    (addsFirst : Adds chronicle (first, middle))
    (cutKept : first = .error .tooDeep → outcome.1 = .error .tooDeep)
    (addsSecond : Adds middle outcome) :
    Adds chronicle outcome := by
  obtain ⟨early, earlyPast, earlySegment⟩ := addsFirst
  obtain ⟨late, latePast, lateSegment⟩ := addsSecond
  simp only at earlyPast
  refine ⟨early ++ late, by rw [latePast, earlyPast, List.append_assoc], ?_⟩
  apply Segment.append (fun _ impossible => impossible.elim)
  · exact earlySegment.weaken (fun _ impossible => impossible) cutKept
  · rw [← earlyPast]
    exact lateSegment

omit [DecidableEq Event] [DecidableEq Listener] in
theorem adds_change {Answer : Type}
    (chronicle : Chronicle Event Listener Value Note Failure)
    {occurrence : Occurrence Event Listener Value Failure} (hooks : Hooks Event Listener)
    (outcome : Except (Stop Failure) Answer)
    (noReport : occurrence.emission? = none)
    (noEmission : ∀ event arguments, occurrence ≠ .emitted event arguments) :
    Adds chronicle (outcome, chronicle.add occurrence hooks) :=
  ⟨[⟨occurrence, hooks⟩], rfl, Segment.change noReport noEmission⟩

theorem record_adds
    {emission : Event → List Value → Chronicle Event Listener Value Note Failure →
      Except (Stop Failure) (List Value) × Chronicle Event Listener Value Note Failure}
    (emissionFaithful : ∀ event arguments chronicle,
      chronicle.Faithful → (emission event arguments chronicle).2.Faithful)
    (emissionAdds : ∀ event arguments chronicle,
      chronicle.Faithful → Adds chronicle (emission event arguments chronicle))
    (script : Script Event Listener Value Note Failure)
    {chronicle : Chronicle Event Listener Value Note Failure} (faithful : chronicle.Faithful) :
    Adds chronicle (record emission script chronicle) := by
  have kept : Chronicle.Kept
      (Chronicle.Faithful : Chronicle Event Listener Value Note Failure → Prop) :=
    Chronicle.faithful_kept
  induction script generalizing chronicle with
  | finish value =>
      exact adds_nothing chronicle (.ok value)
  | fail failure =>
      exact adds_nothing chronicle (.error (.failure failure))
  | note entry next inductionHypothesis =>
      exact inductionHypothesis (kept.write chronicle entry faithful)
  | review next inductionHypothesis =>
      exact inductionHypothesis chronicle.session.notes faithful
  | on event listener order next inductionHypothesis =>
      exact (adds_change chronicle _ (.ok ()) rfl (by simp)).trans (by simp)
        (inductionHypothesis (kept.register chronicle event _ faithful))
  | once event listener order next inductionHypothesis =>
      exact (adds_change chronicle _ (.ok ()) rfl (by simp)).trans (by simp)
        (inductionHypothesis (kept.register chronicle event _ faithful))
  | off event listener next inductionHypothesis =>
      exact (adds_change chronicle _ (.ok ()) rfl (by simp)).trans (by simp)
        (inductionHypothesis (kept.withdraw chronicle event listener faithful))
  | count event next inductionHypothesis =>
      exact inductionHypothesis (chronicle.session.hooks.count event) faithful
  | attempt event arguments next inductionHypothesis =>
      have adds := emissionAdds event arguments chronicle faithful
      have afterFaithful := emissionFaithful event arguments chronicle faithful
      rw [record]
      rcases result : emission event arguments chronicle with ⟨outcome, after⟩
      rw [result] at adds afterFaithful
      cases outcome with
      | ok values =>
          exact adds.trans (by simp) (inductionHypothesis (.ok values) afterFaithful)
      | error stop =>
          cases stop with
          | failure failure =>
              exact adds.trans (by simp) (inductionHypothesis (.error failure) afterFaithful)
          | tooDeep => exact adds.trans (fun _ => rfl) (adds_nothing after (.error .tooDeep))

/-- What a step of an emission adds to the past is a segment, in which the emission itself makes
the given reports. -/
def Reports (number : Nat) (cut : Prop)
    (reports : List (Occurrence Event Listener Value Failure))
    (chronicle after : Chronicle Event Listener Value Note Failure) : Prop :=
  ∃ added,
    after.past = chronicle.past ++ added ∧
      Segment chronicle.past (fun emission => emission = number) cut added ∧
      reportsOf number (added.map Instant.occurrence) = reports

omit [DecidableEq Event] [DecidableEq Listener] in
theorem reports_nothing {number : Nat} {cut : Prop}
    (chronicle : Chronicle Event Listener Value Note Failure) :
    Reports number cut [] chronicle chronicle :=
  ⟨[], by simp, Segment.nil, rfl⟩

omit [DecidableEq Event] [DecidableEq Listener] in
theorem reports_report {number : Nat} {cut : Prop}
    (chronicle : Chronicle Event Listener Value Note Failure)
    {occurrence : Occurrence Event Listener Value Failure}
    (report : occurrence.emission? = some number) :
    Reports number cut [occurrence] chronicle (chronicle.report occurrence) := by
  refine ⟨[⟨occurrence, chronicle.session.hooks⟩], rfl, Segment.report report rfl, ?_⟩
  simp [reportsOf, report]

omit [DecidableEq Event] [DecidableEq Listener] in
theorem Adds.reports {Answer : Type} {number : Nat}
    {chronicle : Chronicle Event Listener Value Note Failure}
    {outcome : Except (Stop Failure) Answer × Chronicle Event Listener Value Note Failure}
    (adds : Adds chronicle outcome) (begun : number < chronicle.past.length) :
    Reports number (outcome.1 = .error .tooDeep) [] chronicle outcome.2 := by
  obtain ⟨added, past, segment⟩ := adds
  exact ⟨added, past, segment.weaken (fun _ impossible => impossible.elim) id,
    segment.foreign id begun⟩

omit [DecidableEq Event] [DecidableEq Listener] in
theorem Reports.length_le {number : Nat} {cut : Prop}
    {reports : List (Occurrence Event Listener Value Failure)}
    {chronicle after : Chronicle Event Listener Value Note Failure}
    (step : Reports number cut reports chronicle after) :
    chronicle.past.length ≤ after.past.length := by
  obtain ⟨added, past, _⟩ := step
  rw [past, List.length_append]
  omega

omit [DecidableEq Event] [DecidableEq Listener] in
theorem Reports.weaken {number : Nat} {cut cutLater : Prop}
    {reports : List (Occurrence Event Listener Value Failure)}
    {chronicle after : Chronicle Event Listener Value Note Failure}
    (step : Reports number cut reports chronicle after) (cutKept : cut → cutLater) :
    Reports number cutLater reports chronicle after := by
  obtain ⟨added, past, segment, reported⟩ := step
  exact ⟨added, past, segment.weaken (fun _ same => same) cutKept, reported⟩

omit [DecidableEq Event] [DecidableEq Listener] in
theorem Reports.trans {number : Nat} {cut cutLater : Prop}
    {first second : List (Occurrence Event Listener Value Failure)}
    {chronicle middle after : Chronicle Event Listener Value Note Failure}
    (begun : number < chronicle.past.length)
    (stepFirst : Reports number cut first chronicle middle)
    (cutKept : cut → cutLater)
    (stepSecond : Reports number cutLater second middle after) :
    Reports number cutLater (first ++ second) chronicle after := by
  obtain ⟨early, earlyPast, earlySegment, rfl⟩ := stepFirst
  obtain ⟨late, latePast, lateSegment, rfl⟩ := stepSecond
  refine ⟨early ++ late, by rw [latePast, earlyPast, List.append_assoc], ?_, by simp⟩
  apply Segment.append
  · rintro emission rfl
    exact begun
  · exact earlySegment.weaken (fun _ same => same) cutKept
  · rw [← earlyPast]
    exact lateSegment

/-- The calling emission reports its calls and what comes of them, and nothing else. -/
theorem recordCalls_reports
    {number : Nat} {arguments : List Value}
    {call : Listener → Chronicle Event Listener Value Note Failure →
      Except (Stop Failure) Value × Chronicle Event Listener Value Note Failure}
    (callFaithful : ∀ listener chronicle,
      chronicle.Faithful → (call listener chronicle).2.Faithful)
    (callAdds : ∀ listener chronicle,
      chronicle.Faithful → Adds chronicle (call listener chronicle))
    (listeners : List Listener)
    {chronicle : Chronicle Event Listener Value Note Failure} (faithful : chronicle.Faithful)
    (begun : number < chronicle.past.length) :
    let outcome := recordCalls number arguments call listeners chronicle
    ∃ reports,
      Calls number arguments listeners outcome.1 reports ∧
        Reports number (outcome.1 = .error .tooDeep) reports chronicle outcome.2 := by
  have kept : Chronicle.Kept
      (Chronicle.Faithful : Chronicle Event Listener Value Note Failure → Prop) :=
    Chronicle.faithful_kept
  induction listeners generalizing chronicle with
  | nil =>
      exact ⟨[], Calls.nil, reports_nothing chronicle⟩
  | cons listener listeners inductionHypothesis =>
      have asked : Reports number False _ chronicle
          (chronicle.report (.called number listener arguments)) :=
        reports_report chronicle rfl
      have askedBegun := begun.trans_le asked.length_le
      have askedFaithful :=
        kept.report chronicle (.called number listener arguments) rfl faithful
      have afterFaithful := callFaithful listener _ askedFaithful
      have during := (callAdds listener _ askedFaithful).reports askedBegun
      rw [recordCalls]
      rcases result : call listener (chronicle.report (.called number listener arguments)) with
        ⟨outcome, after⟩
      rw [result] at afterFaithful during
      have called := asked.trans begun False.elim during
      have afterBegun := begun.trans_le called.length_le
      cases outcome with
      | error stop =>
          cases stop with
          | tooDeep =>
              exact ⟨_, Calls.cutOff listener,
                called.trans begun (fun _ => rfl) (reports_nothing after)⟩
          | failure failure =>
              exact ⟨_, Calls.failed listener failure,
                called.trans begun (by simp) (reports_report after rfl)⟩
      | ok value =>
          have answered : Reports number False _ after
              (after.report (.answered number value)) :=
            reports_report after rfl
          have returned := called.trans begun (by simp) answered
          obtain ⟨reports, calls, rest⟩ :=
            inductionHypothesis (kept.report after (.answered number value) rfl afterFaithful)
              (afterBegun.trans_le answered.length_le)
          simp only
          rcases remaining : recordCalls number arguments call listeners
            (after.report (.answered number value)) with ⟨results, final⟩
          rw [remaining] at calls rest
          have reportsAll := returned.trans begun False.elim rest
          have callsAll := Calls.returned listener value calls
          cases results with
          | error stop => exact ⟨_, callsAll, reportsAll⟩
          | ok values => exact ⟨_, callsAll, reportsAll.weaken (by simp)⟩

/-- An emission that is not too deep begins, calls what was stored, and answers what comes of
these calls. -/
theorem recordEmission_conducts
    (behaviour : Listener → List Value → Script Event Listener Value Note Failure)
    {depth : Nat}
    (emissionAdds : ∀ event arguments chronicle, chronicle.Faithful →
      Adds chronicle (recordEmission behaviour depth event arguments chronicle))
    (event : Event) (arguments : List Value)
    {chronicle : Chronicle Event Listener Value Note Failure} (faithful : chronicle.Faithful) :
    let outcome := recordEmission behaviour (depth + 1) event arguments chronicle
    ∃ reports,
      Conducted chronicle.past.length arguments (chronicle.session.hooks.snapshot event)
          outcome.1 reports ∧
        Reports chronicle.past.length (outcome.1 = .error .tooDeep) reports
          (chronicle.start event arguments) outcome.2 := by
  have kept : Chronicle.Kept
      (Chronicle.Faithful : Chronicle Event Listener Value Note Failure → Prop) :=
    Chronicle.faithful_kept
  have emissionFaithful : ∀ event arguments chronicle, chronicle.Faithful →
      (recordEmission behaviour depth event arguments chronicle).2.Faithful :=
    fun event arguments _ => recordEmission_kept kept behaviour depth event arguments
  have begun : chronicle.past.length < (chronicle.start event arguments).past.length := by
    simp [Chronicle.start, Chronicle.add]
  obtain ⟨reports, calls, made⟩ := recordCalls_reports
    (fun listener _ callFaithful =>
      record_kept kept emissionFaithful (behaviour listener arguments) callFaithful)
    (fun listener _ callFaithful =>
      record_adds emissionFaithful emissionAdds (behaviour listener arguments) callFaithful)
    (chronicle.session.hooks.snapshot event)
    (kept.start chronicle event arguments faithful) begun
  rw [recordEmission]
  rcases result : recordCalls chronicle.past.length arguments _ _ _ with ⟨outcome, after⟩
  rw [result] at calls made
  cases outcome with
  | error stop =>
      exact ⟨reports, Conducted.stopped calls, made⟩
  | ok values =>
      have completion :
          Reports chronicle.past.length (Except.ok values = .error (.tooDeep : Stop Failure))
            [.completed chronicle.past.length values] after
            (after.report (.completed chronicle.past.length values)) :=
        reports_report after rfl
      exact ⟨_, Conducted.returned calls, made.trans begun (by simp) completion⟩

theorem recordEmission_adds
    (behaviour : Listener → List Value → Script Event Listener Value Note Failure)
    (depth : Nat) (event : Event) (arguments : List Value)
    {chronicle : Chronicle Event Listener Value Note Failure} (faithful : chronicle.Faithful) :
    Adds chronicle (recordEmission behaviour depth event arguments chronicle) := by
  induction depth generalizing event arguments chronicle with
  | zero =>
      exact adds_nothing chronicle (.error .tooDeep)
  | succ depth inductionHypothesis =>
      obtain ⟨reports, conducted, added, past, segment, rfl⟩ :=
        recordEmission_conducts behaviour
          (fun event arguments _ => inductionHypothesis event arguments)
          event arguments faithful
      rw [faithful.current] at conducted
      refine ⟨_ :: added, ?_, Segment.emission segment conducted id⟩
      rw [past]
      simp [Chronicle.start, Chronicle.add]

theorem recordRun_segment
    (behaviour : Listener → List Value → Script Event Listener Value Note Failure)
    (depth : Nat) (script : Script Event Listener Value Note Failure) (notes : List Note) :
    let outcome := recordRun behaviour depth script notes
    Segment [] (fun _ => False) (outcome.1 = .error .tooDeep) outcome.2.past := by
  obtain ⟨added, past, segment⟩ := record_adds
    (fun event arguments _ =>
      recordEmission_kept Chronicle.faithful_kept behaviour depth event arguments)
    (fun event arguments _ => recordEmission_adds behaviour depth event arguments)
    script (Chronicle.faithful_fresh notes)
  have added_eq : added = (recordRun behaviour depth script notes).2.past := past.symm
  subst added_eq
  exact segment

/-- An emission conducts the calls of what was stored when it began, and all its reports in the
run are about these. -/
theorem recordRun_conducted
    (behaviour : Listener → List Value → Script Event Listener Value Note Failure)
    (depth : Nat) (script : Script Event Listener Value Note Failure) (notes : List Note)
    {before after : List (Instant Event Listener Value Failure)} {event : Event}
    {arguments : List Value} {hooks : Hooks Event Listener}
    (partition : (recordRun behaviour depth script notes).2.past =
      before ++ ⟨.emitted event arguments, hooks⟩ :: after) :
    ∃ result,
      Conducted before.length arguments ((registryAfter before).snapshot event) result
          (reportsOf before.length (recordRun behaviour depth script notes).2.history) ∧
        (result = .error .tooDeep →
          (recordRun behaviour depth script notes).1 = .error .tooDeep) := by
  have segment := recordRun_segment behaviour depth script notes
  obtain ⟨result, conducted, isCut⟩ :=
    segment.conducted before event arguments hooks after partition
  have noneBefore : reportsOf before.length (before.map Instant.occurrence) = [] := by
    apply reportsOf_eq_nil
    rintro occurrence member emission same rfl
    obtain ⟨instant, instantMember, rfl⟩ := List.mem_map.mp member
    obtain ⟨early, late, split⟩ := List.append_of_mem instantMember
    rw [split, List.append_assoc, List.cons_append] at partition
    rcases segment.numbered early instant _ partition _ same with impossible | bound
    · exact impossible
    · have length := congrArg List.length split
      simp only [List.length_append, List.length_cons, List.length_nil] at length bound
      omega
  refine ⟨result, ?_, isCut⟩
  rw [Chronicle.history, partition, List.map_append, reportsOf_append, noneBefore]
  simpa [reportsOf, Occurrence.emission?] using conducted

/-- Every run keeps the stored sequences equal to the live registrations in the order of their
dispatch, whatever listeners do while emissions of the same or other events are under way.  An
emission calls the listeners stored when it began, in their order and with its arguments, up to
the first that fails, and answers what they returned. -/
theorem run_refines_sorted_registrations
    (behaviour : Listener → List Value → Script Event Listener Value Note Failure)
    (depth : Nat) (script : Script Event Listener Value Note Failure) (notes : List Note) :
    let outcome := recordRun behaviour depth script notes
    -- the recorded run is the run
    forgetPast outcome = run behaviour depth script { hooks := .empty, notes } ∧
      -- at every point
      (∀ before instant after, outcome.2.past = before ++ instant :: after →
        ∀ event, ∃ sequence : List (Stamped Listener),
          instant.hooks.registrations event = sequence.map Stamped.registration ∧
            sequence.Perm
              (live event (before.map Instant.occurrence ++ [instant.occurrence])) ∧
            sequence.Pairwise Precedes) ∧
      -- every emission
      (∀ before event arguments hooks after,
        outcome.2.past = before ++ ⟨.emitted event arguments, hooks⟩ :: after →
          ∃ result,
            Conducted before.length arguments ((registryAfter before).snapshot event) result
                (reportsOf before.length outcome.2.history) ∧
              (result = .error .tooDeep → outcome.1 = .error .tooDeep)) ∧
      -- what an emission answers
      ∀ chronicle : Chronicle Event Listener Value Note Failure, chronicle.Faithful →
        ∀ event arguments, ∃ reports,
          Conducted chronicle.past.length arguments (chronicle.session.hooks.snapshot event)
              (emission behaviour (depth + 1) event arguments chronicle.session).1 reports ∧
            Reports chronicle.past.length
              ((emission behaviour (depth + 1) event arguments chronicle.session).1 =
                .error .tooDeep)
              reports (chronicle.start event arguments)
              (recordEmission behaviour (depth + 1) event arguments chronicle).2 := by
  refine ⟨recordRun_agrees behaviour depth script notes, ?_, ?_, ?_⟩
  · intro before instant after partition event
    have sorted :=
      (recordRun_faithful behaviour depth script notes).instants before instant after partition
    exact ⟨inDispatchOrder (live event _), sorted event, inDispatchOrder_perm _,
      inDispatchOrder_pairwise live_distinctTimes⟩
  · intro before event arguments hooks after partition
    exact recordRun_conducted behaviour depth script notes partition
  · intro chronicle faithful event arguments
    rw [← recordEmission_agrees behaviour (depth + 1) event arguments chronicle]
    exact recordEmission_conducts behaviour
      (fun event arguments _ => recordEmission_adds behaviour depth event arguments)
      event arguments faithful

end Script

end ApiDocs
