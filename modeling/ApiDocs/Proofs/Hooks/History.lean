import ApiDocs.Proofs.Hooks.DispatchOrder
import Mathlib.Data.List.Induction

/-!
# Histories of a registry

A history lists what has happened to a registry and in its emissions, the earliest first.  From
it the registrations that are still live are read off without any stored sequence: each was made
at some time, and since then neither `off` has removed it nor, if it was made once, an emission
of its event has begun.
-/

namespace ApiDocs

open Stamped

/-- One thing that happens in a run.  An emission is told apart from others by its number: how
many things had happened before it began. -/
inductive Occurrence (Event Listener Value Failure : Type) where
  | registered (event : Event) (registration : Registration Listener)
  | withdrawn (event : Event) (listener : Listener)
  | emitted (event : Event) (arguments : List Value)
  | called (emission : Nat) (listener : Listener) (arguments : List Value)
  /-- The listener called last returns. -/
  | answered (emission : Nat) (value : Value)
  /-- The listener called last fails, which ends the emission. -/
  | raised (emission : Nat) (failure : Failure)
  /-- All listeners have returned, and so does the emission. -/
  | completed (emission : Nat) (results : List Value)
deriving DecidableEq, Repr

variable {Event Listener Value Failure : Type} [DecidableEq Event] [DecidableEq Listener]

namespace Occurrence

/-- The live registrations of an event after something has happened at a time. -/
def advance (event : Event) (time : Nat) (live : List (Stamped Listener)) :
    Occurrence Event Listener Value Failure → List (Stamped Listener)
  | registered other registration =>
      if other = event then live ++ [{ time, registration }] else live
  | withdrawn other listener =>
      if other = event then
        live.filter fun stamped => !decide (stamped.Foremost listener live)
      else live
  | emitted other _ =>
      if other = event then live.filter fun stamped => !stamped.registration.once else live
  | _ => live

/-- The emission that a report belongs to. -/
def emission? : Occurrence Event Listener Value Failure → Option Nat
  | called emission _ _ => some emission
  | answered emission _ => some emission
  | raised emission _ => some emission
  | completed emission _ => some emission
  | _ => none

/-- Whether the live registrations are left alone. -/
def isReport (occurrence : Occurrence Event Listener Value Failure) : Bool :=
  occurrence.emission?.isSome

theorem advance_report
    (event : Event) (time : Nat) (live : List (Stamped Listener))
    {occurrence : Occurrence Event Listener Value Failure}
    (report : occurrence.isReport = true) :
    occurrence.advance event time live = live := by
  cases occurrence with
  | registered | withdrawn | emitted => simp [isReport, emission?] at report
  | called | answered | raised | completed => rfl

end Occurrence

/-- The live registrations of an event, in the order in which they were made. -/
def live (event : Event) (history : List (Occurrence Event Listener Value Failure)) :
    List (Stamped Listener) :=
  history.zipIdx.foldl (fun records entry => entry.1.advance event entry.2 records) []

@[simp]
theorem live_nil (event : Event) :
    live event ([] : List (Occurrence Event Listener Value Failure)) = [] :=
  rfl

variable (event : Event) (history : List (Occurrence Event Listener Value Failure))

theorem live_append_singleton (occurrence : Occurrence Event Listener Value Failure) :
    live event (history ++ [occurrence]) =
      occurrence.advance event history.length (live event history) := by
  simp [live, List.zipIdx_append, List.foldl_append]

/-! ## What is live -/

/-- A live registration was made at its time, and times go up along the list. -/
theorem live_spec :
    (live event history).Pairwise (fun first second => first.time < second.time) ∧
      ∀ stamped ∈ live event history,
        history[stamped.time]? = some (.registered event stamped.registration) := by
  induction history using List.reverseRecOn with
  | nil =>
      simp
  | append_singleton history occurrence inductionHypothesis =>
      obtain ⟨ascending, recorded⟩ := inductionHypothesis
      have earlier : ∀ stamped ∈ live event history, stamped.time < history.length := by
        intro stamped member
        exact (List.getElem?_eq_some_iff.mp (recorded stamped member)).1
      have stillRecorded : ∀ stamped ∈ live event history,
          (history ++ [occurrence])[stamped.time]? =
            some (.registered event stamped.registration) := by
        intro stamped member
        rw [List.getElem?_append_left (earlier stamped member)]
        exact recorded stamped member
      have kept : ∀ keep : Stamped Listener → Bool,
          ((live event history).filter keep).Pairwise
              (fun first second => first.time < second.time) ∧
            ∀ stamped ∈ (live event history).filter keep,
              (history ++ [occurrence])[stamped.time]? =
                some (.registered event stamped.registration) := by
        intro keep
        refine ⟨ascending.filter keep, ?_⟩
        intro stamped member
        exact stillRecorded stamped (List.mem_of_mem_filter member)
      rw [live_append_singleton]
      cases occurrence with
      | registered other registration =>
          simp only [Occurrence.advance]
          split
          · rename_i same
            subst same
            refine ⟨List.pairwise_append.mpr ⟨ascending, List.pairwise_singleton _ _, ?_⟩, ?_⟩
            · intro stamped member latest latestMember
              rw [List.mem_singleton.mp latestMember]
              exact earlier stamped member
            · intro stamped member
              rcases List.mem_append.mp member with old | new
              · exact stillRecorded stamped old
              · rw [List.mem_singleton.mp new]
                simp
          · exact ⟨ascending, stillRecorded⟩
      | withdrawn other listener =>
          simp only [Occurrence.advance]
          split
          · exact kept _
          · exact ⟨ascending, stillRecorded⟩
      | emitted other arguments =>
          simp only [Occurrence.advance]
          split
          · exact kept _
          · exact ⟨ascending, stillRecorded⟩
      | called | answered | raised | completed =>
          exact ⟨ascending, stillRecorded⟩

theorem live_pairwise :
    (live event history).Pairwise fun first second => first.time < second.time :=
  (live_spec event history).1

variable {event history}

theorem recorded_of_mem_live
    {stamped : Stamped Listener} (member : stamped ∈ live event history) :
    history[stamped.time]? = some (.registered event stamped.registration) :=
  (live_spec event history).2 stamped member

theorem time_lt_of_mem_live
    {stamped : Stamped Listener} (member : stamped ∈ live event history) :
    stamped.time < history.length :=
  (List.getElem?_eq_some_iff.mp (recorded_of_mem_live member)).1

theorem live_distinctTimes : DistinctTimes (live event history) :=
  List.pairwise_map.mpr ((live_pairwise event history).imp Nat.ne_of_lt)

theorem live_nodup : (live event history).Nodup :=
  List.Nodup.of_map Stamped.time live_distinctTimes

/-! ## What happens to a registration -/

theorem live_append_report
    {occurrence : Occurrence Event Listener Value Failure}
    (report : occurrence.isReport = true) :
    live event (history ++ [occurrence]) = live event history := by
  rw [live_append_singleton, Occurrence.advance_report event _ _ report]

theorem live_append_registered (registration : Registration Listener) :
    live event (history ++ [.registered event registration]) =
      live event history ++ [⟨history.length, registration⟩] := by
  simp [live_append_singleton, Occurrence.advance]

theorem live_append_withdrawn (listener : Listener) :
    live event (history ++ [.withdrawn event listener]) =
      (live event history).filter fun stamped =>
        !decide (stamped.Foremost listener (live event history)) := by
  simp [live_append_singleton, Occurrence.advance]

theorem live_append_emitted (arguments : List Value) :
    live event (history ++ [.emitted event arguments]) =
      (live event history).filter fun stamped => !stamped.registration.once := by
  simp [live_append_singleton, Occurrence.advance]

theorem live_append_of_ne
    {other : Event} (different : other ≠ event)
    {occurrence : Occurrence Event Listener Value Failure}
    (about : (∃ registration, occurrence = .registered other registration) ∨
      (∃ listener, occurrence = .withdrawn other listener) ∨
        ∃ arguments, occurrence = .emitted other arguments) :
    live event (history ++ [occurrence]) = live event history := by
  rw [live_append_singleton]
  rcases about with ⟨registration, rfl⟩ | ⟨listener, rfl⟩ | ⟨arguments, rfl⟩ <;>
    simp [Occurrence.advance, different]

/-! ## How long a registration lives -/

variable {position later : Nat} {stamped : Stamped Listener}

theorem live_take_succ
    {occurrence : Occurrence Event Listener Value Failure}
    (happens : history[position]? = some occurrence) :
    live event (history.take (position + 1)) =
      occurrence.advance event position (live event (history.take position)) := by
  have bound := (List.getElem?_eq_some_iff.mp happens).1
  rw [List.take_add_one, happens, Option.toList_some, live_append_singleton,
    List.length_take_of_le (Nat.le_of_lt bound)]

theorem mem_live_take_succ
    (member : stamped ∈ live event (history.take (position + 1))) :
    stamped ∈ live event (history.take position) ∨ stamped.time = position := by
  cases happens : history[position]? with
  | none =>
      rw [List.take_add_one, happens, Option.toList_none, List.append_nil] at member
      exact Or.inl member
  | some occurrence =>
      rw [live_take_succ happens] at member
      cases occurrence with
      | registered other registration =>
          simp only [Occurrence.advance] at member
          split at member
          · rcases List.mem_append.mp member with old | new
            · exact Or.inl old
            · rw [List.mem_singleton.mp new]
              exact Or.inr rfl
          · exact Or.inl member
      | withdrawn other listener =>
          simp only [Occurrence.advance] at member
          split at member
          · exact Or.inl (List.mem_of_mem_filter member)
          · exact Or.inl member
      | emitted other arguments =>
          simp only [Occurrence.advance] at member
          split at member
          · exact Or.inl (List.mem_of_mem_filter member)
          · exact Or.inl member
      | called | answered | raised | completed =>
          exact Or.inl member

theorem not_mem_live_later
    (registered : stamped.time < position)
    (gone : stamped ∉ live event (history.take position)) (order : position ≤ later) :
    stamped ∉ live event (history.take later) := by
  induction later, order using Nat.le_induction with
  | base =>
      exact gone
  | succ later order inductionHypothesis =>
      intro member
      rcases mem_live_take_succ member with before | same
      · exact inductionHypothesis before
      · omega

theorem mem_live_registered
    {registration : Registration Listener}
    (happens : history[position]? = some (.registered event registration)) :
    ⟨position, registration⟩ ∈ live event (history.take (position + 1)) := by
  rw [live_take_succ happens]
  simp [Occurrence.advance]

theorem mem_live_emitted
    {arguments : List Value}
    (happens : history[position]? = some (.emitted event arguments)) :
    stamped ∈ live event (history.take (position + 1)) ↔
      stamped ∈ live event (history.take position) ∧ stamped.registration.once = false := by
  rw [live_take_succ happens]
  simp [Occurrence.advance]

/-- What ceases to be live is removed as the foremost registration of its listener, or was made
once and taken by an emission. -/
theorem mem_live_or_removed
    (member : stamped ∈ live event (history.take position)) :
    stamped ∈ live event (history.take (position + 1)) ∨
      history[position]? = some (.withdrawn event stamped.registration.listener) ∨
      ∃ arguments, history[position]? = some (.emitted event arguments) := by
  cases happens : history[position]? with
  | none =>
      rw [List.take_add_one, happens, Option.toList_none, List.append_nil]
      exact Or.inl member
  | some occurrence =>
      rw [live_take_succ happens]
      cases occurrence with
      | registered other registration =>
          simp only [Occurrence.advance]
          split
          · exact Or.inl (List.mem_append_left _ member)
          · exact Or.inl member
      | withdrawn other listener =>
          simp only [Occurrence.advance]
          split
          · rename_i same
            by_cases foremost :
                stamped.Foremost listener (live event (history.take position))
            · rw [same, foremost.1]
              exact Or.inr (Or.inl rfl)
            · exact Or.inl (List.mem_filter.mpr ⟨member, by simpa using foremost⟩)
          · exact Or.inl member
      | emitted other arguments =>
          by_cases same : other = event
          · rw [same]
            exact Or.inr (Or.inr ⟨arguments, rfl⟩)
          · simp only [Occurrence.advance, if_neg same]
            exact Or.inl member
      | called | answered | raised | completed =>
          exact Or.inl member

/-- Between two times no emission of the event begins. -/
def Quiet (event : Event) (history : List (Occurrence Event Listener Value Failure))
    (first last : Nat) : Prop :=
  ∀ between, first < between → between < last →
    ∀ arguments, history[between]? ≠ some (.emitted event arguments)

omit [DecidableEq Event] [DecidableEq Listener] in
theorem Quiet.of_succ
    {first last : Nat} (quiet : Quiet event history first (last + 1)) :
    Quiet event history first last :=
  fun between after before => quiet between after (Nat.lt_succ_of_lt before)

/-- As long as there is no emission of its event, a registration is live until its listener is
withdrawn. -/
theorem mem_live_or_withdrawn
    {time : Nat} {registration : Registration Listener}
    (registered : history[time]? = some (.registered event registration))
    (order : time < later) (quiet : Quiet event history time later) :
    ⟨time, registration⟩ ∈ live event (history.take later) ∨
      ∃ between, time < between ∧ between < later ∧
        history[between]? = some (.withdrawn event registration.listener) ∧
        ⟨time, registration⟩ ∈ live event (history.take between) ∧
        ⟨time, registration⟩ ∉ live event (history.take (between + 1)) := by
  induction later, order using Nat.le_induction with
  | base =>
      exact Or.inl (mem_live_registered registered)
  | succ later order inductionHypothesis =>
      rcases inductionHypothesis quiet.of_succ with
        alive | ⟨between, after, before, happens, alive, gone⟩
      · by_cases still : ⟨time, registration⟩ ∈ live event (history.take (later + 1))
        · exact Or.inl still
        · rcases mem_live_or_removed alive with kept | happens | ⟨arguments, happens⟩
          · exact absurd kept still
          · exact Or.inr ⟨later, order, Nat.lt_succ_self later, happens, alive, still⟩
          · exact absurd happens (quiet later order (Nat.lt_succ_self later) arguments)
      · exact Or.inr ⟨between, after, Nat.lt_succ_of_lt before, happens, alive, gone⟩

end ApiDocs
