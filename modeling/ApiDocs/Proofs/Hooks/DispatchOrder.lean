import ApiDocs.Hooks.Basic
import ApiDocs.Proofs.Ordered

/-!
# The dispatch order of registrations

A registration is stamped with the time at which it was made.  Stamped registrations have a
strict order of dispatch: by order number, and among equal ones by time.  Sorting by it is the
meaning of a stored sequence, and each change that a registry makes to a stored sequence is shown
to be the change to the unsorted registrations, sorted.
-/

namespace ApiDocs

/-- Nobody is registered by this but the listener that starts to listen. -/
theorem Hooks.mem_registrations_on {Event Listener : Type} [DecidableEq Event]
    {hooks : Hooks Event Listener} {event other : Event} {listener : Listener} {order : Int}
    {record : Registration Listener}
    (member : record ∈ (hooks.on event listener order).registrations other) :
    other = event ∧ record.listener = listener ∨ record ∈ hooks.registrations other := by
  by_cases same : other = event
  · rw [same, on, register, registrations_update_self, (insertByOrder_perm _ _ _).mem_iff,
      List.mem_cons] at member
    rcases member with rfl | old
    · exact Or.inl ⟨same, rfl⟩
    · exact Or.inr (same ▸ old)
  · rw [on, register, registrations_update_of_ne hooks _ same] at member
    exact Or.inr member

/-! ## Stamped registrations -/

/-- A registration with the time at which it was made. -/
structure Stamped (Listener : Type) where
  time : Nat
  registration : Registration Listener
deriving DecidableEq, Repr

namespace Stamped

variable {Listener : Type}

/-- The order of dispatch: by order number, and among equal ones by the time of registration. -/
def Precedes (first second : Stamped Listener) : Prop :=
  first.registration.order < second.registration.order ∨
    first.registration.order = second.registration.order ∧ first.time < second.time

instance (first second : Stamped Listener) : Decidable (first.Precedes second) :=
  inferInstanceAs (Decidable (_ ∨ _))

theorem Precedes.trans
    {first second third : Stamped Listener}
    (left : first.Precedes second) (right : second.Precedes third) :
    first.Precedes third := by
  unfold Precedes at *
  omega

theorem Precedes.asymm
    {first second : Stamped Listener} (order : first.Precedes second) :
    ¬ second.Precedes first := by
  unfold Precedes at *
  omega

theorem precedes_or_precedes
    {first second : Stamped Listener} (different : first.time ≠ second.time) :
    first.Precedes second ∨ second.Precedes first := by
  unfold Precedes
  omega

/-- The registration of a listener that stands before all others of that listener. -/
def Foremost
    (listener : Listener) (records : List (Stamped Listener)) (stamped : Stamped Listener) :
    Prop :=
  stamped.registration.listener = listener ∧
    ∀ other ∈ records, other.registration.listener = listener → ¬ other.Precedes stamped

instance [DecidableEq Listener]
    (listener : Listener) (records : List (Stamped Listener)) (stamped : Stamped Listener) :
    Decidable (Foremost listener records stamped) :=
  inferInstanceAs (Decidable (_ ∧ _))

end Stamped

open Stamped

variable {Listener : Type}

/-- Each registration was made at a time of its own. -/
def DistinctTimes (records : List (Stamped Listener)) : Prop :=
  (records.map Stamped.time).Nodup

/-- Registrations sorted into the order of their dispatch. -/
def inDispatchOrder (records : List (Stamped Listener)) : List (Stamped Listener) :=
  records.mergeSort fun first second => !decide (second.Precedes first)

theorem inDispatchOrder_perm (records : List (Stamped Listener)) :
    (inDispatchOrder records).Perm records :=
  List.mergeSort_perm records _

@[simp]
theorem mem_inDispatchOrder {records : List (Stamped Listener)} {stamped : Stamped Listener} :
    stamped ∈ inDispatchOrder records ↔ stamped ∈ records :=
  (inDispatchOrder_perm records).mem_iff

theorem inDispatchOrder_pairwise
    {records : List (Stamped Listener)} (distinct : DistinctTimes records) :
    (inDispatchOrder records).Pairwise Precedes := by
  have sorted :
      (inDispatchOrder records).Pairwise
        fun first second => !decide (second.Precedes first) := by
    apply List.pairwise_mergeSort
    · intro first second third left right
      simp only [Bool.not_eq_true', decide_eq_false_iff_not] at *
      unfold Precedes at *
      omega
    · intro first second
      simp only [Bool.or_eq_true, Bool.not_eq_true', decide_eq_false_iff_not]
      unfold Precedes
      omega
  have distinctSorted : (inDispatchOrder records).Pairwise fun first second =>
      first.time ≠ second.time :=
    List.pairwise_map.mp (((inDispatchOrder_perm records).map Stamped.time).nodup_iff.mpr distinct)
  refine (sorted.and distinctSorted).imp ?_
  rintro first second ⟨notAfter, different⟩
  rcases precedes_or_precedes different with before | after
  · exact before
  · simp [after] at notAfter

/-- There is only one way to arrange registrations in the order of their dispatch. -/
theorem eq_inDispatchOrder
    {sequence records : List (Stamped Listener)}
    (ordered : sequence.Pairwise Precedes)
    (permutation : sequence.Perm records)
    (distinct : DistinctTimes records) :
    sequence = inDispatchOrder records := by
  refine List.Perm.eq_of_pairwise ?_ ordered (inDispatchOrder_pairwise distinct)
    (permutation.trans (inDispatchOrder_perm records).symm)
  intro first second _ _ before after
  exact absurd after before.asymm

/-! ## Changes of a sequence -/

theorem DistinctTimes.filter
    {records : List (Stamped Listener)} (distinct : DistinctTimes records)
    (keep : Stamped Listener → Bool) :
    DistinctTimes (records.filter keep) :=
  distinct.sublist (List.filter_sublist.map Stamped.time)

theorem DistinctTimes.append_latest
    {records : List (Stamped Listener)} (distinct : DistinctTimes records)
    {stamped : Stamped Listener} (latest : ∀ other ∈ records, other.time < stamped.time) :
    DistinctTimes (records ++ [stamped]) := by
  unfold DistinctTimes at *
  rw [List.map_append, List.nodup_append]
  refine ⟨distinct, List.nodup_singleton _, ?_⟩
  intro time timeMember other otherMember
  obtain ⟨earlier, earlierMember, rfl⟩ := List.mem_map.mp timeMember
  have bound := latest earlier earlierMember
  simp only [List.map_cons, List.map_nil, List.mem_singleton] at otherMember
  omega

/-- What is left out of the registrations is left out of their dispatch, and nothing else
changes. -/
theorem inDispatchOrder_filter
    {records : List (Stamped Listener)} (distinct : DistinctTimes records)
    (keep : Stamped Listener → Bool) :
    inDispatchOrder (records.filter keep) = (inDispatchOrder records).filter keep := by
  symm
  apply eq_inDispatchOrder
  · exact (inDispatchOrder_pairwise distinct).filter keep
  · exact (inDispatchOrder_perm records).filter keep
  · exact distinct.filter keep

/-- A registration that is later than all others goes behind those of its order number: what
stands before it has no greater order, what follows has a greater one. -/
theorem insertByOrder_pairwise
    {stamped : Stamped Listener} {sequence : List (Stamped Listener)}
    (ordered : sequence.Pairwise Precedes)
    (latest : ∀ other ∈ sequence, other.time < stamped.time) :
    (insertByOrder (fun other => other.registration.order) stamped sequence).Pairwise
      Precedes := by
  induction sequence with
  | nil =>
      exact List.pairwise_singleton Precedes stamped
  | cons head tail inductionHypothesis =>
      obtain ⟨headFirst, tailOrdered⟩ := List.pairwise_cons.mp ordered
      rw [insertByOrder]
      split
      · rename_i smaller
        have first : stamped.Precedes head := Or.inl smaller
        refine List.pairwise_cons.mpr ⟨?_, ordered⟩
        intro other member
        rcases List.mem_cons.mp member with rfl | tailMember
        · exact first
        · exact first.trans (headFirst other tailMember)
      · rename_i notSmaller
        have behind : head.Precedes stamped := by
          have headEarlier := latest head List.mem_cons_self
          unfold Precedes
          omega
        refine List.pairwise_cons.mpr ⟨?_, inductionHypothesis tailOrdered ?_⟩
        · intro other member
          rcases List.mem_cons.mp ((insertByOrder_perm _ _ _).mem_iff.mp member) with
            rfl | tailMember
          · exact behind
          · exact headFirst other tailMember
        · intro other member
          exact latest other (List.mem_cons_of_mem head member)

theorem inDispatchOrder_append_latest
    {records : List (Stamped Listener)} (distinct : DistinctTimes records)
    {stamped : Stamped Listener} (latest : ∀ other ∈ records, other.time < stamped.time) :
    inDispatchOrder (records ++ [stamped]) =
      insertByOrder (fun other => other.registration.order) stamped
        (inDispatchOrder records) := by
  symm
  apply eq_inDispatchOrder
  · apply insertByOrder_pairwise (inDispatchOrder_pairwise distinct)
    intro other member
    exact latest other (mem_inDispatchOrder.mp member)
  · calc
      (insertByOrder _ stamped (inDispatchOrder records)).Perm
          (stamped :: inDispatchOrder records) := insertByOrder_perm _ _ _
      List.Perm _ (stamped :: records) := (inDispatchOrder_perm records).cons stamped
      List.Perm _ (records ++ [stamped]) := (List.perm_append_singleton stamped records).symm
  · exact distinct.append_latest latest

/-- In a sequence in dispatch order the first registration of a listener is the foremost one. -/
theorem eraseP_eq_filter_foremost [DecidableEq Listener]
    (listener : Listener) {sequence : List (Stamped Listener)}
    (ordered : sequence.Pairwise Precedes) :
    sequence.eraseP (fun stamped => stamped.registration.listener = listener) =
      sequence.filter fun stamped => !decide (stamped.Foremost listener sequence) := by
  induction sequence with
  | nil =>
      rfl
  | cons head tail inductionHypothesis =>
      obtain ⟨headFirst, tailOrdered⟩ := List.pairwise_cons.mp ordered
      by_cases same : head.registration.listener = listener
      · have headForemost : head.Foremost listener (head :: tail) := by
          refine ⟨same, ?_⟩
          intro other member _ before
          rcases List.mem_cons.mp member with rfl | tailMember
          · exact before.asymm before
          · exact before.asymm (headFirst other tailMember)
        have tailKept : ∀ stamped ∈ tail, ¬ stamped.Foremost listener (head :: tail) :=
          fun stamped member foremost =>
            foremost.2 head List.mem_cons_self same (headFirst stamped member)
        rw [List.eraseP_cons_of_pos (by simpa using same),
          List.filter_cons_of_neg (by simpa using headForemost)]
        symm
        apply List.filter_eq_self.mpr
        intro stamped member
        simpa using tailKept stamped member
      · have headKept : ¬ head.Foremost listener (head :: tail) :=
          fun foremost => same foremost.1
        rw [List.eraseP_cons_of_neg (by simpa using same),
          List.filter_cons_of_pos (by simpa using headKept),
          inductionHypothesis tailOrdered]
        congr 1
        apply List.filter_congr
        intro stamped _
        have unchanged :
            stamped.Foremost listener tail ↔ stamped.Foremost listener (head :: tail) := by
          simp [Foremost, same]
        simp only [unchanged]

theorem eraseP_inDispatchOrder [DecidableEq Listener]
    (listener : Listener) {records : List (Stamped Listener)}
    (distinct : DistinctTimes records) :
    (inDispatchOrder records).eraseP
        (fun stamped => stamped.registration.listener = listener) =
      inDispatchOrder
        (records.filter fun stamped => !decide (stamped.Foremost listener records)) := by
  rw [eraseP_eq_filter_foremost listener (inDispatchOrder_pairwise distinct),
    inDispatchOrder_filter distinct]
  apply List.filter_congr
  intro stamped _
  have unchanged :
      stamped.Foremost listener (inDispatchOrder records) ↔
        stamped.Foremost listener records := by
    simp [Foremost]
  simp only [unchanged]

end ApiDocs
