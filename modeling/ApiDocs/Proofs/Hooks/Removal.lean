import ApiDocs.Hooks.Handle
import ApiDocs.Proofs.Hooks.DispatchOrder

/-!
# Which registration is removed

A listener is given to a registry as an object of the program.  To stop listening removes one
registration of that listener, the first one in the order of dispatch, and touches nothing else;
which one this is right after the listener was registered once more depends on the order numbers.
-/

namespace ApiDocs

/-! ## Callables -/

/-- Which objects of a program are bound methods, and of which receiver and function.  A bound
method is a new object each time it is asked for. -/
structure Callables (Identity : Type) where
  bound? : Identity → Option (Identity × String)

namespace Callables

variable {Identity : Type} (callables : Callables Identity)

/-- Two callables are the same listener if they are bound methods of one object and one function,
or else one object. -/
def Same (first second : Identity) : Prop :=
  match callables.bound? first, callables.bound? second with
  | some (receiver, function), some (otherReceiver, otherFunction) =>
    receiver = otherReceiver ∧ function = otherFunction
  | _, _ => first = second

/-- What identifies a callable as a listener. -/
def handle (callable : Identity) : Handle Identity :=
  match callables.bound? callable with
  | some (receiver, function) => .method receiver function
  | none => .object callable

theorem handle_eq_iff {first second : Identity} :
    callables.handle first = callables.handle second ↔ callables.Same first second := by
  rw [handle, handle, Same]
  cases firstBound : callables.bound? first with
  | none =>
      cases secondBound : callables.bound? second with
      | none => simp
      | some _ =>
          have different : first ≠ second := by
            rintro rfl
            cases firstBound.symm.trans secondBound
          simp [different]
  | some _ =>
      cases secondBound : callables.bound? second with
      | none =>
          have different : first ≠ second := by
            rintro rfl
            cases firstBound.symm.trans secondBound
          simp [different]
      | some _ => simp

instance [DecidableEq Identity] (first second : Identity) :
    Decidable (callables.Same first second) :=
  decidable_of_iff _ callables.handle_eq_iff

end Callables

namespace Hooks

variable {Event Listener Other : Type} [DecidableEq Event]

/-! ## Registries that can be reached -/

section Sequences

variable {hooks : Hooks Event Listener} {event : Event}

theorem update_registrations (hooks : Hooks Event Listener) (event : Event) :
    hooks.update event (hooks.registrations event) = hooks := by
  have same : (hooks.update event (hooks.registrations event)).registrations =
      hooks.registrations := by
    funext other
    by_cases isEvent : other = event
    · rw [isEvent, registrations_update_self]
    · rw [registrations_update_of_ne hooks _ isEvent]
  exact congrArg Hooks.mk same

theorem update_update (hooks : Hooks Event Listener) (event : Event)
    (first second : List (Registration Listener)) :
    (hooks.update event first).update event second = hooks.update event second := by
  have same : ((hooks.update event first).update event second).registrations =
      (hooks.update event second).registrations := by
    funext other
    by_cases isEvent : other = event <;> simp [update, isEvent]
  exact congrArg Hooks.mk same

/-- Every sequence has ascending order numbers. -/
def InOrder (hooks : Hooks Event Listener) : Prop :=
  ∀ event, (hooks.registrations event).Pairwise fun first second => first.order ≤ second.order

omit [DecidableEq Event] in
theorem inOrder_empty : (empty : Hooks Event Listener).InOrder := fun _ => List.Pairwise.nil

theorem InOrder.update
    (inOrder : hooks.InOrder) {records : List (Registration Listener)}
    (sorted : records.Pairwise fun first second => first.order ≤ second.order) :
    (hooks.update event records).InOrder := by
  intro other
  by_cases isEvent : other = event
  · rw [isEvent, registrations_update_self]
    exact sorted
  · rw [registrations_update_of_ne hooks records isEvent]
    exact inOrder other

/-- Registries that come of registering, removing and emitting. -/
inductive Reached [DecidableEq Listener] : Hooks Event Listener → Prop where
  | empty : Reached empty
  | on {hooks : Hooks Event Listener} (event : Event) (listener : Listener) (order : Int) :
      Reached hooks → Reached (hooks.on event listener order)
  | once {hooks : Hooks Event Listener} (event : Event) (listener : Listener) (order : Int) :
      Reached hooks → Reached (hooks.once event listener order)
  | off {hooks : Hooks Event Listener} (event : Event) (listener : Listener) :
      Reached hooks → Reached (hooks.off event listener)
  | dropOnce {hooks : Hooks Event Listener} (event : Event) :
      Reached hooks → Reached (hooks.dropOnce event)

variable [DecidableEq Listener]

theorem Reached.inOrder (reached : hooks.Reached) : hooks.InOrder := by
  induction reached with
  | empty => exact inOrder_empty
  | on event listener order _ inductionHypothesis =>
      exact inductionHypothesis.update (insertByOrder_sorted (inductionHypothesis event))
  | once event listener order _ inductionHypothesis =>
      exact inductionHypothesis.update (insertByOrder_sorted (inductionHypothesis event))
  | off event listener _ inductionHypothesis =>
      exact inductionHypothesis.update ((inductionHypothesis event).sublist List.eraseP_sublist)
  | dropOnce event _ inductionHypothesis =>
      exact inductionHypothesis.update ((inductionHypothesis event).filter _)

/-! ## Registering and removing -/

/-- Whether a registration is one of the listener. -/
def isOf (listener : Listener) (record : Registration Listener) : Bool :=
  decide (record.listener = listener)

theorem off_eq (hooks : Hooks Event Listener) (event : Event) (listener : Listener) :
    hooks.off event listener =
      hooks.update event ((hooks.registrations event).eraseP (isOf listener)) :=
  rfl

theorem off_of_absent {listener : Listener}
    (absent : ∀ record ∈ hooks.registrations event, record.listener ≠ listener) :
    hooks.off event listener = hooks := by
  have nothing : (hooks.registrations event).eraseP (isOf listener) = hooks.registrations event :=
    List.eraseP_of_forall_not fun record member tested =>
      absent record member (of_decide_eq_true tested)
  rw [off_eq, nothing, update_registrations]

theorem off_on (hooks : Hooks Event Listener) (event : Event) (listener : Listener) (order : Int) :
    (hooks.on event listener order).off event listener =
      hooks.update event
        ((insertByOrder Registration.order { listener, order, once := false }
          (hooks.registrations event)).eraseP (isOf listener)) := by
  rw [off_eq, on, register, registrations_update_self, update_update]

theorem on_off (hooks : Hooks Event Listener) (event : Event) (listener : Listener) (order : Int) :
    (hooks.off event listener).on event listener order =
      hooks.update event
        (insertByOrder Registration.order { listener, order, once := false }
          ((hooks.registrations event).eraseP (isOf listener))) := by
  rw [off_eq, on, register, registrations_update_self, update_update]

end Sequences

/-! ## Registries of callables -/

/-- A registry with what each listener is taken for. -/
def map (view : Listener → Other) (hooks : Hooks Event Listener) : Hooks Event Other :=
  ⟨fun event => (hooks.registrations event).map fun record =>
    ⟨view record.listener, record.order, record.once⟩⟩

theorem map_update (view : Listener → Other) (hooks : Hooks Event Listener) (event : Event)
    (records : List (Registration Listener)) :
    (hooks.update event records).map view =
      (hooks.map view).update event (records.map fun record =>
        ⟨view record.listener, record.order, record.once⟩) := by
  have same : ((hooks.update event records).map view).registrations =
      ((hooks.map view).update event (records.map fun record =>
        ⟨view record.listener, record.order, record.once⟩)).registrations := by
    funext other
    by_cases isEvent : other = event <;> simp [map, update, isEvent]
  exact congrArg Hooks.mk same

end Hooks

/-- What it comes to that a callable stops to listen to an event, where the registry holds callables
and tells them apart by their handles. -/
structure RemovesFirst {Event Identity : Type} [DecidableEq Event] [DecidableEq Identity]
    (callables : Callables Identity) (registry : Hooks Event Identity) (event : Event)
    (listener : Identity) : Prop where
  /-- The first registration of the listener is removed and all others of the event stay. -/
  first : (∃ record ∈ registry.registrations event, callables.Same record.listener listener) →
    ∃ before record after, registry.registrations event = before ++ record :: after ∧
      callables.Same record.listener listener ∧
      (∀ earlier ∈ before, ¬ callables.Same earlier.listener listener) ∧
      (registry.map callables.handle).off event (callables.handle listener) =
        (registry.update event (before ++ after)).map callables.handle
  /-- A listener that is not registered changes nothing. -/
  absent : (∀ record ∈ registry.registrations event, ¬ callables.Same record.listener listener) →
    (registry.map callables.handle).off event (callables.handle listener) =
      registry.map callables.handle
  /-- Other events keep their registrations. -/
  elsewhere : ∀ other, other ≠ event →
    ((registry.map callables.handle).off event (callables.handle listener)).registrations other =
      (registry.map callables.handle).registrations other
  /-- A registration just made is undone where none of the listener has an order that is no
  greater. -/
  undone : ∀ order,
    (∀ record ∈ registry.registrations event, callables.Same record.listener listener →
      order < record.order) →
    ((registry.map callables.handle).on event (callables.handle listener) order).off event
      (callables.handle listener) = registry.map callables.handle
  /-- Otherwise the earlier one goes, as if it had gone before, and the new one stays. -/
  replaced : ∀ order, (registry.map callables.handle).Reached →
    (∃ record ∈ registry.registrations event, callables.Same record.listener listener ∧
      record.order ≤ order) →
    ((registry.map callables.handle).on event (callables.handle listener) order).off event
        (callables.handle listener) =
      ((registry.map callables.handle).off event (callables.handle listener)).on event
        (callables.handle listener) order
  /-- Either way the listener is registered as often as before. -/
  counted : ∀ order,
    ((((registry.map callables.handle).on event (callables.handle listener) order).off event
        (callables.handle listener)).registrations event).countP
          (Hooks.isOf (callables.handle listener)) =
      ((registry.map callables.handle).registrations event).countP
        (Hooks.isOf (callables.handle listener))

/-- To stop listening removes by identity, once, and nothing else. -/
theorem off_removesFirst {Event Identity : Type} [DecidableEq Event] [DecidableEq Identity]
    (callables : Callables Identity) (registry : Hooks Event Identity) (event : Event)
    (listener : Identity) :
    RemovesFirst callables registry event listener := by
  let seen (record : Registration Identity) : Registration (Handle Identity) :=
    ⟨callables.handle record.listener, record.order, record.once⟩
  have isSame (record : Registration Identity) :
      Hooks.isOf (callables.handle listener) (seen record) = true ↔
        callables.Same record.listener listener := by
    rw [Hooks.isOf, decide_eq_true_iff, callables.handle_eq_iff]
  have stored : (registry.map callables.handle).registrations event =
      (registry.registrations event).map seen := rfl
  refine ⟨?first, ?absent, ?elsewhere, ?undone, ?replaced, ?counted⟩
  case first =>
    rintro ⟨record, member, same⟩
    obtain ⟨removed, before, after, notBefore, isRemoved, split, erased⟩ :=
      List.exists_of_eraseP (p := Hooks.isOf (callables.handle listener) ∘ seen) member
        ((isSame record).mpr same)
    refine ⟨before, removed, after, split, (isSame removed).mp isRemoved, ?_, ?_⟩
    · intro earlier earlierMember earlierSame
      exact notBefore earlier earlierMember ((isSame earlier).mpr earlierSame)
    · rw [Hooks.off_eq, stored, List.eraseP_map, erased, Hooks.map_update]
  case absent =>
    intro absent
    apply Hooks.off_of_absent
    rw [stored, List.forall_mem_map]
    intro record member
    rw [Ne, callables.handle_eq_iff]
    exact absent record member
  case elsewhere =>
    intro other different
    exact Hooks.registrations_update_of_ne _ _ different
  case undone =>
    intro order later
    let added : Registration (Handle Identity) := ⟨callables.handle listener, order, false⟩
    let records := (registry.map callables.handle).registrations event
    have seenLater : ∀ other ∈ records, Hooks.isOf (callables.handle listener) other = true →
        added.order < other.order := by
      intro other member
      obtain ⟨record, listed, rfl⟩ := List.mem_map.mp member
      exact fun tested => later record listed ((isSame record).mp tested)
    have restored : (insertByOrder Registration.order added records).eraseP
        (Hooks.isOf (callables.handle listener)) = records :=
      eraseP_insertByOrder_of_lt (by simp [Hooks.isOf, added]) seenLater
    rw [Hooks.off_on, restored, Hooks.update_registrations]
  case replaced =>
    rintro order reached ⟨record, member, same, notAfter⟩
    have isSeen : seen record ∈ (registry.map callables.handle).registrations event :=
      List.mem_map_of_mem member
    rw [Hooks.off_on, Hooks.on_off, eraseP_insertByOrder_of_le (reached.inOrder event)
      ⟨seen record, isSeen, (isSame record).mpr same, notAfter⟩]
  case counted =>
    intro order
    rw [Hooks.off_on, Hooks.registrations_update_self]
    exact countP_eraseP_insertByOrder (by simp [Hooks.isOf])

/-- Two objects that are called themselves, and bound methods of two receivers; the first method has
been asked for twice. -/
def sampleCallables : Callables Nat :=
  ⟨fun callable =>
    match callable with
    | 2 | 3 => some (10, "handle")
    | 4 => some (11, "handle")
    | _ => none⟩

/-- The method is registered once before the other registrations, and again behind them. -/
def sampleRegistry : Hooks String Nat :=
  (((Hooks.empty.once "x" 2 (-1)).on "x" 0 0).on "x" 4 0).on "x" 2 5

theorem off_removesFirst_method :
    ((sampleRegistry.map sampleCallables.handle).off "x" (sampleCallables.handle 3)).registrations
        "x" = [⟨.object 0, 0, false⟩, ⟨.method 11 "handle", 0, false⟩,
          ⟨.method 10 "handle", 5, false⟩] ∧
      (sampleRegistry.map sampleCallables.handle).off "x" (sampleCallables.handle 1) =
        sampleRegistry.map sampleCallables.handle ∧
      ((sampleRegistry.map sampleCallables.handle).on "x" (sampleCallables.handle 3) (-2)).off "x"
        (sampleCallables.handle 3) = sampleRegistry.map sampleCallables.handle := by
  refine ⟨by decide, ?absent, ?undone⟩
  case absent => exact (off_removesFirst sampleCallables sampleRegistry "x" 1).absent (by decide)
  case undone => exact (off_removesFirst sampleCallables sampleRegistry "x" 3).undone (-2) (by decide)

end ApiDocs
