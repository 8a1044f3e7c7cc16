import ApiDocs.Ordered

/-!
Registries of listeners.  For each event a registry holds its registrations in dispatch order:
ascending order numbers, and among equal ones the order of registration.
-/

namespace ApiDocs

/-- A listener with its place in the dispatch order.  One that is registered `once` is removed
by the first emission of its event. -/
structure Registration (Listener : Type) where
  listener : Listener
  order : Int
  once : Bool
deriving DecidableEq, Repr

/-- The registrations of every event, in dispatch order. -/
structure Hooks (Event Listener : Type) where
  registrations : Event → List (Registration Listener)

namespace Hooks

variable {Event Listener : Type}

/-- The registry without registrations. -/
def empty : Hooks Event Listener := ⟨fun _ => []⟩

variable [DecidableEq Event]

/-- The sequence of one event is replaced. -/
def update (hooks : Hooks Event Listener) (event : Event)
    (records : List (Registration Listener)) : Hooks Event Listener :=
  ⟨fun other => if other = event then records else hooks.registrations other⟩

def register (hooks : Hooks Event Listener) (event : Event)
    (record : Registration Listener) : Hooks Event Listener :=
  hooks.update event (insertByOrder Registration.order record (hooks.registrations event))

/-- Start listening to an event. -/
def on (hooks : Hooks Event Listener) (event : Event) (listener : Listener) (order : Int) :
    Hooks Event Listener :=
  hooks.register event { listener, order, once := false }

/-- Listen to the next emission of an event only. -/
def once (hooks : Hooks Event Listener) (event : Event) (listener : Listener) (order : Int) :
    Hooks Event Listener :=
  hooks.register event { listener, order, once := true }

/-- Stop listening: the first registration of the listener is removed, if there is one. -/
def off [DecidableEq Listener] (hooks : Hooks Event Listener) (event : Event)
    (listener : Listener) : Hooks Event Listener :=
  hooks.update event
    (removeFirst (fun record => record.listener = listener) (hooks.registrations event)).2

/-- The registry after an emission of the event has begun: what was registered once is gone. -/
def dropOnce (hooks : Hooks Event Listener) (event : Event) : Hooks Event Listener :=
  hooks.update event ((hooks.registrations event).filter fun record => !record.once)

/-- The listeners that an emission begun now will call, in this order. -/
def snapshot (hooks : Hooks Event Listener) (event : Event) : List Listener :=
  (hooks.registrations event).map Registration.listener

def count (hooks : Hooks Event Listener) (event : Event) : Nat :=
  (hooks.registrations event).length

@[simp] theorem registrations_update_self (hooks : Hooks Event Listener) (event : Event)
    (records : List (Registration Listener)) :
    (hooks.update event records).registrations event = records := by
  simp [update]

theorem registrations_update_of_ne (hooks : Hooks Event Listener) {event other : Event}
    (records : List (Registration Listener)) (different : other ≠ event) :
    (hooks.update event records).registrations other = hooks.registrations other := by
  simp [update, different]

/-- An emission registers nothing. -/
theorem registrations_dropOnce_sublist (hooks : Hooks Event Listener) (event other : Event) :
    ((hooks.dropOnce event).registrations other).Sublist (hooks.registrations other) := by
  by_cases same : other = event
  · rw [same, dropOnce, registrations_update_self]
    exact List.filter_sublist
  · have kept : (hooks.dropOnce event).registrations other = hooks.registrations other :=
      registrations_update_of_ne hooks _ same
    exact kept.symm ▸ List.Sublist.refl (hooks.registrations other)

/-- An emission drops nothing where nothing is registered once. -/
theorem dropOnce_eq {hooks : Hooks Event Listener} {event : Event}
    (kept : ∀ record ∈ hooks.registrations event, record.once = false) :
    hooks.dropOnce event = hooks := by
  have same : (hooks.registrations event).filter (fun record => !record.once) =
      hooks.registrations event := by
    rw [List.filter_eq_self]
    intro record member
    rw [kept record member]
    rfl
  have registrations : (hooks.dropOnce event).registrations = hooks.registrations := by
    funext other
    by_cases isEvent : other = event
    · rw [isEvent, dropOnce, registrations_update_self, same]
    · rw [dropOnce, registrations_update_of_ne hooks _ isEvent]
  calc hooks.dropOnce event = ⟨(hooks.dropOnce event).registrations⟩ := rfl
    _ = hooks := by rw [registrations]

end Hooks

end ApiDocs
