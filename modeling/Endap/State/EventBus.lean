import Endap.Library.Ring
import Endap.State.Store

/-!
# The queue of the event bus

The ring of the event bus holds the events that wait for their dispatch.  A
write of the state table that changes a value adds an event for it, unless the
ring is full.
-/

namespace Endap.State

open Endap.Library

/-- The events that wait, oldest first. -/
def EventBus.pending (bus : EventBus) : List EndapEvent :=
  Ring.pending eventBusMaxEvents bus.eventQueue bus.head bus.tail

/-- The ring drops the next event. -/
def EventBus.Full (bus : EventBus) : Prop :=
  (bus.head + 1) % eventBusMaxEvents = bus.tail

instance (bus : EventBus) : Decidable bus.Full :=
  inferInstanceAs (Decidable (_ = _))

/-- The oldest event, taken from the ring as `event_bus_dispatch_budgeted`
takes it. -/
def eventBusPop (bus : EventBus) : Option (EndapEvent × EventBus) :=
  if bus.tail = bus.head then none
  else
    some
      (bus.eventQueue bus.tail,
        { bus with
          tail := (bus.tail + 1) % eventBusMaxEvents
          tailFits := Nat.mod_lt _ (Nat.zero_lt_succ _) })

theorem eventBusPublish_full
    {bus : EventBus} (full : bus.Full) (event : EndapEvent) :
    eventBusPublish bus event = bus :=
  if_pos full

theorem eventBusPublish_pending
    {bus : EventBus} (room : ¬ bus.Full) (event : EndapEvent) :
    (eventBusPublish bus event).pending = bus.pending ++ [event] := by
  rw [EventBus.Full] at room
  rw [eventBusPublish, if_neg room]
  exact Ring.pending_push bus.headFits bus.tailFits bus.eventQueue event room

theorem eventBusPop_cases (bus : EventBus) :
    eventBusPop bus = none ∧ bus.pending = [] ∨
    ∃ event rest,
      eventBusPop bus = some (event, rest) ∧
      bus.pending = event :: rest.pending := by
  by_cases empty : bus.tail = bus.head
  · refine Or.inl ⟨if_pos empty, ?_⟩
    exact (Ring.pending_eq_nil_iff bus.tailFits _).mpr empty
  · refine Or.inr ⟨_, _, if_neg empty, ?_⟩
    exact Ring.pending_pop bus.headFits bus.tailFits _ empty

/-! ## The events of one identifier -/

/-- The event reports a change of the identifier. -/
def EndapEvent.ChangeOf (event : EndapEvent) (id : UInt16) : Prop :=
  event.type = .stateChange ∧ event.source = id

instance (event : EndapEvent) (id : UInt16) :
    Decidable (event.ChangeOf id) :=
  inferInstanceAs (Decidable (_ ∧ _))

/-- The changes of one identifier that wait for their dispatch. -/
def EventBus.changesOf (bus : EventBus) (id : UInt16) : List EndapEvent :=
  bus.pending.filter fun event => event.ChangeOf id

variable {id : UInt16}

theorem eventBusPublish_changesOf_other
    (bus : EventBus) {event : EndapEvent}
    (other : ¬ event.ChangeOf id) :
    (eventBusPublish bus event).changesOf id = bus.changesOf id := by
  by_cases full : bus.Full
  · rw [eventBusPublish_full full]
  · rw [EventBus.changesOf, eventBusPublish_pending full,
      List.filter_append, List.filter_cons_of_neg, List.filter_nil,
      List.append_nil]
    · rfl
    · simpa using other

theorem stateSetInt_changesOf_other
    (store : StateStore) {other : UInt16} (value : Int32)
    (different : other ≠ id) :
    (stateSetInt store id value).bus.changesOf other =
      store.bus.changesOf other := by
  rw [stateSetInt]
  split
  · split
    · exact
        eventBusPublish_changesOf_other store.bus fun isChange =>
          different isChange.2.symm
    · rfl
  · rfl

theorem stateSetInt_changesOf_same
    (store : StateStore) {value : Int32}
    (valid : StateValidId id) (changes : store.intValues id ≠ value)
    (room : ¬ store.bus.Full) :
    (stateSetInt store id value).bus.changesOf id =
      store.bus.changesOf id ++
        [{ type := .stateChange, source := id, data := value }] := by
  rw [stateSetInt, if_pos valid, if_pos changes, EventBus.changesOf,
    eventBusPublish_pending room, List.filter_append,
    List.filter_cons_of_pos, List.filter_nil]
  · rfl
  · simp [EndapEvent.ChangeOf]

end Endap.State
