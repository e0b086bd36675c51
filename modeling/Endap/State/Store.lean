import Mathlib.Logic.Function.Basic

/-!
# The state table

All components of the runtime communicate through one table of 32-bit values.
A write that changes a value marks it dirty, marks the snapshot as pending
and publishes a state-change event on the event bus.  The event bus is a ring
of `EVENT_BUS_MAX_EVENTS` slots that drops events when it is full.

The output hook of the table only raises flags of the I/O driver and of the
HTTP server; it changes none of the state below.
-/

namespace Endap.State

/-! ## The event bus -/

def eventBusMaxEvents : Nat := 64

/-- `endap_event_type_t`. -/
inductive EventType where
  | inputChange
  | stateChange
  | timer
  | pveAlarmHigh
  | pveAlarmLow
deriving DecidableEq

structure EndapEvent where
  type : EventType
  source : UInt16
  data : Int32

/-- The ring of the event bus. -/
structure EventBus where
  eventQueue : Nat → EndapEvent
  head : Nat
  tail : Nat
  headFits : head < eventBusMaxEvents
  tailFits : tail < eventBusMaxEvents

/-- `event_bus_publish`; a full ring drops the event. -/
def eventBusPublish (bus : EventBus) (event : EndapEvent) : EventBus :=
  let next := (bus.head + 1) % eventBusMaxEvents
  if next = bus.tail then bus
  else
    { bus with
      eventQueue := Function.update bus.eventQueue bus.head event
      head := next
      headFits := Nat.mod_lt _ (Nat.zero_lt_succ _) }

/-- The ring after `event_bus_init`, with the slots at their static value. -/
def eventBusInit : EventBus where
  eventQueue := fun _ => { type := .inputChange, source := 0, data := 0 }
  head := 0
  tail := 0
  headFits := Nat.zero_lt_succ _
  tailFits := Nat.zero_lt_succ _

/-! ## The table -/

def stateMaxEntries : Nat := 256

/-- The static state of `state.c`, with what its writes reach. -/
structure StateStore where
  intValues : UInt16 → Int32
  dirtyFlags : UInt16 → Bool
  snapshotDirty : Bool
  bus : EventBus

def StateValidId (id : UInt16) : Prop := id.toNat < stateMaxEntries

instance (id : UInt16) : Decidable (StateValidId id) :=
  inferInstanceAs (Decidable (_ < _))

/-- The tables after `state_init` on an idle event bus. -/
def stateInit : StateStore where
  intValues := fun _ => 0
  dirtyFlags := fun _ => false
  snapshotDirty := false
  bus := eventBusInit

/-- `state_get_int`; `none` when it returns false. -/
def stateGetInt (store : StateStore) (id : UInt16) : Option Int32 :=
  if StateValidId id then some (store.intValues id) else none

/-- `state_set_int`, the table afterwards. -/
@[irreducible]
def stateSetInt (store : StateStore) (id : UInt16) (value : Int32) :
    StateStore :=
  if StateValidId id then
    if store.intValues id ≠ value then
      { intValues := Function.update store.intValues id value
        dirtyFlags := Function.update store.dirtyFlags id true
        snapshotDirty := true
        bus :=
          eventBusPublish store.bus
            { type := .stateChange, source := id, data := value } }
    else store
  else store

/-- `state_get_int` into a variable that holds zero. -/
def stateValue (store : StateStore) (id : UInt16) : Int32 :=
  (stateGetInt store id).getD 0

/-! ## Reading after writing -/

variable {id : UInt16}

theorem stateSetInt_other
    (store : StateStore) {other : UInt16} (value : Int32)
    (different : other ≠ id) :
    (stateSetInt store id value).intValues other =
      store.intValues other := by
  rw [stateSetInt]
  split
  · split
    · exact Function.update_of_ne different _ _
    · rfl
  · rfl

theorem stateSetInt_same
    (store : StateStore) (valid : StateValidId id)
    (value : Int32) :
    (stateSetInt store id value).intValues id = value := by
  rw [stateSetInt]
  rw [if_pos valid]
  split
  · exact Function.update_self _ _ _
  · rename_i same
    exact Decidable.not_not.mp same

theorem stateSetInt_dirty_other
    (store : StateStore) {other : UInt16} (value : Int32)
    (different : other ≠ id) :
    (stateSetInt store id value).dirtyFlags other =
      store.dirtyFlags other := by
  rw [stateSetInt]
  split
  · split
    · exact Function.update_of_ne different _ _
    · rfl
  · rfl

theorem stateSetInt_unchanged
    (store : StateStore) {value : Int32}
    (already : store.intValues id = value) :
    stateSetInt store id value = store := by
  simp [stateSetInt, already]

end Endap.State
