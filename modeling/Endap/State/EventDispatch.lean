import Endap.Library.Dispatch
import Endap.State.EventBus

/-!
# Dispatch of events

Events are published into the ring of the event bus by any task, by interrupt
handlers and by the handlers of other events, always under a lock.  The
scheduler calls the dispatcher with a budget.  The dispatcher takes one event
at a time under the lock and calls the handlers that subscribed to its type
without it.

The model takes one step for every critical section and for every round of a
loop, and lets events be published between any two of them, so what a handler
publishes while it runs is published after the step that called it.  The
scheduler is the only caller of the dispatcher, and all handlers subscribe
before it starts.

What the bus does is what a bounded queue with one dispatcher does.
-/

namespace Endap.State

open Endap.Library

variable {Handler : Type}

/-! ## The ring -/

def eventMask : UInt8 := 63

/-- `endap_event_t`, with the byte that holds its type. -/
structure EventRecord where
  type : UInt8
  source : UInt16
  data : Int32
deriving DecidableEq

/-- The queue of the event bus, with its indices as bytes. -/
structure EventRing where
  eventQueue : Nat → EventRecord
  head : UInt8
  tail : UInt8
  headFits : head.toNat < eventBusMaxEvents
  tailFits : tail.toNat < eventBusMaxEvents

/-- The index after another one. -/
def nextIndex (index : UInt8) : UInt8 := (index + 1) &&& eventMask

theorem nextIndex_toNat (index : UInt8) :
    (nextIndex index).toNat = (index.toNat + 1) % eventBusMaxEvents := by
  rw [nextIndex, UInt8.toNat_and, UInt8.toNat_add]
  show (index.toNat + 1) % 2 ^ 8 &&& 2 ^ 6 - 1 = _
  rw [Nat.and_two_pow_sub_one_eq_mod]
  exact Nat.mod_mod_of_dvd _ (by decide)

theorem nextIndex_fits (index : UInt8) :
    (nextIndex index).toNat < eventBusMaxEvents := by
  rw [nextIndex_toNat]
  exact Nat.mod_lt _ (by decide)

/-- The ring after `event_bus_init`. -/
def EventRing.init (eventQueue : Nat → EventRecord) : EventRing where
  eventQueue := eventQueue
  head := 0
  tail := 0
  headFits := by decide
  tailFits := by decide

/-- The ring with one more event. -/
def EventRing.push (ring : EventRing) (event : EventRecord) : EventRing :=
  { ring with
    eventQueue := Function.update ring.eventQueue ring.head.toNat event
    head := nextIndex ring.head
    headFits := nextIndex_fits ring.head }

/-- The ring without its oldest event. -/
def EventRing.pop (ring : EventRing) : EventRing :=
  { ring with
    tail := nextIndex ring.tail
    tailFits := nextIndex_fits ring.tail }

def EventRing.eventBusPublish (ring : EventRing) (event : EventRecord) :
    EventRing :=
  if nextIndex ring.head = ring.tail then ring else ring.push event

/-- The events that wait, oldest first. -/
def EventRing.pending (ring : EventRing) : List EventRecord :=
  Ring.pending eventBusMaxEvents ring.eventQueue ring.head.toNat ring.tail.toNat

theorem EventRing.pending_length_eq_iff (ring : EventRing) :
    ring.pending.length = 63 ↔ nextIndex ring.head = ring.tail := by
  rw [← UInt8.toNat_inj, nextIndex_toNat]
  exact Ring.pending_length_eq_iff ring.headFits ring.tailFits _

theorem EventRing.push_pending
    {ring : EventRing} (room : nextIndex ring.head ≠ ring.tail)
    (event : EventRecord) :
    (ring.push event).pending = ring.pending ++ [event] := by
  rw [← UInt8.toNat_inj.ne, nextIndex_toNat] at room
  rw [EventRing.pending, EventRing.push, nextIndex_toNat]
  exact Ring.pending_push ring.headFits ring.tailFits _ event room

theorem EventRing.pending_eq_nil_iff (ring : EventRing) :
    ring.pending = [] ↔ ring.tail = ring.head := by
  rw [← UInt8.toNat_inj]
  exact Ring.pending_eq_nil_iff ring.tailFits _

theorem EventRing.pending_pop
    {ring : EventRing} (notEmpty : ring.tail ≠ ring.head) :
    ring.pending =
      ring.eventQueue ring.tail.toNat :: ring.pop.pending := by
  rw [← UInt8.toNat_inj.ne] at notEmpty
  rw [EventRing.pending, EventRing.pending, EventRing.pop, nextIndex_toNat]
  exact Ring.pending_pop ring.headFits ring.tailFits _ notEmpty

/-! ## The ring of the state table -/

/-! ## Subscriptions -/

def eventTypeMax : Nat := 5

def eventBusMaxHandlers : UInt8 := 8

/-- `event_route_t`; a pointer may be null. -/
structure EventRoute (Handler : Type) where
  handlers : Nat → Option Handler
  count : UInt8

/-- The routes after `event_bus_init`. -/
def routesInit : Nat → EventRoute Handler :=
  fun _ => { handlers := fun _ => none, count := 0 }

/-- A call of `event_bus_subscribe`. -/
structure Subscription (Handler : Type) where
  type : UInt32
  handler : Option Handler

def eventBusSubscribe (routes : Nat → EventRoute Handler)
    (subscription : Subscription Handler) : Nat → EventRoute Handler :=
  let type := subscription.type.toNat
  if eventTypeMax ≤ type then routes
  else if eventBusMaxHandlers ≤ (routes type).count then routes
  else
    Function.update routes type
      { handlers :=
          Function.update (routes type).handlers (routes type).count.toNat
            subscription.handler
        count := (routes type).count + 1 }

/-- The routes after some subscriptions. -/
def routesOf (subscriptions : List (Subscription Handler)) :
    Nat → EventRoute Handler :=
  subscriptions.foldl eventBusSubscribe routesInit

/-- The handlers that subscribed to a type, in order, up to the size of its
route. -/
def subscribedTo (subscriptions : List (Subscription Handler))
    (type : Nat) : List (Option Handler) :=
  ((subscriptions.filter fun subscription =>
      subscription.type.toNat = type).map Subscription.handler).take
    eventBusMaxHandlers.toNat

theorem subscribedTo_append
    (earlier : List (Subscription Handler))
    (subscription : Subscription Handler) (type : Nat) :
    subscribedTo (earlier ++ [subscription]) type =
      if subscription.type.toNat = type then
        (subscribedTo earlier type ++ [subscription.handler]).take
          eventBusMaxHandlers.toNat
      else subscribedTo earlier type := by
  rw [subscribedTo, List.filter_append, List.map_append]
  split
  · next own =>
      have kept :
          [subscription].filter
              (fun subscription => subscription.type.toNat = type) =
            [subscription] :=
        List.filter_cons_of_pos (by simpa using own)
      have room (length : Nat) :
          eventBusMaxHandlers.toNat - min eventBusMaxHandlers.toNat length =
            eventBusMaxHandlers.toNat - length := by
        omega
      rw [kept, subscribedTo, List.take_append, List.take_append,
        List.take_take, Nat.min_self, List.length_take, room]
      rfl
  · next other =>
      have skipped :
          [subscription].filter
              (fun subscription => subscription.type.toNat = type) =
            [] :=
        List.filter_cons_of_neg (by simpa using other)
      rw [skipped, List.map_nil, List.append_nil, subscribedTo]

/-- A subscription stores its handler behind those of its type while there is
room. -/
theorem eventBusSubscribe_listed
    (routes : Nat → EventRoute Handler)
    (subscription : Subscription Handler) {type : Nat}
    (valid : type < eventTypeMax)
    (fits : (routes type).count.toNat ≤ eventBusMaxHandlers.toNat) :
    ArrayList.listed (eventBusSubscribe routes subscription type).handlers
        (eventBusSubscribe routes subscription type).count.toNat =
      if subscription.type.toNat = type then
        (ArrayList.listed (routes type).handlers
            (routes type).count.toNat ++ [subscription.handler]).take
          eventBusMaxHandlers.toNat
      else
        ArrayList.listed (routes type).handlers
          (routes type).count.toNat := by
  unfold eventBusSubscribe
  by_cases own : subscription.type.toNat = type
  · simp only [own, Nat.not_le_of_lt valid, if_false, if_true]
    split
    · next full =>
        have isFull := Nat.le_antisymm fits (UInt8.le_iff_toNat_le.mp full)
        rw [List.take_append_of_le_length, List.take_of_length_le]
        · rw [ArrayList.listed_length]
          exact fits
        · rw [ArrayList.listed_length]
          exact Nat.le_of_eq isFull.symm
    · next free =>
        rw [UInt8.not_le, UInt8.lt_iff_toNat_lt] at free
        have room : eventBusMaxHandlers.toNat = 8 := rfl
        have next :
            ((routes type).count + 1).toNat =
              (routes type).count.toNat + 1 := by
          rw [UInt8.toNat_add]
          exact Nat.mod_eq_of_lt (by show _ + 1 < 256; omega)
        rw [Function.update_self, next, ArrayList.listed_push,
          List.take_of_length_le]
        rw [List.length_append, ArrayList.listed_length]
        exact free
  · rw [if_neg own]
    split
    · rfl
    · split
      · rfl
      · rw [Function.update_of_ne (Ne.symm own)]

theorem routesOf_listed
    (subscriptions : List (Subscription Handler)) {type : Nat}
    (valid : type < eventTypeMax) :
    ArrayList.listed (routesOf subscriptions type).handlers
        (routesOf subscriptions type).count.toNat =
      subscribedTo subscriptions type := by
  induction subscriptions using List.reverseRecOn with
  | nil => rfl
  | append_singleton earlier subscription induction =>
      have fits :
          (routesOf earlier type).count.toNat ≤
            eventBusMaxHandlers.toNat := by
        have length := congrArg List.length induction
        rw [ArrayList.listed_length] at length
        rw [length]
        exact List.length_take_le _ _
      have stored :=
        eventBusSubscribe_listed (routesOf earlier) subscription valid fits
      rw [routesOf, List.foldl_append, List.foldl_cons, List.foldl_nil,
        ← routesOf, stored, induction, subscribedTo_append]

/-! ## The dispatcher -/

/-- Where `event_bus_dispatch_budgeted` is: not called, before a round of its
loop, or before a round of the loop over the handlers of an event. -/
inductive Dispatcher where
  | idle
  | looping (maxEvents processed : UInt8)
  | delivering (maxEvents processed : UInt8) (ev : EventRecord)
      (h count : UInt8) (counted : processed < maxEvents)

/-- The state of `event_bus.c`. -/
structure EventBusState where
  ring : EventRing
  dispatcher : Dispatcher

/-- After `event_bus_init`, whatever the slots of the queue hold. -/
def EventBusState.init (eventQueue : Nat → EventRecord) : EventBusState where
  ring := EventRing.init eventQueue
  dispatcher := .idle

/-- A call of a handler with an event; a null pointer is not called. -/
def handlerCall (ev : EventRecord) (handler : Option Handler) :
    Option (Handler × EventRecord) :=
  handler.map fun handler => (handler, ev)

/-- How many handlers the dispatcher finds for an event. -/
def routeCount (routes : Nat → EventRoute Handler) (ev : EventRecord) :
    UInt8 :=
  if ev.type.toNat < eventTypeMax then (routes ev.type.toNat).count else 0

/-- What can happen to the bus: an event is published, the dispatcher is
called, or it takes a step. -/
abbrev BusAction := Dispatch.Action EventRecord UInt8

/-- What an action did; a visit of an event is a call of a handler. -/
abbrev BusOutput (Handler : Type) :=
  Dispatch.Output EventRecord (Option (Handler × EventRecord))

/-- One step of `event_bus_dispatch_budgeted`. -/
def dispatcherStep (routes : Nat → EventRoute Handler) (ring : EventRing) :
    Dispatcher → EventBusState × BusOutput Handler
  | .idle => ({ ring := ring, dispatcher := .idle }, .idle)
  | .looping maxEvents processed =>
      if counted : processed < maxEvents then
        if ring.tail = ring.head then
          ({ ring := ring, dispatcher := .idle }, .returned)
        else
          let ev := ring.eventQueue ring.tail.toNat
          ({ ring := ring.pop
             dispatcher :=
              .delivering maxEvents processed ev 0 (routeCount routes ev)
                counted }, .taken ev)
      else ({ ring := ring, dispatcher := .idle }, .returned)
  | .delivering maxEvents processed ev h count counted =>
      if h < count then
        ({ ring := ring
           dispatcher :=
            .delivering maxEvents processed ev (h + 1) count counted },
          .visited (handlerCall ev ((routes ev.type.toNat).handlers h.toNat)))
      else
        ({ ring := ring
           dispatcher := .looping maxEvents (processed + 1) }, .finished)

/-- One action on the bus. -/
def busStep (routes : Nat → EventRoute Handler) (bus : EventBusState) :
    BusAction → EventBusState × BusOutput Handler
  | .publish event =>
      ({ bus with ring := bus.ring.eventBusPublish event },
        if nextIndex bus.ring.head = bus.ring.tail then .dropped event
        else .accepted event)
  | .dispatch maxEvents =>
      match bus.dispatcher with
      | .idle =>
          if maxEvents = 0 then (bus, .returned)
          else
            ({ bus with dispatcher := .looping maxEvents 0 }, .started)
      | _ => (bus, .idle)
  | .advance => dispatcherStep routes bus.ring bus.dispatcher

/-! ## The bus as a bounded queue -/

section

variable (routes : Nat → EventRoute Handler)

/-- The calls that a round over some cells of a route makes. -/
def routeCalls (ev : EventRecord) (count : UInt8) :
    List (Option (Handler × EventRecord)) :=
  (ArrayList.listed (routes ev.type.toNat).handlers count.toNat).map
    (handlerCall ev)

/-- The queue that the bus is. -/
def busRules :
    Dispatch.Rules EventRecord (Option (Handler × EventRecord)) UInt8 where
  capacity := 63
  visits ev := routeCalls routes ev (routeCount routes ev)
  amount := UInt8.toNat

/-- What is left of a call of the dispatcher. -/
def Dispatcher.call :
    Dispatcher → Option (Dispatch.Call (Option (Handler × EventRecord)))
  | .idle => none
  | .looping maxEvents processed =>
      some
        { remaining := maxEvents.toNat - processed.toNat
          visits := none }
  | .delivering maxEvents processed ev h count _ =>
      some
        { remaining := maxEvents.toNat - (processed.toNat + 1)
          visits := some ((routeCalls routes ev count).drop h.toNat) }

/-- The queue in a state of the bus. -/
def EventBusState.queue (bus : EventBusState) :
    Dispatch.State EventRecord (Option (Handler × EventRecord)) where
  waiting := bus.ring.pending
  call := bus.dispatcher.call routes

theorem succ_toNat {index limit : UInt8} (less : index < limit) :
    (index + 1).toNat = index.toNat + 1 := by
  rw [UInt8.lt_iff_toNat_lt] at less
  have small := limit.toNat_lt
  rw [UInt8.toNat_add]
  exact Nat.mod_eq_of_lt (by show _ + 1 < 2 ^ 8; omega)

theorem publish_refines (bus : EventBusState) (event : EventRecord) :
    Prod.map (EventBusState.queue routes) id
        (busStep routes bus (.publish event)) =
      Dispatch.step (busRules routes) (bus.queue routes)
        (.publish event) := by
  have full := bus.ring.pending_length_eq_iff
  simp only [busStep, Dispatch.step, EventRing.eventBusPublish, busRules,
    EventBusState.queue, full, Prod.map_apply, id]
  split
  · rfl
  · next room => rw [EventRing.push_pending room]

theorem dispatch_refines (bus : EventBusState) (maxEvents : UInt8) :
    Prod.map (EventBusState.queue routes) id
        (busStep routes bus (.dispatch maxEvents)) =
      Dispatch.step (busRules routes) (bus.queue routes)
        (.dispatch maxEvents) := by
  rcases bus with ⟨ring, _ | ⟨limit, processed⟩ | ⟨limit, processed⟩⟩
  · have zero : maxEvents.toNat = 0 ↔ maxEvents = 0 :=
      UInt8.toNat_inj (b := 0)
    simp only [busStep, Dispatch.step, EventBusState.queue,
      Dispatcher.call, busRules, zero]
    by_cases nothing : maxEvents = 0
    · rw [if_pos nothing, if_pos nothing]
      rfl
    · rw [if_neg nothing, if_neg nothing]
      rfl
  · rfl
  · rfl

theorem looping_refines
    (ring : EventRing) (maxEvents processed : UInt8) :
    Prod.map (EventBusState.queue routes) id
        (dispatcherStep routes ring (.looping maxEvents processed)) =
      Dispatch.advance (busRules routes) ring.pending
        { remaining := maxEvents.toNat - processed.toNat
          visits := none } := by
  rw [dispatcherStep]
  split
  · next counted =>
      rw [UInt8.lt_iff_toNat_lt] at counted
      have left :
          maxEvents.toNat - processed.toNat =
            maxEvents.toNat - (processed.toNat + 1) + 1 := by
        omega
      rw [left]
      split
      · next empty =>
          have none := ring.pending_eq_nil_iff.mpr empty
          rw [none]
          simp only [Dispatch.advance, Prod.map_apply, id,
            EventBusState.queue, Dispatcher.call, none]
      · next notEmpty =>
          rw [EventRing.pending_pop notEmpty]
          rfl
  · next done =>
      rw [UInt8.not_lt, UInt8.le_iff_toNat_le] at done
      rw [Nat.sub_eq_zero_of_le done]
      rfl

theorem delivering_refines
    (ring : EventRing) {maxEvents processed : UInt8} (ev : EventRecord)
    (h count : UInt8) (counted : processed < maxEvents) :
    Prod.map (EventBusState.queue routes) id
        (dispatcherStep routes ring
          (.delivering maxEvents processed ev h count counted)) =
      Dispatch.advance (busRules routes) ring.pending
        { remaining := maxEvents.toNat - (processed.toNat + 1)
          visits := some ((routeCalls routes ev count).drop h.toNat) } := by
  have length : (routeCalls routes ev count).length = count.toNat := by
    rw [routeCalls, List.length_map, ArrayList.listed_length]
  rw [dispatcherStep]
  split
  · next more =>
      have next := succ_toNat more
      rw [UInt8.lt_iff_toNat_lt, ← length] at more
      have here :
          (routeCalls routes ev count)[h.toNat] =
            handlerCall ev
              ((routes ev.type.toNat).handlers h.toNat) := by
        simp [routeCalls, ArrayList.listed]
      rw [List.drop_eq_getElem_cons more, here, ← next]
      rfl
  · next done =>
      rw [UInt8.not_lt, UInt8.le_iff_toNat_le] at done
      rw [List.drop_of_length_le (by rw [length]; exact done)]
      simp only [Dispatch.advance, Prod.map_apply, id,
        EventBusState.queue, Dispatcher.call, succ_toNat counted]

/-- Every action does to the bus what it does to a bounded queue with one
dispatcher. -/
theorem busStep_refines :
    Run.Refines (busStep routes) (Dispatch.step (busRules routes))
      (EventBusState.queue routes) := by
  intro bus action
  cases action with
  | publish event => exact publish_refines routes bus event
  | dispatch maxEvents => exact dispatch_refines routes bus maxEvents
  | advance =>
      rcases bus with ⟨ring, _ | ⟨maxEvents, processed⟩ |
        ⟨maxEvents, processed, ev, h, count, counted⟩⟩
      · rfl
      · exact looping_refines routes ring maxEvents processed
      · exact delivering_refines routes ring ev h count counted

theorem dispatcher_busy_iff (bus : EventBusState) :
    bus.dispatcher ≠ .idle ↔ (bus.queue routes).call ≠ none := by
  rcases bus with ⟨ring, _ | _ | _⟩
  · exact iff_of_false (fun busy => busy rfl) (fun busy => busy rfl)
  · exact iff_of_true nofun nofun
  · exact iff_of_true nofun nofun

theorem busy_lasts_iff (bus : EventBusState) (during : List BusAction) :
    Dispatch.Lasts (busStep routes) (fun bus => bus.dispatcher ≠ .idle) bus
        during ↔
      Dispatch.Lasts (Dispatch.step (busRules routes))
        (fun state => state.call ≠ none) (bus.queue routes) during :=
  Dispatch.lasts_iff_of_refines (busStep_refines routes)
    (dispatcher_busy_iff routes) bus during

/-- The handler calls that are left of the event that was taken last. -/
def Dispatcher.callsLeft : Dispatcher → List (Handler × EventRecord)
  | .idle => []
  | .looping _ _ => []
  | .delivering _ _ ev h count _ =>
      ((routeCalls routes ev count).drop h.toNat).filterMap id

theorem inFlight_calls (bus : EventBusState) :
    (bus.queue routes).inFlight.filterMap id =
      bus.dispatcher.callsLeft routes := by
  rcases bus with ⟨ring, _ | _ | _⟩
  · rfl
  · rfl
  · rfl

end

/-! ## Delivery -/

/-- The handler calls that were made, in order. -/
def called (outputs : List (BusOutput Handler)) :
    List (Handler × EventRecord) :=
  (Dispatch.visited outputs).filterMap id

/-- The calls of all handlers that subscribed to the type of an event, in the
order in which they subscribed. -/
def eventCalls (subscriptions : List (Subscription Handler))
    (ev : EventRecord) : List (Handler × EventRecord) :=
  if ev.type.toNat < eventTypeMax then
    (subscribedTo subscriptions ev.type.toNat).filterMap (handlerCall ev)
  else []

section

variable (subscriptions : List (Subscription Handler))

theorem visits_subscribed (ev : EventRecord) :
    (busRules (routesOf subscriptions)).visits ev =
      if ev.type.toNat < eventTypeMax then
        (subscribedTo subscriptions ev.type.toNat).map (handlerCall ev)
      else [] := by
  show routeCalls _ ev _ = _
  rw [routeCalls, routeCount]
  split
  · next valid => rw [routesOf_listed subscriptions valid]
  · rfl

theorem visits_calls (events : List EventRecord) :
    (events.flatMap (busRules (routesOf subscriptions)).visits).filterMap id =
      events.flatMap (eventCalls subscriptions) := by
  rw [List.filterMap_flatMap]
  apply List.flatMap_congr
  intro ev _
  rw [visits_subscribed, eventCalls]
  split
  · exact List.filterMap_map
  · rfl

theorem visits_length_le (ev : EventRecord) :
    ((busRules (routesOf subscriptions)).visits ev).length ≤ 8 := by
  rw [visits_subscribed]
  split
  · rw [List.length_map]
    exact List.length_take_le _ _
  · exact Nat.zero_le _

/-- What one call of the dispatcher does: it takes as many of the events that
wait or come meanwhile as its budget allows, oldest first, and calls all
handlers of each. -/
structure ServesCall (bus : EventBusState) (maxEvents : UInt8)
    (outputs : List (BusOutput Handler)) : Prop where
  oldest :
    Dispatch.taken outputs =
      (bus.ring.pending ++ Dispatch.accepted outputs).take maxEvents.toNat
  count :
    (Dispatch.taken outputs).length =
      min maxEvents.toNat (bus.ring.pending ++ Dispatch.accepted outputs).length
  handlers :
    called outputs = (Dispatch.taken outputs).flatMap (eventCalls subscriptions)

variable {bus : EventBusState}

theorem dispatch_opened
    (routes : Nat → EventRoute Handler)
    (idle : bus.dispatcher = .idle)
    (maxEvents : UInt8) :
    ((busStep routes bus (.dispatch maxEvents)).1.queue routes).waiting =
        bus.ring.pending ∧
    ((busStep routes bus (.dispatch maxEvents)).1.queue routes).left =
        maxEvents.toNat ∧
    ((busStep routes bus (.dispatch maxEvents)).1.queue routes).inFlight = [] ∧
    ((busStep routes bus
        (.dispatch maxEvents)).1.queue routes).work 8 ≤
      maxEvents.toNat * 10 + 1 := by
  have free : (bus.queue routes).call = none := by
    rw [EventBusState.queue, idle]
    rfl
  have opened :=
    congrArg Prod.fst (busStep_refines routes bus (.dispatch maxEvents))
  have begins := Dispatch.dispatch_opens (busRules routes) free maxEvents 8
  rw [← opened] at begins
  exact begins

theorem dispatch_serves
    (idle : bus.dispatcher = .idle)
    {maxEvents : UInt8} {during : List BusAction}
    (lasts :
      Dispatch.Lasts (busStep (routesOf subscriptions))
        (fun bus => bus.dispatcher ≠ .idle)
        (busStep (routesOf subscriptions) bus (.dispatch maxEvents)).1
        during) :
    ServesCall subscriptions bus maxEvents
      (Dispatch.outputs (busStep (routesOf subscriptions))
        (busStep (routesOf subscriptions) bus (.dispatch maxEvents)).1
        during) := by
  have running := (busy_lasts_iff (routesOf subscriptions) _ _).mp lasts
  rcases dispatch_opened (routesOf subscriptions) idle maxEvents with
    ⟨waiting, left, none, -⟩
  have oldest := Dispatch.taken_eq_take _ running
  have count := Dispatch.taken_length _ running
  have visits := Dispatch.visited_of_lasts _ running
  rw [none, List.nil_append] at visits
  rw [waiting, left] at oldest count
  have same :=
    (busStep_refines (routesOf subscriptions)).outputs
      (busStep (routesOf subscriptions) bus (.dispatch maxEvents)).1 during
  rw [Dispatch.outputs, same]
  refine ⟨oldest, count, ?_⟩
  rw [← visits_calls, ← Dispatch.outputs, visits]
  rfl

theorem dispatch_returns
    (idle : bus.dispatcher = .idle)
    {maxEvents : UInt8} {during : List BusAction}
    (enough :
      maxEvents.toNat * 10 + 1 ≤ during.countP Dispatch.Action.isAdvance) :
    ∃ earlier later,
      during = earlier ++ later ∧
      Dispatch.Lasts (busStep (routesOf subscriptions))
        (fun bus => bus.dispatcher ≠ .idle)
        (busStep (routesOf subscriptions) bus (.dispatch maxEvents)).1
        earlier := by
  rcases dispatch_opened (routesOf subscriptions) idle maxEvents with
    ⟨-, -, -, work⟩
  rcases
    Dispatch.call_returns _ (visits_length_le subscriptions)
      (Nat.le_trans work enough) with
    ⟨earlier, later, rfl, running⟩
  exact
    ⟨earlier, later, rfl,
      (busy_lasts_iff (routesOf subscriptions) _ _).mpr running⟩

/--
In every run of the event bus the handlers are called with the accepted events
in the order in which they were published, each handler of the type once and
in the order of subscription; what was not called yet is left of the event
that is being delivered, or belongs to the events that wait.  An event is
dropped exactly when 63 events wait.  A call of the dispatcher takes as many
events as its budget allows of those that wait or come meanwhile, and it is
over once the dispatcher has taken enough steps.
-/
theorem event_bus_bounded_fifo
    (eventQueue : Nat → EventRecord) (actions : List BusAction) :
    let routes := routesOf subscriptions
    let start := EventBusState.init eventQueue
    let outputs := Dispatch.outputs (busStep routes) start actions
    let bus := Run.final (busStep routes) start actions
    (Dispatch.accepted outputs).flatMap (eventCalls subscriptions) =
        called outputs ++ bus.dispatcher.callsLeft routes ++
          bus.ring.pending.flatMap (eventCalls subscriptions) ∧
    (∀ event,
      (busStep routes bus (.publish event)).2 = .dropped event ↔
      bus.ring.pending.length = 63) ∧
    ∀ maxEvents, bus.dispatcher = .idle →
    (∀ during,
      Dispatch.Lasts (busStep routes)
          (fun bus => bus.dispatcher ≠ .idle)
          (busStep routes bus (.dispatch maxEvents)).1 during →
        ServesCall subscriptions bus maxEvents
          (Dispatch.outputs (busStep routes)
            (busStep routes bus (.dispatch maxEvents)).1 during)) ∧
      ∀ during : List BusAction,
        maxEvents.toNat * 10 + 1 ≤
            during.countP Dispatch.Action.isAdvance →
          ∃ earlier later,
            during = earlier ++ later ∧
            Dispatch.Lasts (busStep routes)
              (fun bus => bus.dispatcher ≠ .idle)
              (busStep routes bus (.dispatch maxEvents)).1
              earlier := by
  intro routes start outputs bus
  have refines : Run.Refines _ _ _ := busStep_refines routes
  refine ⟨?_, ?_, ?_⟩
  · have empty : (start.queue routes).waiting = [] :=
      (EventRing.pending_eq_nil_iff _).mpr rfl
    have delivery :=
      Dispatch.run_delivery (busRules routes) (start.queue routes) actions
    have same :
        outputs =
          Dispatch.outputs (Dispatch.step (busRules routes))
            (start.queue routes) actions :=
      refines.outputs start actions
    rw [← same, ← refines.final start actions, empty] at delivery
    rw [List.nil_append] at delivery
    have calls := congrArg (List.filterMap id) delivery
    simp only [List.filterMap_append, inFlight_calls] at calls
    rw [← visits_calls, ← visits_calls]
    exact calls
  · intro event
    have published := congrArg Prod.snd (refines bus (.publish event))
    have dropped :=
      Dispatch.publish_dropped_iff (busRules routes) (bus.queue routes) event
    rw [← published] at dropped
    exact dropped
  · intro maxEvents idle
    exact
      ⟨fun during lasts => dispatch_serves subscriptions idle lasts,
        fun during enough => dispatch_returns subscriptions idle enough⟩

end

/-- An event that its own handler publishes is delivered by the same call. -/
example :
    called
        (Dispatch.outputs
          (busStep (routesOf [{ type := 1, handler := some true }]))
          (EventBusState.init fun _ => ⟨0, 0, 0⟩)
          [.publish ⟨1, 10, 1⟩, .dispatch 2, .advance, .advance,
            .publish ⟨1, 11, 1⟩, .advance, .advance, .advance]) =
      [(true, ⟨1, 10, 1⟩), (true, ⟨1, 11, 1⟩)] := by
  decide +kernel

end Endap.State
