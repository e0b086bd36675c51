import Endap.Cluster.Liveness
import Endap.Cluster.Ownership
import Endap.Failsafe.Faults

/-!
# Failover

The failover component listens to the events of the cluster manager.  It moves
the ownership of the cluster's inputs and outputs and, when a node registered
as a gateway is lost, applies the comm-loss action of every local output.

Several nodes may change state in one refresh.  The events are handled in
order; a lost gateway among them puts every enabled output in its safe state,
wherever it stands in the order, and the events of other nodes touch no value
of the state table.
-/

namespace Endap.Cluster

open Endap.Failsafe
open Endap.Library
open Endap.State

/-! ## The node registry -/

def nodeRegistryMaxNodes : Nat := 10

/-- The fields of `node_registry_entry_t` that failover reads. -/
structure NodeRegistryEntry where
  nodeId : UInt32
  profile : String

/-- The entries of `node_registry.c`. -/
structure NodeRegistry where
  entries : List NodeRegistryEntry
  fits : entries.length = nodeRegistryMaxNodes

/-- The inner loop of the sort in `node_registry_export`: the least entry so
far is exchanged with every smaller one. -/
def exchangePass (least : NodeRegistryEntry) :
    List NodeRegistryEntry → NodeRegistryEntry × List NodeRegistryEntry
  | [] => (least, [])
  | entry :: rest =>
      if entry.nodeId < least.nodeId then
        let passed := exchangePass entry rest
        (passed.1, least :: passed.2)
      else
        let passed := exchangePass least rest
        (passed.1, entry :: passed.2)

theorem exchangePass_perm
    (least : NodeRegistryEntry) (entries : List NodeRegistryEntry) :
    ((exchangePass least entries).1 :: (exchangePass least entries).2).Perm
      (least :: entries) := by
  induction entries generalizing least with
  | nil => exact List.Perm.refl _
  | cons entry rest induction =>
      rw [exchangePass]
      split
      · exact (List.Perm.swap _ _ _).trans ((induction entry).cons least)
      · exact (List.Perm.swap _ _ _).trans
          (((induction least).cons entry).trans (List.Perm.swap _ _ _))

theorem exchangePass_length
    (least : NodeRegistryEntry) (entries : List NodeRegistryEntry) :
    (exchangePass least entries).2.length = entries.length :=
  Nat.succ.inj (exchangePass_perm least entries).length_eq

/-- The sort of `node_registry_export`. -/
def exchangeSort : List NodeRegistryEntry → List NodeRegistryEntry
  | [] => []
  | entry :: rest =>
      (exchangePass entry rest).1 ::
        exchangeSort (exchangePass entry rest).2
termination_by entries => entries.length
decreasing_by
  rw [exchangePass_length]
  exact Nat.lt_succ_self _

theorem exchangeSort_perm (entries : List NodeRegistryEntry) :
    (exchangeSort entries).Perm entries := by
  induction length : entries.length generalizing entries with
  | zero =>
      rw [List.length_eq_zero_iff.mp length, exchangeSort]
  | succ count induction =>
      cases entries with
      | nil => cases length
      | cons entry rest =>
          rw [exchangeSort]
          have sorted :=
            induction (exchangePass entry rest).2
              ((exchangePass_length entry rest).trans
                (Nat.succ.inj length))
          exact (sorted.cons _).trans (exchangePass_perm entry rest)

def nodeRegistryExport (registry : NodeRegistry) (maxEntries : Nat) :
    List NodeRegistryEntry :=
  exchangeSort
    ((registry.entries.filter fun entry => entry.nodeId ≠ 0).take
      maxEntries)

def clusterFailoverNodeIsRegisteredGateway
    (registry : NodeRegistry) (nodeId : UInt32) : Bool :=
  (nodeRegistryExport registry nodeRegistryMaxNodes).any fun entry =>
    entry.nodeId = nodeId ∧ entry.profile = "gateway"

/-- The node is in the registry with the profile of a gateway. -/
def NodeRegistry.HasGateway (registry : NodeRegistry) (nodeId : UInt32) :
    Prop :=
  nodeId ≠ 0 ∧
    ∃ entry ∈ registry.entries,
      entry.nodeId = nodeId ∧ entry.profile = "gateway"

theorem isRegisteredGateway_iff
    (registry : NodeRegistry) (nodeId : UInt32) :
    clusterFailoverNodeIsRegisteredGateway registry nodeId = true ↔
      registry.HasGateway nodeId := by
  have all :
      (registry.entries.filter fun entry => entry.nodeId ≠ 0).take
          nodeRegistryMaxNodes =
        registry.entries.filter fun entry => entry.nodeId ≠ 0 := by
    apply List.take_of_length_le
    rw [← registry.fits]
    exact List.length_filter_le _ _
  rw [clusterFailoverNodeIsRegisteredGateway, nodeRegistryExport, all,
    List.any_eq_true]
  constructor
  · rintro ⟨entry, member, isGateway⟩
    have inTable :=
      List.mem_filter.mp ((exchangeSort_perm _).mem_iff.mp member)
    rcases of_decide_eq_true isGateway with ⟨rfl, profile⟩
    exact ⟨of_decide_eq_true inTable.2, entry, inTable.1, rfl, profile⟩
  · rintro ⟨known, entry, member, rfl, profile⟩
    refine ⟨entry, ?_, decide_eq_true ⟨rfl, profile⟩⟩
    exact (exchangeSort_perm _).mem_iff.mpr
      (List.mem_filter.mpr ⟨member, decide_eq_true known⟩)

/-! ## The event handler -/

structure ProtocolOutputCommand where
  targetNode : UInt32
  requesterNode : UInt32
  outputId : UInt16
  value : Int32

/-- `protocol_msg_t`, a frame handed to the transport. -/
inductive ProtocolMsg where
  | ioUpdate (update : ProtocolClusterIoUpdate)
  | outputCommand (command : ProtocolOutputCommand)

def clusterIoSyncStateToNode
    (io : ClusterIo) (store : StateStore) (nodeId : UInt32) :
    List ProtocolOutputCommand :=
  if nodeId = io.selfNode then []
  else
    io.ioTable.filterMap fun entry =>
      if entry.valid ≠ 0 ∧ entry.owner = nodeId then
        (stateGetInt store entry.ioId.toUInt16).map fun value =>
          { targetNode := nodeId
            requesterNode := io.selfNode
            outputId := entry.ioId.toUInt16
            value := value }
      else none

/-- What failover reads and changes.  The failover component and the manager
are started with the same identity. -/
structure FailoverWorld where
  manager : ClusterManager
  io : ClusterIo
  registry : NodeRegistry
  failsafe : FailsafeTable
  store : StateStore
  frames : List ProtocolMsg
  selfNode : UInt32
  sameSelf : manager.selfNodeId = selfNode

/-- `cluster_failover_apply_local_failsafe_if_gateway_lost`. -/
def applyLocalFailsafeIfGatewayLost
    (world : FailoverWorld) (nodeId : UInt32) (reason : FailsafeReason) :
    FailoverWorld :=
  if nodeId = world.selfNode then world
  else if clusterFailoverNodeIsRegisteredGateway world.registry nodeId then
    let applied :=
      failsafeApplyForReasonAll world.failsafe world.store reason
    { world with failsafe := applied.1, store := applied.2 }
  else world

def clusterFailoverEventHandler
    (world : FailoverWorld) (event : ClusterEvent) : FailoverWorld :=
  match event.type with
  | .nodeOffline =>
      if event.nodeId = world.selfNode then world
      else
        let safe :=
          applyLocalFailsafeIfGatewayLost world event.nodeId .nodeOffline
        let moved :=
          clusterIoHandleNodeOffline (clusterGetMasterNode safe.manager)
            safe.io event.nodeId
        { safe with
          io := moved.1
          frames := safe.frames ++ moved.2.map .ioUpdate }
  | .nodeOnline =>
      if event.nodeId = world.selfNode then world
      else
        let moved := clusterIoHandleNodeOnline world.io event.nodeId
        { world with
          io := moved.1
          frames :=
            world.frames ++ moved.2.map .ioUpdate ++
              (clusterIoSyncStateToNode moved.1 world.store
                event.nodeId).map .outputCommand }
  | .nodeSuspect =>
      applyLocalFailsafeIfGatewayLost world event.nodeId .commLoss
  | .nodeDiscovered => world

/-- `cluster_manager_process` with failover as the subscriber of its events. -/
def clusterProcess (world : FailoverWorld) (micros refreshMicros : Nat) :
    FailoverWorld :=
  let processed :=
    clusterManagerProcess world.manager micros refreshMicros
  processed.2.foldl clusterFailoverEventHandler
    { world with
      manager := processed.1
      sameSelf :=
        (call_selfNodeId world.manager
          (.process micros refreshMicros)).trans world.sameSelf }

/-! ## What an event does to the outputs -/

/-- The event reports that another node, a registered gateway, is suspect or
offline. -/
structure LosesGateway (registry : NodeRegistry) (selfNode : UInt32)
    (event : ClusterEvent) : Prop where
  lost : event.type = .nodeSuspect ∨ event.type = .nodeOffline
  other : event.nodeId ≠ selfNode
  gateway : registry.HasGateway event.nodeId

variable {world : FailoverWorld}

theorem applyLocalFailsafe_gateway
    {nodeId : UInt32}
    (other : nodeId ≠ world.selfNode)
    (gateway : world.registry.HasGateway nodeId) (reason : FailsafeReason) :
    applyLocalFailsafeIfGatewayLost world nodeId reason =
      { world with
        failsafe :=
          (failsafeApplyForReasonAll world.failsafe world.store reason).1
        store :=
          (failsafeApplyForReasonAll world.failsafe world.store
            reason).2 } := by
  rw [applyLocalFailsafeIfGatewayLost, if_neg other,
    if_pos ((isRegisteredGateway_iff _ _).mpr gateway)]

theorem applyLocalFailsafe_other
    {nodeId : UInt32}
    (notLost :
      ¬ (nodeId ≠ world.selfNode ∧ world.registry.HasGateway nodeId))
    (reason : FailsafeReason) :
    applyLocalFailsafeIfGatewayLost world nodeId reason = world := by
  rw [applyLocalFailsafeIfGatewayLost]
  split
  · rfl
  · next other =>
      have notGateway : ¬ world.registry.HasGateway nodeId :=
        fun gateway => notLost ⟨other, gateway⟩
      rw [if_neg (mt (isRegisteredGateway_iff _ _).mp notGateway)]

variable {event : ClusterEvent}

theorem handler_gateway
    (loses : LosesGateway world.registry world.selfNode event) :
    ∃ reason,
      reason.losesComm = true ∧
        ((clusterFailoverEventHandler world event).failsafe,
            (clusterFailoverEventHandler world event).store) =
          failsafeApplyForReasonAll world.failsafe world.store reason := by
  rw [clusterFailoverEventHandler]
  rcases loses.lost with suspect | offline
  · refine ⟨.commLoss, rfl, ?_⟩
    simp only [suspect]
    rw [applyLocalFailsafe_gateway loses.other loses.gateway]
  · refine ⟨.nodeOffline, rfl, ?_⟩
    simp only [offline, if_neg loses.other]
    rw [applyLocalFailsafe_gateway loses.other loses.gateway]

theorem handler_not_gateway
    (keeps : ¬ LosesGateway world.registry world.selfNode event) :
    (clusterFailoverEventHandler world event).failsafe = world.failsafe ∧
      (clusterFailoverEventHandler world event).store = world.store := by
  rw [clusterFailoverEventHandler]
  cases type : event.type with
  | nodeOnline =>
      simp only
      split
      · exact ⟨rfl, rfl⟩
      · exact ⟨rfl, rfl⟩
  | nodeSuspect =>
      have notLost :
          ¬ (event.nodeId ≠ world.selfNode ∧
            world.registry.HasGateway event.nodeId) :=
        fun both => keeps ⟨Or.inl type, both.1, both.2⟩
      simp only [applyLocalFailsafe_other notLost, and_self]
  | nodeOffline =>
      have notLost :
          ¬ (event.nodeId ≠ world.selfNode ∧
            world.registry.HasGateway event.nodeId) :=
        fun both => keeps ⟨Or.inr type, both.1, both.2⟩
      simp only [applyLocalFailsafe_other notLost]
      split
      · exact ⟨rfl, rfl⟩
      · exact ⟨rfl, rfl⟩
  | nodeDiscovered => exact ⟨rfl, rfl⟩

theorem applyLocalFailsafe_registry
    (world : FailoverWorld) (nodeId : UInt32) (reason : FailsafeReason) :
    (applyLocalFailsafeIfGatewayLost world nodeId reason).registry =
        world.registry ∧
      (applyLocalFailsafeIfGatewayLost world nodeId reason).selfNode =
        world.selfNode := by
  rw [applyLocalFailsafeIfGatewayLost]
  split
  · exact ⟨rfl, rfl⟩
  · split
    · exact ⟨rfl, rfl⟩
    · exact ⟨rfl, rfl⟩

theorem handler_registry (world : FailoverWorld) (event : ClusterEvent) :
    (clusterFailoverEventHandler world event).registry = world.registry ∧
      (clusterFailoverEventHandler world event).selfNode =
        world.selfNode := by
  rw [clusterFailoverEventHandler]
  cases event.type with
  | nodeOnline =>
      simp only
      split
      · exact ⟨rfl, rfl⟩
      · exact ⟨rfl, rfl⟩
  | nodeSuspect => exact applyLocalFailsafe_registry world _ _
  | nodeOffline =>
      simp only
      split
      · exact ⟨rfl, rfl⟩
      · exact applyLocalFailsafe_registry world _ _
  | nodeDiscovered => exact ⟨rfl, rfl⟩

/-! ## Events in sequence -/

/-- Every enabled output has its comm-loss value and, under manual recovery,
its latch. -/
def InSafeState (start world : FailoverWorld) : Prop :=
  ∀ outputId entry,
    failsafeFind start.failsafe outputId = some entry →
      entry.policy.enabled ≠ 0 →
        ∃ now,
          failsafeFind world.failsafe outputId = some now ∧
            now.policy = entry.policy ∧ now.active = entry.latches ∧
              stateValue world.store outputId =
                entry.commLossValue (stateValue start.store outputId)

variable {start : FailoverWorld}

/-- Applying a comm-loss reason brings the outputs to the safe state, from
where they were at the start or from the safe state itself. -/
theorem applyForReasonAll_inSafeState
    {after : FailoverWorld} (onDevice : world.failsafe.OnDevice)
    (origin :
      (world.failsafe = start.failsafe ∧ world.store = start.store) ∨
        InSafeState start world)
    {reason : FailsafeReason} (loses : reason.losesComm = true)
    (applied :
      (after.failsafe, after.store) =
        failsafeApplyForReasonAll world.failsafe world.store reason) :
    InSafeState start after := by
  intro outputId entry found enabled
  have isReason : reason ≠ .none := by
    rintro rfl
    cases loses
  rcases origin with ⟨sameTable, sameStore⟩ | safe
  · have view :=
      failsafeApplyForReasonAll_own isReason onDevice world.store
        (sameTable ▸ found) enabled
    rw [← applied, safeValueFor_losesComm loses, sameStore] at view
    rcases Prod.mk.inj view with ⟨entryNow, valueNow⟩
    exact ⟨_, entryNow, rfl, rfl, valueNow⟩
  · rcases safe outputId entry found enabled with
      ⟨now, foundNow, samePolicy, -, value⟩
    have view :=
      failsafeApplyForReasonAll_own isReason onDevice world.store foundNow
        (samePolicy ▸ enabled)
    rw [← applied, safeValueFor_losesComm loses, value] at view
    rcases Prod.mk.inj view with ⟨entryNow, valueNow⟩
    refine ⟨_, entryNow, samePolicy, ?_, ?_⟩
    · show now.latches = entry.latches
      rw [FailsafeEntry.latches, samePolicy, FailsafeEntry.latches]
    · rw [valueNow, FailsafeEntry.commLossValue, samePolicy]
      exact failsafeApplyAction_idem _ _ _

/-- How far the events handled so far have brought the outputs. -/
structure Handled (start world : FailoverWorld) : Prop where
  sameRegistry : world.registry = start.registry
  sameSelf : world.selfNode = start.selfNode
  onDevice : world.failsafe.OnDevice
  outputs :
    (world.failsafe = start.failsafe ∧ world.store = start.store) ∨
      InSafeState start world

/-- One event keeps what earlier events have reached, and a lost gateway
reaches the safe state. -/
theorem handler_handled
    (handled : Handled start world)
    (event : ClusterEvent) :
    Handled start (clusterFailoverEventHandler world event) ∧
      (LosesGateway start.registry start.selfNode event ∨
          InSafeState start world →
        InSafeState start (clusterFailoverEventHandler world event)) := by
  rcases handler_registry world event with ⟨registry, selfNode⟩
  have sameRegistry := registry.trans handled.sameRegistry
  have sameSelf := selfNode.trans handled.sameSelf
  by_cases loses : LosesGateway world.registry world.selfNode event
  · rcases handler_gateway loses with ⟨reason, losesComm, applied⟩
    have safe :=
      applyForReasonAll_inSafeState handled.onDevice handled.outputs
        losesComm applied
    have onDevice :
        (clusterFailoverEventHandler world event).failsafe.OnDevice := by
      rw [show (clusterFailoverEventHandler world event).failsafe = _ from
        congrArg Prod.fst applied]
      exact failsafeApplyForReasonAll_onDevice handled.onDevice _ _
    exact ⟨⟨sameRegistry, sameSelf, onDevice, Or.inr safe⟩, fun _ => safe⟩
  · rcases handler_not_gateway loses with ⟨sameTable, sameStore⟩
    refine ⟨⟨sameRegistry, sameSelf, ?_, ?_⟩, ?_⟩
    · rw [sameTable]
      exact handled.onDevice
    · rw [InSafeState, sameTable, sameStore]
      exact handled.outputs
    · rw [← handled.sameRegistry, ← handled.sameSelf]
      rintro (lost | safe)
      · exact absurd lost loses
      · rw [InSafeState, sameTable, sameStore]
        exact safe

theorem foldl_handled
    (events : List ClusterEvent)
    (handled : Handled start world)
    (reached :
      (∃ event ∈ events,
          LosesGateway start.registry start.selfNode event) ∨
        InSafeState start world) :
    InSafeState start
      (events.foldl clusterFailoverEventHandler world) := by
  induction events generalizing world with
  | nil =>
      rcases reached with ⟨event, member, -⟩ | safe
      · cases member
      · exact safe
  | cons first rest induction =>
      rcases handler_handled handled first with ⟨next, nextSafe⟩
      refine induction next ?_
      rcases reached with ⟨event, member, loses⟩ | safe
      · rcases List.mem_cons.mp member with rfl | later
        · exact Or.inr (nextSafe (Or.inl loses))
        · exact Or.inl ⟨event, later, loses⟩
      · exact Or.inr (nextSafe (Or.inr safe))

theorem foldl_not_gateway
    (events : List ClusterEvent) (world : FailoverWorld)
    (keeps :
      ∀ event ∈ events,
        ¬ LosesGateway world.registry world.selfNode event) :
    (events.foldl clusterFailoverEventHandler world).store =
      world.store := by
  induction events generalizing world with
  | nil => rfl
  | cons first rest induction =>
      rcases handler_registry world first with ⟨registry, selfNode⟩
      have keepsFirst := keeps first (List.mem_cons_self ..)
      rw [List.foldl_cons, induction]
      · exact (handler_not_gateway keepsFirst).2
      · rw [registry, selfNode]
        intro event member
        exact keeps event (List.mem_cons_of_mem _ member)

/-! ## One call of the manager -/

/-- A slot whose state differs between two tables. -/
def Moves (old new : ClusterManager) (before after : TrackedNode) : Prop :=
  ∃ index : Nat,
    old.nodes[index]? = some before ∧ new.nodes[index]? = some after ∧
      before.state ≠ after.state

theorem moves_event
    {manager : ClusterManager} {micros refreshMicros : Nat}
    {before after : TrackedNode}
    (moves :
      Moves manager (clusterManagerProcess manager micros refreshMicros).1
        before after)
    (other : before.nodeId ≠ manager.selfNodeId) :
    { nodeId := before.nodeId, type := .ofState after.state } ∈
      (clusterManagerProcess manager micros refreshMicros).2 := by
  rcases moves with ⟨index, wasBefore, isAfter, changed⟩
  rcases process_cases manager micros refreshMicros with
    ⟨-, same⟩ | ⟨due, -, events⟩
  · rw [same, wasBefore] at isAfter
    rw [Option.some.inj isAfter] at changed
    exact absurd rfl changed
  · rw [process_nodes due, List.getElem?_map, wasBefore] at isAfter
    have isAfter := Option.some.inj isAfter
    rw [events]
    refine List.mem_filterMap.mpr
      ⟨before, List.mem_of_getElem? wasBefore, ?_⟩
    rw [TrackedNode.refreshEvent, isAfter, if_neg]
    exact fun either => either.elim other changed

theorem event_moves
    {manager : ClusterManager} {micros refreshMicros : Nat}
    (member :
      event ∈ (clusterManagerProcess manager micros refreshMicros).2) :
    ∃ before after,
      Moves manager (clusterManagerProcess manager micros refreshMicros).1
          before after ∧
        event.nodeId = before.nodeId := by
  rcases process_cases manager micros refreshMicros with
    ⟨-, same⟩ | ⟨due, -, events⟩
  · rw [same] at member
    cases member
  · rw [events] at member
    rcases List.mem_filterMap.mp member with ⟨before, inTable, published⟩
    rcases List.getElem?_of_mem inTable with ⟨index, wasBefore⟩
    rw [TrackedNode.refreshEvent] at published
    split at published
    · cases published
    · next differs =>
        refine
          ⟨before,
            before.refreshed manager.selfNodeId (nowMs refreshMicros),
            ⟨index, wasBefore, ?_, fun same => differs (Or.inr same)⟩, ?_⟩
        · rw [process_nodes due, List.getElem?_map, wasBefore]
          rfl
        · rw [← Option.some.inj published]

/-- Every enabled output has the value its comm-loss action chooses and, under
manual recovery, is latched. -/
def OutputsSafe (start after : FailoverWorld) : Prop :=
  ∀ entry ∈ start.failsafe.entries.entries,
    entry.policy.enabled ≠ 0 →
      stateValue after.store entry.outputId =
          entry.commLossValue (stateValue start.store entry.outputId) ∧
        (entry.policy.recoveryMode = recoveryManual →
          Latched after.failsafe entry.outputId)

/--
When a refresh moves a registered gateway other than the node itself from
online to suspect or offline, every enabled output has its comm-loss value on
return and every enabled manual policy is latched.  A refresh that moves no
registered gateway, and every single event of a node that is not one, changes
no value.
-/
theorem gateway_loss_drives_outputs_safe
    (world : FailoverWorld) (micros refreshMicros : Nat)
    (onDevice : world.failsafe.OnDevice) :
    (∀ before after,
      Moves world.manager
          (clusterManagerProcess world.manager micros refreshMicros).1
          before after →
        before.nodeId ≠ world.selfNode →
          world.registry.HasGateway before.nodeId →
            before.state = .online →
              after.state = .suspect ∨ after.state = .offline →
                OutputsSafe world
                  (clusterProcess world micros refreshMicros)) ∧
      ((∀ before after,
          Moves world.manager
              (clusterManagerProcess world.manager micros refreshMicros).1
              before after →
            ¬ world.registry.HasGateway before.nodeId) →
        (clusterProcess world micros refreshMicros).store = world.store) ∧
      ∀ (later : FailoverWorld) (event : ClusterEvent),
        ¬ later.registry.HasGateway event.nodeId →
          (clusterFailoverEventHandler later event).store =
            later.store := by
  refine ⟨?_, ?_, ?_⟩
  · intro before after moves other gateway _ lost entry member enabled
    have found : failsafeFind world.failsafe entry.outputId = some entry :=
      KeyedTable.find?_of_mem onDevice.different member
    have published := moves_event moves (world.sameSelf ▸ other)
    have loses :
        LosesGateway world.registry world.selfNode
          { nodeId := before.nodeId, type := .ofState after.state } := by
      refine ⟨?_, other, gateway⟩
      rcases lost with suspect | offline
      · exact Or.inl (congrArg ClusterEventType.ofState suspect)
      · exact Or.inr (congrArg ClusterEventType.ofState offline)
    have safe : InSafeState world (clusterProcess world micros refreshMicros) :=
      foldl_handled _
        ⟨rfl, rfl, onDevice, Or.inl ⟨rfl, rfl⟩⟩
        (Or.inl ⟨_, published, loses⟩)
    rcases safe entry.outputId entry found enabled with
      ⟨now, foundNow, samePolicy, active, value⟩
    refine ⟨value, fun manual => ⟨now, foundNow, ?_⟩⟩
    rw [FailsafeEntry.Blocks, samePolicy, active, FailsafeEntry.latches,
      if_pos manual]
    exact ⟨enabled, by simp, manual⟩
  · intro noGateway
    refine foldl_not_gateway _ _ ?_
    intro event member loses
    rcases event_moves member with ⟨before, after, moves, isBefore⟩
    exact noGateway before after moves (isBefore ▸ loses.gateway)
  · intro later event notGateway
    exact (handler_not_gateway fun loses => notGateway loses.gateway).2

/-- Node 1 with output 100 switched on and node 2, a gateway, heard at two
seconds. -/
def gatewayWorld : FailoverWorld where
  manager :=
    (clusterManagerUpdateNode (clusterManagerStart 1 1000000) 2 2000000).1
  io := clusterIoInit 1
  registry :=
    { entries :=
        { nodeId := 2, profile := "gateway" } ::
          List.replicate 9 { nodeId := 0, profile := "" }
      fits := rfl }
  failsafe := FailsafeTable.switchOff 100 0
  store := stateSetInt stateInit 100 1
  frames := []
  selfNode := 1
  sameSelf := rfl

/-- Seven seconds after the gateway fell silent output 100 is off and
latched. -/
theorem gatewayWorld_drives_outputs_safe :
    stateValue (clusterProcess gatewayWorld 9000000 9000000).store 100 = 0 ∧
      Latched (clusterProcess gatewayWorld 9000000 9000000).failsafe
        100 := by
  have onDevice : gatewayWorld.failsafe.OnDevice :=
    ⟨by decide, by decide⟩
  have moves :
      Moves gatewayWorld.manager
        (clusterManagerProcess gatewayWorld.manager 9000000 9000000).1
        { nodeId := 2, lastSeenMs := 2000, state := .online }
        { nodeId := 2, lastSeenMs := 2000, state := .offline } :=
    ⟨1, rfl, rfl, by decide⟩
  have gateway : gatewayWorld.registry.HasGateway 2 :=
    ⟨by decide, _, List.mem_cons_self .., rfl, rfl⟩
  have safe :=
    (gateway_loss_drives_outputs_safe gatewayWorld 9000000 9000000
      onDevice).1 _ _ moves (by decide) gateway rfl (Or.inr rfl) _
      (List.mem_singleton_self _) (by decide)
  exact ⟨safe.1, safe.2 rfl⟩

end Endap.Cluster
