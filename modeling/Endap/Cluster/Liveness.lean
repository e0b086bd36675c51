import Endap.Cluster.Manager
import Mathlib.Algebra.Group.Nat.Defs

/-!
# Liveness follows the age of the last heartbeat

Over any history of heartbeats, removals and refreshes, the state that a
refresh leaves in a slot is the one the age of the node's last heartbeat calls
for, also across the wrap of the millisecond clock, and every change of state
is published once.

The exception is a heartbeat heard while the millisecond clock reads zero.  Its
time is then taken for "never seen" and the refresh passes over the node, which
stays online however long it is silent.
-/

namespace Endap.Cluster

open Endap.Library

/-- The calls that change the manager, with the timer readings they take. -/
inductive ManagerCall where
  | updateNode (nodeId : UInt32) (micros : Nat)
  | removeNode (nodeId : UInt32)
  | process (micros refreshMicros : Nat)

/-- The timer readings of a call, in the order they are taken. -/
def ManagerCall.readings : ManagerCall → List Nat
  | .updateNode _ micros => [micros]
  | .removeNode _ => []
  | .process micros refreshMicros => [micros, refreshMicros]

/-- One call on the manager and the events it publishes. -/
def ClusterManager.call (manager : ClusterManager) :
    ManagerCall → ClusterManager × List ClusterEvent
  | .updateNode nodeId micros =>
      clusterManagerUpdateNode manager nodeId micros
  | .removeNode nodeId => (clusterManagerRemoveNode manager nodeId, [])
  | .process micros refreshMicros =>
      clusterManagerProcess manager micros refreshMicros

/-- The slots of a node. -/
def ClusterManager.slotsOf (manager : ClusterManager) (nodeId : UInt32) :
    List TrackedNode :=
  Slots.holding TrackedNode.nodeId nodeId manager.nodes

/-- Every node has one slot at most; free slots have no node. -/
def ClusterManager.Distinct (manager : ClusterManager) : Prop :=
  ∀ nodeId, nodeId ≠ 0 → (manager.slotsOf nodeId).length ≤ 1

/-! ## What a call does to the slots of a node -/

/-- A node as a heartbeat leaves it. -/
def TrackedNode.heardAt (nodeId : UInt32) (micros : Nat) : TrackedNode where
  nodeId := nodeId
  lastSeenMs := nowMs micros
  state := .online

/-- The node a slot is taken for before its first heartbeat. -/
def TrackedNode.created (nodeId : UInt32) : TrackedNode where
  nodeId := nodeId
  lastSeenMs := 0
  state := .offline

theorem getOrCreateNode_cases
    (manager : ClusterManager) (nodeId : UInt32) :
    (manager.slotsOf nodeId = [] ∧
        getOrCreateNode manager.nodes nodeId = none) ∨
      ∃ index old node,
        getOrCreateNode manager.nodes nodeId = some (index, node) ∧
        manager.nodes[index]? = some old ∧ node.nodeId = nodeId ∧
        (old = node ∧ (manager.slotsOf nodeId).head? = some node ∨
        manager.slotsOf nodeId = [] ∧ old.nodeId = 0 ∧
        node = TrackedNode.created nodeId) := by
  rw [getOrCreateNode]
  cases found : findNode manager.nodes nodeId with
  | some slot =>
      rcases slot with ⟨index, node⟩
      rcases Slots.find?_some found with ⟨holds, isNode⟩
      have first : (manager.slotsOf nodeId).head? = some node := by
        rw [ClusterManager.slotsOf, ← Slots.find?_slot]
        exact congrArg (Option.map Prod.snd) found
      exact Or.inr ⟨index, node, node, rfl, holds, isNode, Or.inl ⟨rfl, first⟩⟩
  | none =>
      have unknown := Slots.find?_none found
      cases free : allocateNode manager.nodes with
      | none => exact Or.inl ⟨unknown, rfl⟩
      | some slot =>
          rcases slot with ⟨index, old⟩
          rcases Slots.find?_some free with ⟨holds, isFree⟩
          exact Or.inr
            ⟨index, old, _, rfl, holds, rfl, Or.inr ⟨unknown, isFree, rfl⟩⟩

/-- What a heartbeat does: it is dropped for want of a slot, or it leaves the
node online in its own slot or in a free one. -/
theorem updateNode_cases
    (manager : ClusterManager) (nodeId : UInt32) (micros : Nat) :
    (manager.slotsOf nodeId = [] ∧
        clusterManagerUpdateNode manager nodeId micros = (manager, [])) ∨
      ∃ index old node,
        manager.nodes[index]? = some old ∧
        (old = node ∧ (manager.slotsOf nodeId).head? = some node ∨
        manager.slotsOf nodeId = [] ∧ old.nodeId = 0 ∧
        node = TrackedNode.created nodeId) ∧
        clusterManagerUpdateNode manager nodeId micros =
          (manager.setNode index (TrackedNode.heardAt nodeId micros),
            (if nodeId ≠ manager.selfNodeId ∧ node.state ≠ .online then
                [{ nodeId := nodeId, type := .nodeOnline }]
              else []) ++
              if node.state = .offline ∧ node.lastSeenMs = 0 then
                [{ nodeId := nodeId, type := .nodeDiscovered }]
              else []) := by
  rw [clusterManagerUpdateNode]
  rcases getOrCreateNode_cases manager nodeId with
    ⟨unknown, dropped⟩ | ⟨index, old, node, slot, holds, rfl, origin⟩
  · exact Or.inl ⟨unknown, by rw [dropped]⟩
  · exact Or.inr ⟨index, old, node, holds, origin, by rw [slot]; rfl⟩

theorem setNode_slotsOf_other
    {manager : ClusterManager} {index : Nat} {old node : TrackedNode}
    (holds : manager.nodes[index]? = some old) {wanted : UInt32}
    (notOld : old.nodeId ≠ wanted) (notNode : node.nodeId ≠ wanted) :
    (manager.setNode index node).slotsOf wanted = manager.slotsOf wanted :=
  Slots.holding_set_other holds notOld notNode

theorem updateNode_slotsOf_other
    (manager : ClusterManager) {nodeId wanted : UInt32} (micros : Nat)
    (known : wanted ≠ 0) (other : wanted ≠ nodeId) :
    (clusterManagerUpdateNode manager nodeId micros).1.slotsOf wanted =
      manager.slotsOf wanted := by
  rcases updateNode_cases manager nodeId micros with
    ⟨-, same⟩ | ⟨index, old, node, holds, origin, same⟩
  · rw [same]
  · rw [same]
    refine setNode_slotsOf_other holds ?_ (Ne.symm other)
    rcases origin with ⟨rfl, first⟩ | ⟨-, free, -⟩
    · have member := List.mem_of_head? first
      rw [(Slots.mem_holding.mp member).2]
      exact Ne.symm other
    · rw [free]
      exact Ne.symm known

/-- What a heartbeat does to its own node: nothing when there is no slot for
it, or the node is online in its only slot. -/
theorem updateNode_own
    {manager : ClusterManager} (distinct : manager.Distinct)
    {nodeId : UInt32} (known : nodeId ≠ 0) (micros : Nat) :
    (manager.slotsOf nodeId = [] ∧
        clusterManagerUpdateNode manager nodeId micros = (manager, [])) ∨
      ∃ node,
        (manager.slotsOf nodeId = [node] ∨
            manager.slotsOf nodeId = [] ∧ node = TrackedNode.created nodeId) ∧
          (clusterManagerUpdateNode manager nodeId micros).1.slotsOf nodeId =
            [TrackedNode.heardAt nodeId micros] ∧
          (clusterManagerUpdateNode manager nodeId micros).2 =
            (if nodeId ≠ manager.selfNodeId ∧ node.state ≠ .online then
                [{ nodeId := nodeId, type := .nodeOnline }]
              else []) ++
              if node.state = .offline ∧ node.lastSeenMs = 0 then
                [{ nodeId := nodeId, type := .nodeDiscovered }]
              else [] := by
  rcases updateNode_cases manager nodeId micros with
    dropped | ⟨index, old, node, holds, origin, same⟩
  · exact Or.inl dropped
  · refine Or.inr ⟨node, ?_, ?_, ?_⟩
    · rcases origin with ⟨-, first⟩ | ⟨unknown, -, created⟩
      · have member := Slots.mem_holding.mp (List.mem_of_head? first)
        exact Or.inl
          (Slots.holding_eq_singleton (distinct nodeId known) member.1 member.2)
      · exact Or.inr ⟨unknown, created⟩
    · rw [same]
      refine Slots.holding_set_own holds rfl ?_
      rcases origin with ⟨rfl, first⟩ | ⟨unknown, -, -⟩
      · have member := Slots.mem_holding.mp (List.mem_of_head? first)
        exact Or.inr ⟨member.2, distinct nodeId known⟩
      · exact Or.inl unknown
    · rw [same]

theorem removeNode_slotsOf
    {manager : ClusterManager} (distinct : manager.Distinct)
    {nodeId wanted : UInt32} (known : wanted ≠ 0) :
    (clusterManagerRemoveNode manager nodeId).slotsOf wanted =
      if wanted = nodeId ∧ wanted ≠ manager.selfNodeId then []
      else manager.slotsOf wanted := by
  rw [clusterManagerRemoveNode]
  cases found : findNode manager.nodes nodeId with
  | none =>
      have unknown : manager.slotsOf nodeId = [] := Slots.find?_none found
      by_cases same : wanted = nodeId ∧ wanted ≠ manager.selfNodeId
      · rw [if_pos same, same.1]
        exact unknown
      · rw [if_neg same]
  | some slot =>
      rcases slot with ⟨index, node⟩
      rcases Slots.find?_some found with ⟨holds, rfl⟩
      by_cases same : wanted = node.nodeId
      · subst same
        by_cases isSelf : node.nodeId = manager.selfNodeId
        · simp [isSelf]
        · simp only [ne_eq, known, isSelf, not_false_eq_true, and_self,
            if_true]
          exact Slots.holding_set_removed holds rfl (Ne.symm known)
            (distinct _ known)
      · rw [if_neg (fun both => same both.1)]
        simp only
        split
        · exact setNode_slotsOf_other holds (Ne.symm same) (Ne.symm known)
        · rfl

/-! ## Refresh -/

/-- A slot after a refresh. -/
def TrackedNode.refreshed (selfNodeId now : UInt32) (node : TrackedNode) :
    TrackedNode :=
  if node.nodeId = 0 ∨ node.lastSeenMs = 0 then node
  else if node.nodeId = selfNodeId then
    { node with lastSeenMs := now, state := .online }
  else
    { node with
      state := clusterManagerStateFromAge (now - node.lastSeenMs) }

/-- The event of a slot whose state a refresh changes. -/
def TrackedNode.refreshEvent (selfNodeId now : UInt32)
    (node : TrackedNode) : Option ClusterEvent :=
  if node.nodeId = selfNodeId ∨
      node.state = (node.refreshed selfNodeId now).state then
    none
  else
    some
      { nodeId := node.nodeId
        type := .ofState (node.refreshed selfNodeId now).state }

@[simp]
theorem refreshed_nodeId (selfNodeId now : UInt32) (node : TrackedNode) :
    (node.refreshed selfNodeId now).nodeId = node.nodeId := by
  rw [TrackedNode.refreshed]
  split
  · rfl
  · split
    · rfl
    · rfl

theorem refreshVisit_eq
    (selfNodeId now : UInt32) {maxEvents : Nat}
    {events : List ClusterEvent} (room : events.length < maxEvents)
    (node : TrackedNode) :
    refreshVisit selfNodeId now maxEvents events node =
      (events ++ (node.refreshEvent selfNodeId now).toList,
        node.refreshed selfNodeId now) := by
  rw [refreshVisit, TrackedNode.refreshEvent, TrackedNode.refreshed]
  by_cases skipped : node.nodeId = 0 ∨ node.lastSeenMs = 0
  · simp [skipped]
  · by_cases isSelf : node.nodeId = selfNodeId
    · subst isSelf
      simp [skipped]
    · by_cases changed :
        node.state = clusterManagerStateFromAge (now - node.lastSeenMs)
      · simp [skipped, isSelf, ← changed]
      · simp [skipped, isSelf, changed, room]

/-- The buffer has room for one event of every slot, so a refresh publishes
every change. -/
theorem refreshVisit_run
    (selfNodeId now : UInt32) {maxEvents : Nat}
    (nodes : List TrackedNode) {events : List ClusterEvent}
    (room : events.length + nodes.length ≤ maxEvents) :
    Sweep.run (refreshVisit selfNodeId now maxEvents) events nodes =
      (events ++
          nodes.filterMap (TrackedNode.refreshEvent selfNodeId now),
        nodes.map (TrackedNode.refreshed selfNodeId now)) := by
  induction nodes generalizing events with
  | nil => simp [Sweep.run]
  | cons node rest induction =>
      rw [List.length_cons] at room
      have roomHere : events.length < maxEvents := by omega
      have roomLater :
          (events ++
              (node.refreshEvent selfNodeId now).toList).length +
            rest.length ≤ maxEvents := by
        have one : (node.refreshEvent selfNodeId now).toList.length ≤ 1 :=
          Option.length_toList_le
        rw [List.length_append]
        omega
      rw [Sweep.run, refreshVisit_eq selfNodeId now roomHere]
      simp only [induction roomLater]
      cases event : node.refreshEvent selfNodeId now with
      | _ => simp [event]

theorem refreshNodes_eq (manager : ClusterManager) (now : UInt32) :
    (clusterManagerRefreshNodesLocked manager now maxNodes).1.nodes =
        manager.nodes.map (TrackedNode.refreshed manager.selfNodeId now) ∧
    (clusterManagerRefreshNodesLocked manager now maxNodes).2 =
      manager.nodes.filterMap
        (TrackedNode.refreshEvent manager.selfNodeId now) := by
  have room :
      ([] : List ClusterEvent).length + manager.nodes.length ≤ maxNodes := by
    rw [manager.fits]
    exact Nat.le_of_eq (Nat.zero_add _)
  have swept := refreshVisit_run manager.selfNodeId now manager.nodes room
  constructor
  · exact congrArg Prod.snd swept
  · exact congrArg Prod.fst swept

theorem refreshNodes_slotsOf
    (manager : ClusterManager) (now nodeId : UInt32) :
    (clusterManagerRefreshNodesLocked manager now maxNodes).1.slotsOf nodeId =
      (manager.slotsOf nodeId).map
        (TrackedNode.refreshed manager.selfNodeId now) := by
  rw [ClusterManager.slotsOf, (refreshNodes_eq manager now).1,
    Slots.holding, List.filter_map]
  simp [ClusterManager.slotsOf, Slots.holding, Function.comp_def]

/-- What a call of `cluster_manager_process` does: nothing, or a refresh of
every slot. -/
theorem process_cases
    (manager : ClusterManager) (micros refreshMicros : Nat) :
    (manager.due (nowMs micros) = false ∧
        clusterManagerProcess manager micros refreshMicros = (manager, [])) ∨
      (manager.due (nowMs micros) = true ∧
      (∀ nodeId,
        (clusterManagerProcess manager micros refreshMicros).1.slotsOf nodeId =
          (manager.slotsOf nodeId).map
            (TrackedNode.refreshed manager.selfNodeId (nowMs refreshMicros))) ∧
        (clusterManagerProcess manager micros refreshMicros).2 =
          manager.nodes.filterMap
            (TrackedNode.refreshEvent manager.selfNodeId
              (nowMs refreshMicros))) := by
  rw [clusterManagerProcess]
  cases due : manager.due (nowMs micros) with
  | false => exact Or.inl ⟨rfl, rfl⟩
  | true =>
      refine Or.inr ⟨rfl, ?_, ?_⟩
      · intro nodeId
        exact refreshNodes_slotsOf
          { manager with lastRunMs := nowMs micros } _ nodeId
      · exact (refreshNodes_eq { manager with lastRunMs := nowMs micros } _).2

theorem process_nodes
    {manager : ClusterManager} {micros : Nat}
    (due : manager.due (nowMs micros)) (refreshMicros : Nat) :
    (clusterManagerProcess manager micros refreshMicros).1.nodes =
      manager.nodes.map
        (TrackedNode.refreshed manager.selfNodeId
          (nowMs refreshMicros)) := by
  rw [clusterManagerProcess, if_pos due]
  exact (refreshNodes_eq { manager with lastRunMs := nowMs micros } _).1

/-! ## Invariant of the slots -/

theorem call_selfNodeId (manager : ClusterManager) (action : ManagerCall) :
    (manager.call action).1.selfNodeId = manager.selfNodeId := by
  cases action with
  | updateNode nodeId micros =>
      rcases updateNode_cases manager nodeId micros with
        ⟨-, same⟩ | ⟨index, old, node, -, -, same⟩
      · rw [ClusterManager.call, same]
      · rw [ClusterManager.call, same]
        rfl
  | removeNode nodeId =>
      rw [ClusterManager.call, clusterManagerRemoveNode]
      split
      · rfl
      · split
        · rfl
        · rfl
  | process micros refreshMicros =>
      rw [ClusterManager.call, clusterManagerProcess]
      split
      · rfl
      · rfl

/-- The last heartbeat of a node among the calls made. -/
def lastHeartbeat (nodeId : UInt32) (calls : List ManagerCall) : Option Nat :=
  (calls.filterMap fun
    | .updateNode heard micros => if heard = nodeId then some micros else none
    | _ => none).getLast?

theorem lastHeartbeat_snoc
    (nodeId : UInt32) (calls : List ManagerCall) (action : ManagerCall) :
    lastHeartbeat nodeId (calls ++ [action]) =
      match action with
      | .updateNode heard micros =>
          if heard = nodeId then some micros
          else lastHeartbeat nodeId calls
      | _ => lastHeartbeat nodeId calls := by
  rw [lastHeartbeat, List.filterMap_append]
  cases action with
  | updateNode heard micros =>
      by_cases same : heard = nodeId
      · simp [same]
      · simp [same, lastHeartbeat]
  | _ => simp [lastHeartbeat]

theorem lastHeartbeat_mem
    {nodeId : UInt32} {calls : List ManagerCall} {micros : Nat}
    (last : lastHeartbeat nodeId calls = some micros) :
    .updateNode nodeId micros ∈ calls := by
  rcases List.mem_filterMap.mp (List.mem_of_getLast? last) with
    ⟨action, member, isHeartbeat⟩
  cases action with
  | updateNode heard time =>
      by_cases same : heard = nodeId
      · simp only [same, if_true, Option.some.injEq] at isHeartbeat
        rw [← same, ← isHeartbeat]
        exact member
      · simp [same] at isHeartbeat
  | _ => cases isHeartbeat

/-- Every slot of another node carries the time of its last heartbeat. -/
structure Tracks (selfNode : UInt32) (calls : List ManagerCall)
    (manager : ClusterManager) : Prop where
  isSelf : manager.selfNodeId = selfNode
  distinct : manager.Distinct
  heard :
    ∀ nodeId,
      nodeId ≠ 0 → nodeId ≠ selfNode →
      ∀ node ∈ manager.slotsOf nodeId,
        ∃ micros,
          lastHeartbeat nodeId calls = some micros ∧
          node.lastSeenMs = nowMs micros

theorem call_distinct
    {manager : ClusterManager} (distinct : manager.Distinct)
    (action : ManagerCall) :
    (manager.call action).1.Distinct := by
  intro wanted known
  have before := distinct wanted known
  cases action with
  | updateNode nodeId micros =>
      by_cases same : wanted = nodeId
      · subst same
        rcases updateNode_own distinct known micros with
          ⟨-, dropped⟩ | ⟨node, -, after, -⟩
        · rw [ClusterManager.call, dropped]
          exact before
        · rw [ClusterManager.call, after]
          exact Nat.le_refl 1
      · rw [ClusterManager.call,
          updateNode_slotsOf_other manager micros known same]
        exact before
  | removeNode nodeId =>
      rw [ClusterManager.call, removeNode_slotsOf distinct known]
      split
      · exact Nat.zero_le 1
      · exact before
  | process micros refreshMicros =>
      rcases process_cases manager micros refreshMicros with
        ⟨-, same⟩ | ⟨-, refreshed, -⟩
      · rw [ClusterManager.call, same]
        exact before
      · rw [ClusterManager.call, refreshed, List.length_map]
        exact before

theorem refreshed_lastSeenMs
    {selfNodeId now : UInt32} {node : TrackedNode}
    (other : node.nodeId ≠ selfNodeId) :
    (node.refreshed selfNodeId now).lastSeenMs = node.lastSeenMs := by
  rw [TrackedNode.refreshed, if_neg other]
  split
  · rfl
  · rfl

theorem blank_slotsOf
    {selfId nodeId : UInt32} (known : nodeId ≠ 0) :
    (ClusterManager.blank selfId).slotsOf nodeId = [] := by
  apply List.filter_eq_nil_iff.mpr
  intro node member
  rw [List.eq_of_mem_replicate member]
  simp [TrackedNode.zero, Ne.symm known]

theorem clusterManagerStart_eq (selfId : UInt32) (micros : Nat) :
    clusterManagerStart selfId micros =
      (clusterManagerUpdateNode (ClusterManager.blank selfId) selfId
        micros).1 := by
  rw [clusterManagerStart, clusterManagerUpdateNode]
  cases getOrCreateNode (ClusterManager.blank selfId).nodes selfId with
  | _ => rfl

theorem start_tracks (selfId : UInt32) (micros : Nat) :
    Tracks selfId [] (clusterManagerStart selfId micros) := by
  have blankDistinct : (ClusterManager.blank selfId).Distinct := by
    intro nodeId known
    rw [blank_slotsOf known]
    exact Nat.zero_le 1
  rw [clusterManagerStart_eq]
  refine ⟨call_selfNodeId _ (.updateNode selfId micros),
    call_distinct blankDistinct (.updateNode selfId micros), ?_⟩
  intro nodeId known other node member
  rw [updateNode_slotsOf_other _ micros known other,
    blank_slotsOf known] at member
  cases member

theorem call_tracks
    {selfNode : UInt32} {calls : List ManagerCall}
    {manager : ClusterManager} (tracks : Tracks selfNode calls manager)
    (action : ManagerCall) :
    Tracks selfNode (calls ++ [action]) (manager.call action).1 where
  isSelf := (call_selfNodeId manager action).trans tracks.isSelf
  distinct := call_distinct tracks.distinct action
  heard := by
    intro wanted known other node member
    have before := tracks.heard wanted known other
    rw [lastHeartbeat_snoc]
    cases action with
    | updateNode nodeId micros =>
        by_cases same : wanted = nodeId
        · subst same
          rcases updateNode_own tracks.distinct known micros with
            ⟨unknown, dropped⟩ | ⟨_, -, after, -⟩
          · rw [ClusterManager.call, dropped, unknown] at member
            cases member
          · rw [ClusterManager.call, after] at member
            rw [List.mem_singleton.mp member]
            exact ⟨micros, by simp, rfl⟩
        · rw [ClusterManager.call,
            updateNode_slotsOf_other manager micros known same] at member
          simp only [Ne.symm same, if_false]
          exact before node member
    | removeNode nodeId =>
        rw [ClusterManager.call,
          removeNode_slotsOf tracks.distinct known] at member
        split at member
        · cases member
        · exact before node member
    | process micros refreshMicros =>
        rcases process_cases manager micros refreshMicros with
          ⟨-, same⟩ | ⟨-, refreshed, -⟩
        · rw [ClusterManager.call, same] at member
          exact before node member
        · rw [ClusterManager.call, refreshed] at member
          rcases List.mem_map.mp member with ⟨slot, inTable, rfl⟩
          have notSelf : slot.nodeId ≠ manager.selfNodeId := by
            rw [(Slots.mem_holding.mp inTable).2, tracks.isSelf]
            exact other
          rw [refreshed_lastSeenMs notSelf]
          exact before slot inTable

theorem run_tracks
    (selfNode : UInt32) (startMicros : Nat) (calls : List ManagerCall) :
    Tracks selfNode calls
      (Run.final ClusterManager.call
        (clusterManagerStart selfNode startMicros) calls) := by
  induction calls using List.reverseRecOn with
  | nil => exact start_tracks selfNode startMicros
  | append_singleton earlier action induction =>
      rw [Run.final_snoc]
      exact call_tracks induction action

/-! ## Ages -/

/-- The state an age in milliseconds calls for. -/
def stateOfElapsed (elapsedMs : Nat) : ClusterNodeState :=
  if elapsedMs ≤ 3000 then .online
  else if elapsedMs ≤ 6000 then .suspect
  else .offline

/-- The time from one timer reading to a later one, in milliseconds. -/
def elapsedMs (earlier later : Nat) : Nat := later / 1000 - earlier / 1000

/-- Ages below `2 ^ 32` milliseconds survive the wrap of the clock. -/
theorem nowMs_sub
    {earlier later : Nat} (order : earlier ≤ later)
    (young : elapsedMs earlier later < 2 ^ 32) :
    (nowMs later - nowMs earlier).toNat = elapsedMs earlier later := by
  have ordered : earlier / 1000 ≤ later / 1000 := Nat.div_le_div_right order
  rw [elapsedMs] at young ⊢
  simp only [nowMs, UInt32.toNat_sub, UInt32.toNat_ofNat']
  omega

theorem clusterManagerStateFromAge_eq (age : UInt32) :
    clusterManagerStateFromAge age = stateOfElapsed age.toNat := by
  rw [clusterManagerStateFromAge, stateOfElapsed]
  simp only [gt_iff_lt, UInt32.lt_iff_toNat_lt]
  have suspect : suspectTimeoutMs.toNat = 6000 := rfl
  have heartbeat : heartbeatTimeoutMs.toNat = 3000 := rfl
  rw [suspect, heartbeat]
  split
  · rw [if_neg (by omega), if_neg (by omega)]
  · split
    · rw [if_neg (by omega), if_pos (by omega)]
    · rw [if_pos (by omega)]

/-! ## Published changes -/

/-- The state of a node, if it has a slot. -/
def ClusterManager.stateOf (manager : ClusterManager) (nodeId : UInt32) :
    Option ClusterNodeState :=
  (findNode manager.nodes nodeId).map fun slot => slot.2.state

theorem stateOf_eq (manager : ClusterManager) (nodeId : UInt32) :
    manager.stateOf nodeId =
      (manager.slotsOf nodeId).head?.map TrackedNode.state := by
  rw [ClusterManager.slotsOf, ← Slots.find?_slot, Option.map_map]
  rfl

/-- The state an event reports; a discovery reports none. -/
def ClusterEventType.state? : ClusterEventType → Option ClusterNodeState
  | .nodeOnline => some .online
  | .nodeSuspect => some .suspect
  | .nodeOffline => some .offline
  | .nodeDiscovered => none

@[simp]
theorem ofState_state? (state : ClusterNodeState) :
    (ClusterEventType.ofState state).state? = some state := by
  cases state <;> rfl

/-- The states reported for one node, in order. -/
def statesReported (nodeId : UInt32) (events : List ClusterEvent) :
    List ClusterNodeState :=
  events.filterMap fun event =>
    if event.nodeId = nodeId then event.type.state? else none

/-- The state to report: the new one, when a node that has a slot is no longer
in its old state.  A node without a slot counts as offline. -/
def stateToReport (before after : Option ClusterNodeState) :
    List ClusterNodeState :=
  match after with
  | none => []
  | some state => if before.getD .offline = state then [] else [state]

theorem stateToReport_same (state : Option ClusterNodeState) :
    stateToReport state state = [] := by
  cases state with
  | none => rfl
  | some state => simp [stateToReport]

theorem statesReported_refresh
    {selfNodeId : UInt32} {nodeId : UInt32} (other : nodeId ≠ selfNodeId)
    (now : UInt32) (nodes : List TrackedNode) :
    statesReported nodeId
        (nodes.filterMap (TrackedNode.refreshEvent selfNodeId now)) =
      (Slots.holding TrackedNode.nodeId nodeId nodes).flatMap fun node =>
        stateToReport (some node.state)
          (some (node.refreshed selfNodeId now).state) := by
  induction nodes with
  | nil => rfl
  | cons node rest induction =>
      have split :
          Slots.holding TrackedNode.nodeId nodeId (node :: rest) =
            (if node.nodeId = nodeId then [node] else []) ++
              Slots.holding TrackedNode.nodeId nodeId rest :=
        Slots.holding_around [] rest node
      rw [split, List.flatMap_append, ← induction]
      by_cases same : node.nodeId = nodeId
      · have notSelf : node.nodeId ≠ selfNodeId := by
          rw [same]
          exact other
        by_cases changed : node.state = (node.refreshed selfNodeId now).state
        · have silent : node.refreshEvent selfNodeId now = none :=
            if_pos (Or.inr changed)
          rw [List.filterMap_cons_none silent, if_pos same]
          simp [stateToReport, ← changed]
        · have published :
              node.refreshEvent selfNodeId now =
                some
                  { nodeId := node.nodeId
                    type := .ofState (node.refreshed selfNodeId now).state } :=
            if_neg (fun either => either.elim notSelf changed)
          rw [List.filterMap_cons_some published, if_pos same]
          simp [statesReported, stateToReport, same, changed]
      · rw [if_neg same, List.flatMap_nil, List.nil_append]
        cases event : node.refreshEvent selfNodeId now with
        | none => rw [List.filterMap_cons_none event]
        | some published =>
            have about : published.nodeId = node.nodeId := by
              rw [TrackedNode.refreshEvent] at event
              split at event
              · cases event
              · rw [← Option.some.inj event]
            rw [List.filterMap_cons_some event]
            simp [statesReported, about, same]

theorem updateNode_reports_own
    {manager : ClusterManager} (distinct : manager.Distinct)
    {nodeId : UInt32} (known : nodeId ≠ 0)
    (other : nodeId ≠ manager.selfNodeId) (micros : Nat) :
    statesReported nodeId (manager.call (.updateNode nodeId micros)).2 =
      stateToReport (manager.stateOf nodeId)
        ((manager.call (.updateNode nodeId micros)).1.stateOf nodeId) := by
  rw [stateOf_eq, stateOf_eq, ClusterManager.call]
  rcases updateNode_own distinct known micros with
    ⟨-, dropped⟩ | ⟨node, origin, after, events⟩
  · rw [dropped, stateToReport_same]
    rfl
  · have before :
        ((manager.slotsOf nodeId).head?.map
          TrackedNode.state).getD .offline = node.state := by
      rcases origin with single | ⟨unknown, rfl⟩
      · rw [single]
        rfl
      · rw [unknown]
        rfl
    rw [after, events, statesReported, List.filterMap_append]
    simp only [stateToReport, List.head?_cons, Option.map_some, before]
    by_cases online : node.state = .online
    · simp [online, TrackedNode.heardAt]
    · by_cases fresh : node.state = .offline ∧ node.lastSeenMs = 0
      · simp [other, fresh, TrackedNode.heardAt, ClusterEventType.state?]
      · simp [online, other, fresh, TrackedNode.heardAt,
          ClusterEventType.state?]

theorem updateNode_reports_other
    (manager : ClusterManager) {nodeId heard : UInt32}
    (different : nodeId ≠ heard) (micros : Nat) :
    statesReported nodeId (manager.call (.updateNode heard micros)).2 =
      [] := by
  rw [ClusterManager.call]
  rcases updateNode_cases manager heard micros with
    ⟨-, dropped⟩ | ⟨index, old, node, -, -, happened⟩
  · rw [dropped]
    rfl
  · rw [happened, statesReported, List.filterMap_eq_nil_iff]
    intro event member
    have about : event.nodeId = heard := by
      rcases List.mem_append.mp member with online | discovered
      · split at online
        · rw [List.mem_singleton.mp online]
        · cases online
      · split at discovered
        · rw [List.mem_singleton.mp discovered]
        · cases discovered
    simp [about, Ne.symm different]

theorem call_reports
    {manager : ClusterManager} (distinct : manager.Distinct)
    {nodeId : UInt32} (known : nodeId ≠ 0)
    (other : nodeId ≠ manager.selfNodeId) (action : ManagerCall) :
    statesReported nodeId (manager.call action).2 =
      stateToReport (manager.stateOf nodeId)
        ((manager.call action).1.stateOf nodeId) := by
  cases action with
  | updateNode heard micros =>
      by_cases same : nodeId = heard
      · subst same
        exact updateNode_reports_own distinct known other micros
      · rw [updateNode_reports_other manager same, stateOf_eq, stateOf_eq,
          ClusterManager.call,
          updateNode_slotsOf_other manager micros known same,
          stateToReport_same]
  | removeNode removed =>
      rw [stateOf_eq, stateOf_eq, ClusterManager.call,
        removeNode_slotsOf distinct known]
      split
      · rfl
      · rw [stateToReport_same]
        rfl
  | process micros refreshMicros =>
      rw [stateOf_eq, stateOf_eq, ClusterManager.call]
      rcases process_cases manager micros refreshMicros with
        ⟨-, same⟩ | ⟨-, refreshed, events⟩
      · rw [same, stateToReport_same]
        rfl
      · rw [events, refreshed, statesReported_refresh other]
        have single := distinct nodeId known
        rw [ClusterManager.slotsOf] at single ⊢
        match
          Slots.holding TrackedNode.nodeId nodeId manager.nodes, single with
        | [], _ => rfl
        | [node], _ => simp

/-! ## Whole histories -/

/-- The manager after the calls of a history. -/
def managerAfter (selfNode : UInt32) (startMicros : Nat)
    (calls : List ManagerCall) : ClusterManager :=
  Run.final ClusterManager.call (clusterManagerStart selfNode startMicros) calls

/--
Liveness is a function of heartbeat age: after each refresh every other node
is in the state that the time since its last heartbeat calls for, and every
call publishes exactly the changes of state it makes.
-/
structure LivenessFollowsAge (selfNode : UInt32) (startMicros : Nat)
    (calls : List ManagerCall) : Prop where
  states :
    ∀ earlier micros refreshMicros later,
      calls = earlier ++ .process micros refreshMicros :: later →
      (managerAfter selfNode startMicros earlier).due (nowMs micros) →
      ∀ node ∈
        (managerAfter selfNode startMicros
          (earlier ++ [.process micros refreshMicros])).nodes,
        node.nodeId ≠ 0 → node.nodeId ≠ selfNode →
        ∃ heartbeat,
          lastHeartbeat node.nodeId earlier = some heartbeat ∧
          (elapsedMs heartbeat refreshMicros < 2 ^ 32 →
          node.state = stateOfElapsed (elapsedMs heartbeat refreshMicros))
  reports :
    ∀ transition ∈
      Run.history ClusterManager.call
        (clusterManagerStart selfNode startMicros) calls,
      ∀ nodeId,
        nodeId ≠ 0 → nodeId ≠ selfNode →
        statesReported nodeId transition.output =
          stateToReport (transition.before.stateOf nodeId)
            (transition.after.stateOf nodeId)

/-- The timer never goes back. -/
def Monotonic (startMicros : Nat) (calls : List ManagerCall) : Prop :=
  (startMicros :: calls.flatMap ManagerCall.readings).Pairwise (· ≤ ·)

instance (startMicros : Nat) (calls : List ManagerCall) :
    Decidable (Monotonic startMicros calls) :=
  inferInstanceAs (Decidable (List.Pairwise _ _))

/-- The call is not a heartbeat of another node heard while the millisecond
clock reads zero. -/
def ManagerCall.NotHeardAtZero (selfNode : UInt32) : ManagerCall → Prop
  | .updateNode nodeId micros =>
      nodeId ≠ 0 → nodeId ≠ selfNode → nowMs micros ≠ 0
  | _ => True

theorem heartbeat_le_refresh
    {startMicros : Nat} {earlier later : List ManagerCall}
    {micros refreshMicros heartbeat : Nat} {nodeId : UInt32}
    (monotonic :
      Monotonic startMicros (earlier ++ .process micros refreshMicros :: later))
    (heard : .updateNode nodeId heartbeat ∈ earlier) :
    heartbeat ≤ refreshMicros := by
  have ordered := (List.pairwise_cons.mp monotonic).2
  rw [List.flatMap_append] at ordered
  refine (List.pairwise_append.mp ordered).2.2 heartbeat ?_ refreshMicros ?_
  · exact List.mem_flatMap.mpr ⟨_, heard, List.mem_singleton_self heartbeat⟩
  · simp [ManagerCall.readings]

/-- What a refresh leaves in the slot of another node whose last heartbeat was
heard at a clock other than zero. -/
theorem refreshed_state
    {selfNodeId : UInt32} {node : TrackedNode} {heartbeat now : Nat}
    (known : node.nodeId ≠ 0) (other : node.nodeId ≠ selfNodeId)
    (seen : node.lastSeenMs = nowMs heartbeat)
    (nonzero : nowMs heartbeat ≠ 0)
    (order : heartbeat ≤ now) (young : elapsedMs heartbeat now < 2 ^ 32) :
    (node.refreshed selfNodeId (nowMs now)).state =
      stateOfElapsed (elapsedMs heartbeat now) := by
  have visited : ¬ (node.nodeId = 0 ∨ node.lastSeenMs = 0) := by
    rw [seen]
    exact fun either => either.elim known nonzero
  rw [TrackedNode.refreshed, if_neg visited, if_neg other]
  show clusterManagerStateFromAge (nowMs now - node.lastSeenMs) = _
  rw [clusterManagerStateFromAge_eq, seen, nowMs_sub order young]

/--
In every history under a monotonic clock in which no heartbeat of another node
is heard while the millisecond clock reads zero, liveness follows age and
every change of state is published once.
-/
theorem liveness_follows_age
    (selfNode : UInt32) (startMicros : Nat) (calls : List ManagerCall)
    (monotonic : Monotonic startMicros calls)
    (notAtZero : ∀ action ∈ calls, action.NotHeardAtZero selfNode) :
    LivenessFollowsAge selfNode startMicros calls where
  states := by
    rintro earlier micros refreshMicros later rfl due node member known other
    have tracks := run_tracks selfNode startMicros earlier
    rw [managerAfter] at due
    rw [managerAfter, Run.final_snoc, ClusterManager.call,
      process_nodes due] at member
    rcases List.mem_map.mp member with ⟨slot, wasSlot, rfl⟩
    rw [refreshed_nodeId] at known other ⊢
    rcases tracks.heard slot.nodeId known other slot
        (Slots.mem_holding.mpr ⟨wasSlot, rfl⟩) with
      ⟨heartbeat, last, seen⟩
    have heard := lastHeartbeat_mem last
    refine ⟨heartbeat, last, fun young => ?_⟩
    rw [tracks.isSelf]
    exact refreshed_state known other seen
      (notAtZero _ (List.mem_append_left _ heard) known other)
      (heartbeat_le_refresh monotonic heard) young
  reports := by
    intro transition member nodeId known other
    rcases Run.history_invariant
        (fun manager : ClusterManager =>
          manager.Distinct ∧ manager.selfNodeId = selfNode)
        ⟨(start_tracks selfNode startMicros).distinct,
          (start_tracks selfNode startMicros).isSelf⟩
        (fun manager action holds =>
          ⟨call_distinct holds.1 action,
            (call_selfNodeId manager action).trans holds.2⟩)
        member with
      ⟨⟨distinct, isSelf⟩, isCall⟩
    rw [isCall]
    refine call_reports distinct known ?_ transition.action
    rw [isSelf]
    exact other

def silentNode (heardMicros : Nat) : List ManagerCall :=
  [.updateNode 2 heardMicros,
    .process (heardMicros + 7000000) (heardMicros + 7000000)]

/-- A node silent for seven seconds is offline. -/
theorem silentNode_offline :
    LivenessFollowsAge 1 1000000 (silentNode 2000000) ∧
    (managerAfter 1 1000000 (silentNode 2000000)).stateOf 2 =
      some .offline := by
  refine ⟨liveness_follows_age 1 1000000 (silentNode 2000000)
    (by decide) ?_, by decide⟩
  intro action member
  rcases List.mem_cons.mp member with rfl | member
  · intro _ _
    decide
  · rw [List.mem_singleton.mp member]
    trivial

/-- A node heard at the moment the millisecond clock wraps to zero is still
online after seven seconds of silence. -/
theorem silentNode_at_wrap_online :
    Monotonic 1000000 (silentNode 4294967296000) ∧
    ¬ LivenessFollowsAge 1 1000000 (silentNode 4294967296000) := by
  refine ⟨by decide, ?_⟩
  intro follows
  rcases follows.states [.updateNode 2 4294967296000] _ _ [] rfl (by decide)
      (TrackedNode.heardAt 2 4294967296000) (by decide) (by decide)
      (by decide) with
    ⟨heartbeat, last, state⟩
  have isHeartbeat : heartbeat = 4294967296000 :=
    Option.some.inj (last.symm.trans rfl)
  rw [isHeartbeat] at state
  exact absurd (state (by decide)) (by decide)

end Endap.Cluster
