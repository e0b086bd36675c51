import Endap.Cluster.Io
import Endap.Library.Run
import Endap.Library.Slots
import Endap.Library.Sweep

/-!
# The cluster manager

The manager keeps one slot for each node it hears from, with the time of the
last heartbeat and the node's state.  A refresh derives the state of every
other node from the age of its last heartbeat and publishes an event for each
state that changes.

The millisecond clock is the microsecond timer divided down and cut to 32
bits, so ages are differences modulo `2 ^ 32`.  A last-seen time of zero means
"never seen".
-/

namespace Endap.Cluster

open Endap.Library

/-- `MAX_NODES`, also the size of the event buffer. -/
def maxNodes : Nat := 10

def heartbeatTimeoutMs : UInt32 := 3000

def suspectTimeoutMs : UInt32 := 6000

def clusterManagerTickMs : UInt32 := 1000

/-- `cluster_node_t` as the manager keeps it; nothing reads the signal
strength. -/
structure TrackedNode where
  nodeId : UInt32
  lastSeenMs : UInt32
  state : ClusterNodeState
deriving DecidableEq

/-- A slot after `memset`. -/
def TrackedNode.zero : TrackedNode where
  nodeId := 0
  lastSeenMs := 0
  state := .online

/-- `cluster_event_type_t`, the types the manager publishes. -/
inductive ClusterEventType where
  | nodeOnline
  | nodeSuspect
  | nodeOffline
  | nodeDiscovered

structure ClusterEvent where
  nodeId : UInt32
  type : ClusterEventType

/-- The static state of `cluster_manager.c`. -/
structure ClusterManager where
  nodes : List TrackedNode
  started : Bool
  selfNodeId : UInt32
  lastRunMs : UInt32
  fits : nodes.length = maxNodes

/-- `now_ms`, of a reading of the microsecond timer. -/
def nowMs (micros : Nat) : UInt32 := UInt32.ofNat (micros / 1000)

def clusterManagerStateFromAge (ageMs : UInt32) : ClusterNodeState :=
  if ageMs > suspectTimeoutMs then .offline
  else if ageMs > heartbeatTimeoutMs then .suspect
  else .online

/-! ## Node access -/

/-- `find_node`: the slot and what it holds. -/
def findNode (nodes : List TrackedNode) (nodeId : UInt32) :
    Option (Nat × TrackedNode) :=
  Slots.find? TrackedNode.nodeId nodeId nodes

def allocateNode (nodes : List TrackedNode) : Option (Nat × TrackedNode) :=
  findNode nodes 0

/-- `get_or_create_node`: the slot and the node it now holds. -/
def getOrCreateNode (nodes : List TrackedNode) (nodeId : UInt32) :
    Option (Nat × TrackedNode) :=
  match findNode nodes nodeId with
  | some found => some found
  | none =>
      match allocateNode nodes with
      | none => none
      | some (index, _) =>
          some
            (index,
              { TrackedNode.zero with
                nodeId := nodeId
                state := .offline })

/-- Overwrite one slot. -/
def ClusterManager.setNode (manager : ClusterManager) (index : Nat)
    (node : TrackedNode) : ClusterManager :=
  { manager with
    nodes := manager.nodes.set index node
    fits := by rw [List.length_set, manager.fits] }

/-- The manager of a node with every slot cleared. -/
def ClusterManager.blank (selfId : UInt32) : ClusterManager where
  nodes := List.replicate maxNodes TrackedNode.zero
  started := true
  selfNodeId := selfId
  lastRunMs := 0
  fits := List.length_replicate

/-- `cluster_manager_start`, at its first call. -/
def clusterManagerStart (selfId : UInt32) (micros : Nat) : ClusterManager :=
  match getOrCreateNode (ClusterManager.blank selfId).nodes selfId with
  | none => ClusterManager.blank selfId
  | some (index, node) =>
      (ClusterManager.blank selfId).setNode index
        { node with lastSeenMs := nowMs micros, state := .online }

/-! ## Heartbeats and removal -/

/-- `cluster_manager_update_node`, with the events it publishes. -/
def clusterManagerUpdateNode
    (manager : ClusterManager) (nodeId : UInt32) (micros : Nat) :
    ClusterManager × List ClusterEvent :=
  match getOrCreateNode manager.nodes nodeId with
  | none => (manager, [])
  | some (index, node) =>
      (manager.setNode index
          { node with lastSeenMs := nowMs micros, state := .online },
        (if nodeId ≠ manager.selfNodeId ∧ node.state ≠ .online then
            [{ nodeId := nodeId, type := .nodeOnline }]
          else []) ++
          if node.state = .offline ∧ node.lastSeenMs = 0 then
            [{ nodeId := nodeId, type := .nodeDiscovered }]
          else [])

def clusterManagerRemoveNode
    (manager : ClusterManager) (nodeId : UInt32) : ClusterManager :=
  match findNode manager.nodes nodeId with
  | none => manager
  | some (index, node) =>
      if node.nodeId ≠ 0 ∧ node.nodeId ≠ manager.selfNodeId then
        manager.setNode index TrackedNode.zero
      else manager

/-! ## Refresh -/

/-- The event type that reports a state. -/
def ClusterEventType.ofState : ClusterNodeState → ClusterEventType
  | .online => .nodeOnline
  | .suspect => .nodeSuspect
  | .offline => .nodeOffline

/-- One slot of the loop of `cluster_manager_refresh_nodes_locked`; the events
gathered so far are bounded by the buffer. -/
def refreshVisit (selfNodeId now : UInt32) (maxEvents : Nat)
    (events : List ClusterEvent) (node : TrackedNode) :
    List ClusterEvent × TrackedNode :=
  if node.nodeId = 0 ∨ node.lastSeenMs = 0 then (events, node)
  else if node.nodeId = selfNodeId then
    (events, { node with lastSeenMs := now, state := .online })
  else
    let state := clusterManagerStateFromAge (now - node.lastSeenMs)
    let next := { node with state := state }
    if node.state ≠ state ∧ events.length < maxEvents then
      (events ++ [{ nodeId := node.nodeId, type := .ofState state }], next)
    else (events, next)

def clusterManagerRefreshNodesLocked
    (manager : ClusterManager) (now : UInt32) (maxEvents : Nat) :
    ClusterManager × List ClusterEvent :=
  let swept :=
    Sweep.run (refreshVisit manager.selfNodeId now maxEvents) [] manager.nodes
  ({ manager with
      nodes := swept.2
      fits := by rw [Sweep.run_length, manager.fits] },
    swept.1)

/-- The throttle of `cluster_manager_process` lets the refresh through. -/
def ClusterManager.due (manager : ClusterManager) (now : UInt32) : Bool :=
  manager.started ∧
  ¬ (manager.lastRunMs ≠ 0 ∧ now - manager.lastRunMs < clusterManagerTickMs)

/-- `cluster_manager_process`, with the events it publishes.  The timer is
read for the throttle and again by the refresh. -/
def clusterManagerProcess
    (manager : ClusterManager) (micros refreshMicros : Nat) :
    ClusterManager × List ClusterEvent :=
  if manager.due (nowMs micros) then
    clusterManagerRefreshNodesLocked
      { manager with lastRunMs := nowMs micros }
      (nowMs refreshMicros) maxNodes
  else (manager, [])

/-! ## The master -/

def clusterManagerGetMasterFromSnapshot (snapshot : List TrackedNode) :
    UInt32 :=
  snapshot.foldl
    (fun master node =>
      if node.nodeId = 0 ∨ node.state ≠ .online then master
      else if master = 0 ∨ node.nodeId < master then node.nodeId
      else master)
    0

def clusterGetMasterNode (manager : ClusterManager) : UInt32 :=
  clusterManagerGetMasterFromSnapshot manager.nodes

end Endap.Cluster
