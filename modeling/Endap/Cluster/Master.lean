import Endap.Cluster.Liveness
import Endap.Library.Least
import Mathlib.Data.Set.Basic

/-!
# The master is the least node online

Every node takes the least identifier that it sees online for the master.  Two
nodes whose tables hold the same nodes online therefore agree, whatever order
the nodes were heard, removed and heard again in, and whatever else their
tables hold.
-/

namespace Endap.Cluster

open Endap.Library

/-- The node has a slot, and is online in it.  A free slot is no node. -/
def TrackedNode.IsOnline (node : TrackedNode) : Prop :=
  node.nodeId ≠ 0 ∧ node.state = .online
deriving Decidable

/-- The nodes online in a table. -/
def ClusterManager.onlineIds (manager : ClusterManager) : Set UInt32 :=
  {nodeId |
    ∃ node ∈ manager.nodes, node.IsOnline ∧ node.nodeId = nodeId}

/-- The identifiers of the nodes online, slot by slot. -/
def candidates (snapshot : List TrackedNode) : List UInt32 :=
  (snapshot.filter fun node => node.IsOnline).map TrackedNode.nodeId

theorem master_scan (snapshot : List TrackedNode) :
    clusterManagerGetMasterFromSnapshot snapshot =
      Least.scan 0 (candidates snapshot) := by
  rw [Least.scan, candidates, List.foldl_map, List.foldl_filter,
    clusterManagerGetMasterFromSnapshot]
  congr 1
  funext master node
  by_cases online : node.IsOnline
  · rw [if_neg, if_pos (decide_eq_true online)]
    · rfl
    · rintro (free | otherState)
      · exact online.1 free
      · exact otherState online.2
  · rw [if_pos, if_neg]
    · exact fun isOnline => online (of_decide_eq_true isOnline)
    · by_cases free : node.nodeId = 0
      · exact Or.inl free
      · exact Or.inr fun state => online ⟨free, state⟩

theorem mem_candidates
    (manager : ClusterManager) (nodeId : UInt32) :
    nodeId ∈ candidates manager.nodes ↔ nodeId ∈ manager.onlineIds := by
  simp [candidates, ClusterManager.onlineIds, and_assoc]

theorem onlineIds_ne_zero
    {manager : ClusterManager} {nodeId : UInt32}
    (online : nodeId ∈ manager.onlineIds) : nodeId ≠ 0 := by
  rcases online with ⟨node, -, isOnline, rfl⟩
  exact isOnline.1

theorem master_cases (manager : ClusterManager) :
    manager.onlineIds = ∅ ∧ clusterGetMasterNode manager = 0 ∨
    IsLeast manager.onlineIds (clusterGetMasterNode manager) := by
  have same :
      {nodeId | nodeId ∈ candidates manager.nodes} = manager.onlineIds :=
    Set.ext (mem_candidates manager)
  have scanned :
      candidates manager.nodes = [] ∧
          Least.scan 0 (candidates manager.nodes) = 0 ∨
        IsLeast {nodeId | nodeId ∈ candidates manager.nodes}
          (Least.scan 0 (candidates manager.nodes)) :=
    Least.scan_isLeast fun nodeId member =>
      onlineIds_ne_zero ((mem_candidates manager nodeId).mp member)
  rw [same, ← master_scan] at scanned
  rcases scanned with ⟨none, master⟩ | least
  · refine Or.inl ⟨?_, master⟩
    rw [← same, none]
    simp
  · exact Or.inr least

theorem master_eq_zero_iff (manager : ClusterManager) :
    clusterGetMasterNode manager = 0 ↔ manager.onlineIds = ∅ := by
  rcases master_cases manager with ⟨none, master⟩ | least
  · simp [none, master]
  · constructor
    · intro master
      exact absurd master (onlineIds_ne_zero least.1)
    · intro none
      rw [none] at least
      exact absurd least.1 (Set.notMem_empty _)

theorem master_congr
    {first second : ClusterManager}
    (same : first.onlineIds = second.onlineIds) :
    clusterGetMasterNode first = clusterGetMasterNode second := by
  rcases master_cases second with ⟨none, master⟩ | least
  · rw [master, master_eq_zero_iff, same, none]
  · rcases master_cases first with ⟨none, -⟩ | leastFirst
    · rw [← same, none] at least
      exact absurd least.1 (Set.notMem_empty _)
    · rw [same] at leastFirst
      exact Least.isLeast_unique leastFirst least

/-! ## The tables of a run -/

/-- What happens to the manager: it is started, or called. -/
inductive ManagerAction where
  | start (selfId : UInt32) (micros : Nat)
  | call (call : ManagerCall)

/-- The manager at power-on, before it is started. -/
def ClusterManager.unstarted : ClusterManager :=
  { ClusterManager.blank 0 with started := false }

/-- One action, with the events it publishes; only the first start has an
effect. -/
def ClusterManager.act (manager : ClusterManager) :
    ManagerAction → ClusterManager × List ClusterEvent
  | .start selfId micros =>
      if manager.started then (manager, [])
      else (clusterManagerStart selfId micros, [])
  | .call action => manager.call action

theorem act_distinct
    (manager : ClusterManager) (action : ManagerAction)
    (distinct : manager.Distinct) :
    (manager.act action).1.Distinct := by
  cases action with
  | start selfId micros =>
      rw [ClusterManager.act]
      split
      · exact distinct
      · exact (start_tracks selfId micros).distinct
  | call action => exact call_distinct distinct action

theorem unstarted_distinct : ClusterManager.unstarted.Distinct := by
  intro nodeId known
  have none : (ClusterManager.unstarted).slotsOf nodeId = [] :=
    @blank_slotsOf 0 nodeId known
  rw [none]
  exact Nat.zero_le 1

/--
The master a node takes depends on the set of nodes online in its table and on
nothing else: it is the least of them, and zero exactly when there are none.
In every table that starts, heartbeats, removals and refreshes can lead to,
each node has one slot at most.
-/
theorem master_depends_on_online_ids :
    (∀ first second : ClusterManager,
        first.onlineIds = second.onlineIds →
        clusterGetMasterNode first = clusterGetMasterNode second) ∧
      (∀ manager : ClusterManager,
        (clusterGetMasterNode manager = 0 ↔ manager.onlineIds = ∅) ∧
        (manager.onlineIds.Nonempty →
        IsLeast manager.onlineIds (clusterGetMasterNode manager))) ∧
        ∀ actions : List ManagerAction,
          (Run.final ClusterManager.act ClusterManager.unstarted
            actions).Distinct := by
  refine ⟨fun first second => master_congr, ?_, ?_⟩
  · intro manager
    refine ⟨master_eq_zero_iff manager, ?_⟩
    rintro ⟨nodeId, online⟩
    rcases master_cases manager with ⟨none, -⟩ | least
    · rw [none] at online
      exact absurd online (Set.notMem_empty _)
    · exact least
  · exact
      Run.final_invariant ClusterManager.Distinct unstarted_distinct
        act_distinct

end Endap.Cluster
