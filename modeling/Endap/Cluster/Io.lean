import Mathlib.Init

/-!
# Ownership of the cluster's inputs and outputs

Every node of the cluster keeps a table that says which node drives each
input and output now, and which one drove it originally.  An identifier that
is not in the table belongs to the node that asks.
-/

namespace Endap.Cluster

def maxIo : Nat := 256

structure ClusterIoEntry where
  ioId : UInt32
  owner : UInt32
  originalOwner : UInt32
  valid : UInt8

/-- The static state of `cluster_io.c`. -/
structure ClusterIo where
  ioTable : List ClusterIoEntry
  selfNode : UInt32
  fits : ioTable.length = maxIo

/-- `cluster_io_find_locked`, the entry as `cluster_io_copy_entry_by_id`
copies it. -/
def clusterIoFindLocked (io : ClusterIo) (ioId : UInt32) :
    Option ClusterIoEntry :=
  io.ioTable.find? fun entry => entry.valid ≠ 0 ∧ entry.ioId = ioId

def clusterIoIsLocal (io : ClusterIo) (ioId : UInt32) : Bool :=
  if io.selfNode = 0 then true
  else
    match clusterIoFindLocked io ioId with
    | none => true
    | some entry => entry.owner = io.selfNode

def clusterIoGetOwner (io : ClusterIo) (ioId : UInt32) : UInt32 :=
  match clusterIoFindLocked io ioId with
  | none => io.selfNode
  | some entry => entry.owner

def clusterIoGetOriginalOwner (io : ClusterIo) (ioId : UInt32) : UInt32 :=
  match clusterIoFindLocked io ioId with
  | none => io.selfNode
  | some entry => entry.originalOwner

/-- The table before any identifier is registered. -/
def clusterIoInit (selfNode : UInt32) : ClusterIo where
  ioTable :=
    List.replicate maxIo
      { ioId := 0, owner := 0, originalOwner := 0, valid := 0 }
  selfNode := selfNode
  fits := List.length_replicate

theorem clusterIoInit_free
    {selfNode : UInt32} {entry : ClusterIoEntry}
    (member : entry ∈ (clusterIoInit selfNode).ioTable) :
    entry.valid = 0 := by
  rw [List.eq_of_mem_replicate member]

/-! ## Nodes of the cluster -/

inductive ClusterNodeState where
  | online
  | suspect
  | offline
deriving DecidableEq

/-- The fields of `cluster_node_t` that other components read. -/
structure ClusterNode where
  nodeId : UInt32
  state : ClusterNodeState

end Endap.Cluster
