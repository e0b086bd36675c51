import Endap.Cluster.Io
import Endap.Library.Run

/-!
# Takeover, failback and learned ownership

The master takes over what a failed node drove and gives it back when the node
returns.  Every change is broadcast, and the other nodes learn it from the
update message.

Takeover selects entries by their current owner and failback by their original
owner.  Over any history of outages the two agree: an entry is away from its
original owner exactly while that owner is down.

A node learns an update exactly when the identifier is already in its table,
when the table is full, or when the identifier is originally its own.  An
unknown identifier of another node is first entered as the node's own and the
update is then refused as a conflict.
-/

namespace Endap.Cluster

open Endap.Library

structure ProtocolClusterIoUpdate where
  ioId : UInt16
  newOwner : UInt32
  originalOwner : UInt32

/-- `cluster_io_broadcast_update`, the message sent for an entry. -/
def clusterIoBroadcastUpdate (entry : ClusterIoEntry) :
    ProtocolClusterIoUpdate where
  ioId := entry.ioId.toUInt16
  newOwner := entry.owner
  originalOwner := entry.originalOwner

def clusterIoSyncAll (io : ClusterIo) : List ProtocolClusterIoUpdate :=
  (io.ioTable.filter fun entry => entry.valid ≠ 0).map clusterIoBroadcastUpdate

/-- Overwrite one slot. -/
def ClusterIo.setSlot (io : ClusterIo) (index : Nat)
    (entry : ClusterIoEntry) : ClusterIo where
  ioTable := io.ioTable.set index entry
  selfNode := io.selfNode
  fits := by rw [List.length_set, io.fits]

/-! ## Takeover and failback -/

/-- Give the selected entry to a new owner. -/
def ClusterIoEntry.moveTo
    (selected : ClusterIoEntry → Bool) (owner : UInt32)
    (entry : ClusterIoEntry) : ClusterIoEntry :=
  if selected entry then { entry with owner := owner } else entry

/-- The loop shared by takeover and failback: every selected entry gets the
new owner and is broadcast. -/
def ClusterIo.moveAll
    (selected : ClusterIoEntry → Bool) (owner : UInt32) (io : ClusterIo) :
    ClusterIo × List ProtocolClusterIoUpdate :=
  ({ io with
      ioTable := io.ioTable.map (ClusterIoEntry.moveTo selected owner)
      fits := by rw [List.length_map, io.fits] },
    (io.ioTable.filter selected).map fun entry =>
      clusterIoBroadcastUpdate (entry.moveTo selected owner))

/-- `cluster_io_handle_node_offline`; the master is the one
`cluster_get_master_node` reports. -/
def clusterIoHandleNodeOffline
    (master : UInt32) (io : ClusterIo) (failedNode : UInt32) :
    ClusterIo × List ProtocolClusterIoUpdate :=
  if io.selfNode ≠ master then (io, [])
  else
    io.moveAll
      (fun entry => entry.valid ≠ 0 ∧ entry.owner = failedNode)
      io.selfNode

def clusterIoHandleNodeOnline (io : ClusterIo) (nodeId : UInt32) :
    ClusterIo × List ProtocolClusterIoUpdate :=
  let moved :=
    io.moveAll
      (fun entry =>
        entry.valid ≠ 0 ∧ entry.originalOwner = nodeId ∧
        entry.owner = io.selfNode)
      nodeId
  (moved.1, moved.2 ++ clusterIoSyncAll moved.1)

/-- What happened to a node. -/
inductive Outage where
  | offline
  | online
deriving DecidableEq

/-- One event of a node, and the master at that moment. -/
structure NodeEvent where
  node : UInt32
  outage : Outage
  master : UInt32

/-- The table's reaction to one event. -/
def ownershipStep (io : ClusterIo) (event : NodeEvent) :
    ClusterIo × List ProtocolClusterIoUpdate :=
  match event.outage with
  | .offline => clusterIoHandleNodeOffline event.master io event.node
  | .online => clusterIoHandleNodeOnline io event.node

/-- The last thing that happened to a node. -/
def lastOutage (node : UInt32) (events : List NodeEvent) : Option Outage :=
  ((events.filter fun event => event.node = node).getLast?).map NodeEvent.outage

theorem lastOutage_snoc
    (node : UInt32) (events : List NodeEvent) (event : NodeEvent) :
    lastOutage node (events ++ [event]) =
      if event.node = node then some event.outage
      else lastOutage node events := by
  rw [lastOutage, List.filter_append]
  by_cases same : event.node = node
  · simp [same]
  · simp [same, lastOutage]

/-- The entry with the owner its history calls for: the node itself when it
is the original owner or stands in for it, the original owner otherwise. -/
def ClusterIoEntry.settled
    (selfNode : UInt32) (events : List NodeEvent)
    (entry : ClusterIoEntry) : ClusterIoEntry :=
  if entry.valid = 0 then entry
  else
    { entry with
      owner :=
        if entry.originalOwner = selfNode ∨
            lastOutage entry.originalOwner events = some .offline then
          selfNode
        else entry.originalOwner }

variable {entry : ClusterIoEntry}

theorem settled_nil
    {selfNode : UInt32}
    (owned : entry.valid ≠ 0 → entry.owner = entry.originalOwner) :
    entry.settled selfNode [] = entry := by
  rw [ClusterIoEntry.settled]
  split
  · rfl
  · next valid =>
      have same := owned valid
      cases entry
      simp_all [lastOutage]

/-- One event moves an entry from where the earlier events put it to where the
longer history calls for. -/
theorem settled_snoc
    {selfNode : UInt32} {event : NodeEvent}
    (other : event.node ≠ selfNode)
    (events : List NodeEvent) (entry : ClusterIoEntry) :
    entry.settled selfNode (events ++ [event]) =
      match event.outage with
      | .offline =>
          (entry.settled selfNode events).moveTo
            (fun entry => entry.valid ≠ 0 ∧ entry.owner = event.node)
            selfNode
      | .online =>
          (entry.settled selfNode events).moveTo
            (fun entry =>
              entry.valid ≠ 0 ∧ entry.originalOwner = event.node ∧
              entry.owner = selfNode)
            event.node := by
  by_cases valid : entry.valid = 0
  · cases event.outage <;>
      simp [ClusterIoEntry.settled, ClusterIoEntry.moveTo, valid]
  · simp only [ClusterIoEntry.settled, valid, if_false, lastOutage_snoc]
    by_cases mine : entry.originalOwner = selfNode
    · cases event.outage <;>
        simp [ClusterIoEntry.moveTo, mine, other, other.symm]
    · by_cases about : event.node = entry.originalOwner
      · cases outage : event.outage <;>
          by_cases down :
            lastOutage entry.originalOwner events = some .offline <;>
          simp [ClusterIoEntry.moveTo, mine, about, valid, down]
      · cases outage : event.outage <;>
          by_cases down :
            lastOutage entry.originalOwner events = some .offline <;>
          simp [ClusterIoEntry.moveTo, mine, about, Ne.symm about, valid,
            down, other.symm]

theorem ownershipStep_ioTable
    (io : ClusterIo) {event : NodeEvent}
    (isMaster : event.master = io.selfNode) :
    (ownershipStep io event).1.selfNode = io.selfNode ∧
    (ownershipStep io event).1.ioTable =
      io.ioTable.map fun entry =>
        match event.outage with
        | .offline =>
            entry.moveTo
              (fun entry => entry.valid ≠ 0 ∧ entry.owner = event.node)
              io.selfNode
        | .online =>
            entry.moveTo
              (fun entry =>
                entry.valid ≠ 0 ∧ entry.originalOwner = event.node ∧
                entry.owner = io.selfNode)
              event.node := by
  rw [ownershipStep]
  cases event.outage with
  | offline =>
      rw [clusterIoHandleNodeOffline, isMaster, if_neg (by simp)]
      exact ⟨rfl, rfl⟩
  | online => exact ⟨rfl, rfl⟩

/--
On a node that is master throughout, over any sequence of outages of other
nodes: every entry keeps its place, its identifier and its original owner, and
its owner is the one the last event of its original owner calls for.
-/
theorem ownership_after_outages
    (start : ClusterIo) (events : List NodeEvent)
    (owned :
      ∀ entry ∈ start.ioTable,
        entry.valid ≠ 0 → entry.owner = entry.originalOwner)
    (isMaster : ∀ event ∈ events, event.master = start.selfNode)
    (others : ∀ event ∈ events, event.node ≠ start.selfNode) :
    (Run.final ownershipStep start events).ioTable =
      start.ioTable.map
        (ClusterIoEntry.settled start.selfNode events) := by
  suffices settledAll :
      (Run.final ownershipStep start events).selfNode = start.selfNode ∧
      (Run.final ownershipStep start events).ioTable =
        start.ioTable.map (ClusterIoEntry.settled start.selfNode events) from
    settledAll.2
  induction events using List.reverseRecOn with
  | nil =>
      refine ⟨rfl, ?_⟩
      have unmoved :
          start.ioTable.map (ClusterIoEntry.settled start.selfNode []) =
            start.ioTable.map id := by
        apply List.map_congr_left
        intro entry member
        exact settled_nil (owned entry member)
      rw [unmoved, List.map_id]
      rfl
  | append_singleton earlier event induction =>
      rcases induction
          (fun past member =>
            isMaster past (List.mem_append_left _ member))
          (fun past member => others past (List.mem_append_left _ member))
        with ⟨sameNode, sameTable⟩
      have here : event ∈ earlier ++ [event] := by simp
      rw [Run.final_snoc]
      rcases ownershipStep_ioTable
          (Run.final ownershipStep start earlier)
          ((isMaster event here).trans sameNode.symm)
        with ⟨nodeAfter, tableAfter⟩
      refine ⟨nodeAfter.trans sameNode, ?_⟩
      rw [tableAfter, sameTable, sameNode, List.map_map]
      apply List.map_congr_left
      intro entry _
      exact (settled_snoc (others event here) earlier entry).symm

def twoRemoteOutputs : ClusterIo :=
  ((clusterIoInit 1).setSlot 0
      { ioId := 5, owner := 2, originalOwner := 2, valid := 1 }).setSlot 1
    { ioId := 6, owner := 3, originalOwner := 3, valid := 1 }

theorem twoRemoteOutputs_owned
    (member : entry ∈ twoRemoteOutputs.ioTable)
    (valid : entry.valid ≠ 0) :
    entry.owner = entry.originalOwner := by
  rcases List.mem_or_eq_of_mem_set member with earlier | rfl
  · rcases List.mem_or_eq_of_mem_set earlier with blank | rfl
    · exact absurd (clusterIoInit_free blank) valid
    · rfl
  · rfl

def overlappingOutages : List NodeEvent :=
  [ { node := 2, outage := .offline, master := 1 },
    { node := 3, outage := .offline, master := 1 },
    { node := 2, outage := .online, master := 1 } ]

/-- After both failed and node 2 returned, node 1 stands in for node 3 only. -/
theorem overlappingOutages_owners :
    ((Run.final ownershipStep twoRemoteOutputs
        overlappingOutages).ioTable.take 2).map ClusterIoEntry.owner =
      [2, 1] := by
  rw [ownership_after_outages twoRemoteOutputs overlappingOutages
    (fun _ member valid => twoRemoteOutputs_owned member valid)
    (by decide) (by decide)]
  rfl

/-! ## Updates from other nodes -/

/-- `cluster_io_node_is_operational`; `registered` is
`node_registry_is_operational`. -/
def clusterIoNodeIsOperational
    (registered : UInt32 → Bool) (io : ClusterIo) (nodeId : UInt32) : Bool :=
  if nodeId = 0 ∨ nodeId = io.selfNode then true else registered nodeId

/-- The slot holds the entry of the identifier. -/
def ClusterIoEntry.isEntryOf (ioId : UInt32) (entry : ClusterIoEntry) : Bool :=
  entry.valid ≠ 0 ∧ entry.ioId = ioId

/-- `cluster_io_allocate_locked`: the slot of the identifier with what it
holds, and the table with the slot filled. -/
def clusterIoAllocateLocked (io : ClusterIo) (ioId : UInt32) :
    Option (Nat × ClusterIoEntry × ClusterIo) :=
  match clusterIoFindLocked io ioId with
  | some entry =>
      some (io.ioTable.findIdx (ClusterIoEntry.isEntryOf ioId), entry, io)
  | none =>
      match io.ioTable.findIdx? fun entry => entry.valid = 0 with
      | some index =>
          let entry : ClusterIoEntry :=
            { ioId := ioId, owner := io.selfNode,
              originalOwner := io.selfNode, valid := 1 }
          some (index, entry, io.setSlot index entry)
      | none => none

def clusterIoHandleUpdate
    (registered : UInt32 → Bool) (io : ClusterIo)
    (msg : ProtocolClusterIoUpdate) : ClusterIo :=
  if clusterIoNodeIsOperational registered io msg.newOwner = false ∨
      clusterIoNodeIsOperational registered io msg.originalOwner = false then
    io
  else
    match clusterIoAllocateLocked io msg.ioId.toUInt32 with
    | none => io
    | some (index, entry, allocated) =>
        if entry.valid ≠ 0 ∧ entry.originalOwner = io.selfNode ∧
            msg.originalOwner ≠ io.selfNode then
          allocated
        else if entry.owner = msg.newOwner ∧
            entry.originalOwner = msg.originalOwner then
          allocated
        else
          allocated.setSlot index
            { ioId := msg.ioId.toUInt32, owner := msg.newOwner,
              originalOwner := msg.originalOwner, valid := 1 }

/-- The identifier has an entry. -/
def ClusterIo.Known (io : ClusterIo) (ioId : UInt32) : Prop :=
  ∃ entry, clusterIoFindLocked io ioId = some entry

/-- Some slot is free. -/
def ClusterIo.HasRoom (io : ClusterIo) : Prop :=
  ∃ entry ∈ io.ioTable, entry.valid = 0

/-- The slot of an identifier: its entry, or a free slot when it has none. -/
def ClusterIo.SlotFor (io : ClusterIo) (ioId : UInt32) (index : Nat) : Prop :=
  if (clusterIoFindLocked io ioId).isSome then
    io.ioTable.findIdx? (ClusterIoEntry.isEntryOf ioId) = some index
  else ∃ entry, io.ioTable[index]? = some entry ∧ entry.valid = 0

/-- The entry of the message's identifier becomes exactly what the message
says, and no other slot changes. -/
def Learned (io : ClusterIo) (msg : ProtocolClusterIoUpdate)
    (next : ClusterIo) : Prop :=
  ∃ index entry,
    io.SlotFor msg.ioId.toUInt32 index ∧
    next.ioTable = io.ioTable.set index entry ∧
    entry.valid ≠ 0 ∧ entry.ioId = msg.ioId.toUInt32 ∧
    entry.owner = msg.newOwner ∧ entry.originalOwner = msg.originalOwner

/-- An update is either learned exactly or leaves the table alone, and it is
learned when the identifier is not registered locally and has a slot. -/
def LearnedExactly (io : ClusterIo) (msg : ProtocolClusterIoUpdate)
    (next : ClusterIo) : Prop :=
  (Learned io msg next ∨ next.ioTable = io.ioTable) ∧
  ((∀ entry,
      clusterIoFindLocked io msg.ioId.toUInt32 = some entry →
      entry.originalOwner ≠ io.selfNode) →
    (io.Known msg.ioId.toUInt32 ∨ io.HasRoom) → Learned io msg next)

variable {ioId : UInt32}

theorem clusterIoAllocateLocked_known
    {io : ClusterIo}
    (found : clusterIoFindLocked io ioId = some entry) :
    ∃ index,
      clusterIoAllocateLocked io ioId = some (index, entry, io) ∧
      io.SlotFor ioId index ∧ io.ioTable[index]? = some entry ∧
      entry.valid ≠ 0 ∧ entry.ioId = ioId := by
  have member := List.mem_of_find?_eq_some found
  have isEntry := List.find?_some found
  have slot :
      io.ioTable.findIdx? (ClusterIoEntry.isEntryOf ioId) =
        some (io.ioTable.findIdx (ClusterIoEntry.isEntryOf ioId)) :=
    List.findIdx?_eq_some_of_exists ⟨entry, member, isEntry⟩
  have holds :
      io.ioTable.find? (ClusterIoEntry.isEntryOf ioId) =
        io.ioTable[io.ioTable.findIdx (ClusterIoEntry.isEntryOf ioId)]? := by
    rw [List.find?_eq_bind_findIdx?_getElem?, slot]
    rfl
  refine ⟨_, ?_, ?_, holds.symm.trans found, ?_⟩
  · simp only [clusterIoAllocateLocked, found]
  · rw [ClusterIo.SlotFor, found]
    exact slot
  · simpa using isEntry

theorem clusterIoAllocateLocked_fresh
    {io : ClusterIo}
    (unknown : clusterIoFindLocked io ioId = none) (room : io.HasRoom) :
    ∃ index blank,
      clusterIoAllocateLocked io ioId =
          some
            (index,
              { ioId := ioId, owner := io.selfNode,
                originalOwner := io.selfNode, valid := 1 },
              io.setSlot index
                { ioId := ioId, owner := io.selfNode,
                  originalOwner := io.selfNode, valid := 1 }) ∧
        io.SlotFor ioId index ∧
        io.ioTable[index]? = some blank ∧ blank.valid = 0 := by
  rcases room with ⟨free, member, isFree⟩
  have slot :=
    List.findIdx?_eq_some_of_exists
      (p := fun entry : ClusterIoEntry => entry.valid = 0)
      ⟨free, member, by simpa using isFree⟩
  rcases List.findIdx?_eq_some_iff_getElem.mp slot with
    ⟨inside, blank, -⟩
  have blank := of_decide_eq_true blank
  refine ⟨_, _, ?_, ?_, List.getElem?_eq_getElem inside, blank⟩
  · simp only [clusterIoAllocateLocked, unknown, slot]
  · rw [ClusterIo.SlotFor, unknown]
    exact ⟨_, List.getElem?_eq_getElem inside, blank⟩

theorem clusterIoAllocateLocked_full
    {io : ClusterIo}
    (unknown : clusterIoFindLocked io ioId = none) (full : ¬ io.HasRoom) :
    clusterIoAllocateLocked io ioId = none := by
  have noFree : (io.ioTable.findIdx? fun entry => entry.valid = 0) = none := by
    rw [List.findIdx?_eq_none_iff]
    intro entry member
    simpa using fun free => full ⟨entry, member, free⟩
  simp only [clusterIoAllocateLocked, unknown, noFree]

section

variable {registered : UInt32 → Bool} {io : ClusterIo}
  {msg : ProtocolClusterIoUpdate}

theorem clusterIoHandleUpdate_operational
    (newOperational :
      clusterIoNodeIsOperational registered io msg.newOwner = true)
    (originalOperational :
      clusterIoNodeIsOperational registered io msg.originalOwner = true) :
    clusterIoHandleUpdate registered io msg =
      match clusterIoAllocateLocked io msg.ioId.toUInt32 with
      | none => io
      | some (index, entry, allocated) =>
          if entry.valid ≠ 0 ∧ entry.originalOwner = io.selfNode ∧
              msg.originalOwner ≠ io.selfNode then
            allocated
          else if entry.owner = msg.newOwner ∧
              entry.originalOwner = msg.originalOwner then
            allocated
          else
            allocated.setSlot index
              { ioId := msg.ioId.toUInt32, owner := msg.newOwner,
                originalOwner := msg.originalOwner, valid := 1 } := by
  rw [clusterIoHandleUpdate, if_neg]
  simp [newOperational, originalOperational]

/-- An update for a known identifier is learned, unless the identifier is the
node's own and the message says otherwise. -/
theorem clusterIoHandleUpdate_known
    (newOperational :
      clusterIoNodeIsOperational registered io msg.newOwner = true)
    (originalOperational :
      clusterIoNodeIsOperational registered io msg.originalOwner = true)
    {entry : ClusterIoEntry}
    (found : clusterIoFindLocked io msg.ioId.toUInt32 = some entry) :
    if entry.originalOwner = io.selfNode ∧
        msg.originalOwner ≠ io.selfNode then
      clusterIoHandleUpdate registered io msg = io
    else Learned io msg (clusterIoHandleUpdate registered io msg) := by
  rcases clusterIoAllocateLocked_known found with
    ⟨index, allocated, slot, holds, valid, isId⟩
  rw [clusterIoHandleUpdate_operational newOperational originalOperational,
    allocated]
  simp only [ne_eq, valid, not_false_eq_true, true_and]
  split
  · rfl
  · split
    · next same =>
        rcases List.getElem?_eq_some_iff.mp holds with ⟨inside, isHere⟩
        refine ⟨index, entry, slot, ?_, valid, isId, same⟩
        rw [← isHere, List.set_getElem_self]
    · exact ⟨index, _, slot, rfl, by simp, rfl, rfl, rfl⟩

/-- An update for an unknown identifier is learned when the node itself is the
original owner. -/
theorem clusterIoHandleUpdate_own
    (newOperational :
      clusterIoNodeIsOperational registered io msg.newOwner = true)
    (originalOperational :
      clusterIoNodeIsOperational registered io msg.originalOwner = true)
    (unknown : clusterIoFindLocked io msg.ioId.toUInt32 = none)
    (room : io.HasRoom) (own : msg.originalOwner = io.selfNode) :
    Learned io msg (clusterIoHandleUpdate registered io msg) := by
  rcases clusterIoAllocateLocked_fresh unknown room with
    ⟨index, blank, allocated, slot, -, -⟩
  rw [clusterIoHandleUpdate_operational newOperational originalOperational,
    allocated]
  simp only [own, ne_eq, not_true_eq_false, and_false, if_false, and_true]
  split
  · next same =>
      exact ⟨index, _, slot, rfl, by simp, rfl, same, own.symm⟩
  · exact ⟨index, _, slot, List.set_set .., by simp, rfl, rfl, own.symm⟩

theorem clusterIoHandleUpdate_foreign
    (newOperational :
      clusterIoNodeIsOperational registered io msg.newOwner = true)
    (originalOperational :
      clusterIoNodeIsOperational registered io msg.originalOwner = true)
    (unknown : clusterIoFindLocked io msg.ioId.toUInt32 = none)
    (room : io.HasRoom) (foreign : msg.originalOwner ≠ io.selfNode) :
    ∃ index blank,
      io.ioTable[index]? = some blank ∧ blank.valid = 0 ∧
      clusterIoHandleUpdate registered io msg =
        io.setSlot index
          { ioId := msg.ioId.toUInt32, owner := io.selfNode,
            originalOwner := io.selfNode, valid := 1 } := by
  rcases clusterIoAllocateLocked_fresh unknown room with
    ⟨index, blank, allocated, -, holds, isFree⟩
  refine ⟨index, blank, holds, isFree, ?_⟩
  rw [clusterIoHandleUpdate_operational newOperational originalOperational,
    allocated]
  simp [foreign]

end

theorem not_learned_setSlot
    {io : ClusterIo} {msg : ProtocolClusterIoUpdate}
    {index : Nat}
    (unknown : clusterIoFindLocked io msg.ioId.toUInt32 = none)
    (other : entry.originalOwner ≠ msg.originalOwner) :
    ¬ Learned io msg (io.setSlot index entry) := by
  rintro ⟨learnedIndex, learned, slot, sameTable, valid, -, -, isOriginal⟩
  rw [ClusterIo.SlotFor, unknown] at slot
  rcases slot with ⟨blank, holds, isFree⟩
  have inside : learnedIndex < io.ioTable.length :=
    (List.getElem?_eq_some_iff.mp holds).1
  have atSlot := congrArg (fun table => table[learnedIndex]?) sameTable
  simp only [ClusterIo.setSlot, List.getElem?_set_self inside] at atSlot
  by_cases same : index = learnedIndex
  · rw [same, List.getElem?_set_self inside] at atSlot
    rw [Option.some.inj atSlot] at other
    exact other isOriginal
  · rw [List.getElem?_set_ne same, holds] at atSlot
    rw [← Option.some.inj atSlot] at valid
    exact valid isFree

theorem not_learnedExactly_foreign
    {registered : UInt32 → Bool} {io : ClusterIo}
    {msg : ProtocolClusterIoUpdate}
    (newOperational :
      clusterIoNodeIsOperational registered io msg.newOwner = true)
    (originalOperational :
      clusterIoNodeIsOperational registered io msg.originalOwner = true)
    (unknown : clusterIoFindLocked io msg.ioId.toUInt32 = none)
    (room : io.HasRoom) (foreign : msg.originalOwner ≠ io.selfNode) :
    ¬ LearnedExactly io msg (clusterIoHandleUpdate registered io msg) := by
  rcases clusterIoHandleUpdate_foreign newOperational originalOperational
      unknown room foreign with
    ⟨index, blank, -, -, outcome⟩
  rw [outcome]
  rintro ⟨-, learnedWhen⟩
  refine not_learned_setSlot unknown (Ne.symm foreign)
    (learnedWhen ?_ (Or.inr room))
  intro entry isEntry
  rw [unknown] at isEntry
  cases isEntry

/--
Updates are learned exactly as promised unless an identifier that is not in
the table, while the table has room, belongs originally to another node.
-/
theorem clusterIoHandleUpdate_learnedExactly_iff
    (registered : UInt32 → Bool) (io : ClusterIo)
    (msg : ProtocolClusterIoUpdate)
    (newOperational :
      clusterIoNodeIsOperational registered io msg.newOwner = true)
    (originalOperational :
      clusterIoNodeIsOperational registered io msg.originalOwner = true) :
    LearnedExactly io msg (clusterIoHandleUpdate registered io msg) ↔
    ¬ (¬ io.Known msg.ioId.toUInt32 ∧ io.HasRoom ∧
    msg.originalOwner ≠ io.selfNode) := by
  cases found : clusterIoFindLocked io msg.ioId.toUInt32 with
  | some entry =>
      have known : io.Known msg.ioId.toUInt32 := ⟨entry, found⟩
      have outcome :=
        clusterIoHandleUpdate_known newOperational originalOperational found
      refine iff_of_true ?_ (fun failing => failing.1 known)
      split at outcome
      · next conflict =>
          refine ⟨Or.inr (by rw [outcome]), fun remote _ => ?_⟩
          exact absurd conflict.1 (remote entry found)
      · exact ⟨Or.inl outcome, fun _ _ => outcome⟩
  | none =>
      have unknown : ¬ io.Known msg.ioId.toUInt32 := by
        rintro ⟨entry, isEntry⟩
        rw [found] at isEntry
        cases isEntry
      by_cases room : io.HasRoom
      · by_cases own : msg.originalOwner = io.selfNode
        · have outcome :=
            clusterIoHandleUpdate_own newOperational originalOperational
              found room own
          exact iff_of_true ⟨Or.inl outcome, fun _ _ => outcome⟩
            (fun failing => failing.2.2 own)
        · exact iff_of_false
            (not_learnedExactly_foreign newOperational originalOperational
              found room own)
            (fun fine => fine ⟨unknown, room, own⟩)
      · have outcome : clusterIoHandleUpdate registered io msg = io := by
          rw [clusterIoHandleUpdate_operational newOperational
            originalOperational, clusterIoAllocateLocked_full found room]
        refine iff_of_true ⟨Or.inr (by rw [outcome]), ?_⟩
          (fun failing => room failing.2.1)
        rintro - (known | hasRoom)
        · exact absurd known unknown
        · exact absurd hasRoom room

/-- Node 1 learns that it stands in for node 2's output 5. -/
theorem learns_takeover_of_known_output :
    LearnedExactly twoRemoteOutputs
      { ioId := 5, newOwner := 1, originalOwner := 2 }
      (clusterIoHandleUpdate (fun _ => true) twoRemoteOutputs
        { ioId := 5, newOwner := 1, originalOwner := 2 }) := by
  refine
    (clusterIoHandleUpdate_learnedExactly_iff (fun _ => true)
      twoRemoteOutputs { ioId := 5, newOwner := 1, originalOwner := 2 }
      rfl rfl).mpr ?_
  rintro ⟨unknown, -, -⟩
  exact unknown ⟨_, rfl⟩

/-- An empty table enters node 2's output 7 as its own. -/
theorem foreign_output_entered_as_own :
    clusterIoNodeIsOperational (fun _ => true) (clusterIoInit 1) 2 = true ∧
    ¬ LearnedExactly (clusterIoInit 1)
      { ioId := 7, newOwner := 2, originalOwner := 2 }
      (clusterIoHandleUpdate (fun _ => true) (clusterIoInit 1)
        { ioId := 7, newOwner := 2, originalOwner := 2 }) := by
  have unknown : clusterIoFindLocked (clusterIoInit 1) 7 = none := by
    rw [clusterIoFindLocked, List.find?_eq_none]
    intro entry member
    simp [clusterIoInit_free member]
  have room : (clusterIoInit 1).HasRoom := by
    refine ⟨_, List.mem_replicate.mpr ⟨by decide, rfl⟩, rfl⟩
  exact ⟨rfl, not_learnedExactly_foreign rfl rfl unknown room (by decide)⟩

end Endap.Cluster
