import Endap.Cluster.Master
import Endap.Cluster.Wire
import Endap.Registry.Admissions

/-!
# Who is in the cluster

Any number of nodes send heartbeats and frames over any transports; the media
lose packets, deliver them late, in any order, several times and to the node
they came from.  A node enters into its two tables, that of the cluster
manager and the registry, who it hears a heartbeat of.

Nobody is made up: a table names its own node, the nodes it was loaded with
and nodes that sent a heartbeat.  This rests on telling the messages apart: no
frame of the cluster is taken for a heartbeat on a transport that carries
both.
-/

namespace Endap.Cluster

open Endap.Library
open Endap.Registry

/-! ## The nodes and the media -/

/-- The tables of a node. -/
structure Member where
  manager : ClusterManager
  registry : RegistryWorld

def clusterDiscoveryOnHeartbeat
    (selfNodeId : UInt32) (micros : Nat) (member : Member)
    (heartbeat : TransportHeartbeat) : Member :=
  if heartbeat.nodeId = selfNodeId then member
  else
    { manager :=
        (clusterManagerUpdateNode member.manager heartbeat.nodeId micros).1
      registry :=
        (member.registry.noteTransport heartbeat.nodeId
          heartbeat.sourceTransport heartbeat.sourceIp).2 }

/-- What a delivery does to the tables; frames go elsewhere. -/
def Member.take
    (selfNodeId : UInt32) (micros : Nat) (member : Member) :
    Delivery → Member
  | .heartbeat heartbeat =>
      clusterDiscoveryOnHeartbeat selfNodeId micros member heartbeat
  | _ => member

/-- The node whose heartbeat a message is. -/
def ClusterMessage.speaker (sender : Sender) :
    ClusterMessage → Option UInt32
  | .heartbeat => some sender.selfNodeId
  | _ => none

def clusterManagerExportNodes (manager : ClusterManager) : List TrackedNode :=
  manager.nodes.filter fun node => node.nodeId ≠ 0

/-- The nodes by their ids, and every packet that was ever sent. -/
structure Net where
  members : UInt32 → Member
  medium : List Packet

/-- A node says something, a packet reaches a node, or a node looks after its
tables. -/
inductive NetAction where
  | say (world : TransportWorld) (rs485Available : Bool) (sender : Sender)
      (message : ClusterMessage)
  | deliver (receiver : Receiver) (sourceIp : UInt32) (index micros : Nat)
  | refresh (node : UInt32) (micros refreshMicros : Nat)
  | sync (node nowMs : UInt32)
  | remove (node nodeId : UInt32)

def Net.modify (net : Net) (node : UInt32) (change : Member → Member) :
    Net :=
  { net with
    members := Function.update net.members node (change (net.members node)) }

/-- The deliveries of a packet, one after another. -/
def Member.receive (receiver : Receiver) (sourceIp : UInt32)
    (packet : Packet) (micros : Nat) (member : Member) : Member :=
  (Cluster.receive receiver sourceIp packet).foldl
    (Member.take receiver.selfNodeId micros) member

/-- A poll of the cluster manager. -/
def Member.refresh (micros refreshMicros : Nat) (member : Member) : Member :=
  { member with
    manager := (clusterManagerProcess member.manager micros refreshMicros).1 }

/-- A poll of the registry, which asks the manager for its nodes. -/
def Member.sync (nowMs : UInt32) (member : Member) : Member :=
  { member with
    registry :=
      member.registry.process nowMs
        (clusterManagerExportNodes member.manager)
        member.manager.selfNodeId }

/-- The manager forgets a node. -/
def Member.remove (nodeId : UInt32) (member : Member) : Member :=
  { member with
    manager := clusterManagerRemoveNode member.manager nodeId }

/-- One step, and the node whose heartbeat was sent in it. -/
def netStep (net : Net) : NetAction → Net × Option UInt32
  | .say world rs485Available sender message =>
      match send world rs485Available sender message with
      | none => (net, none)
      | some packet =>
          ({ net with medium := net.medium ++ [packet] },
            message.speaker sender)
  | .deliver receiver sourceIp index micros =>
      match net.medium[index]? with
      | none => (net, none)
      | some packet =>
          (net.modify receiver.selfNodeId
              (Member.receive receiver sourceIp packet micros),
            none)
  | .refresh node micros refreshMicros =>
      (net.modify node (Member.refresh micros refreshMicros), none)
  | .sync node nowMs => (net.modify node (Member.sync nowMs), none)
  | .remove node nodeId => (net.modify node (Member.remove nodeId), none)

/-- Every node has started; its registry is what it was loaded with. -/
def netStart (startMicros : UInt32 → Nat)
    (registries : UInt32 → RegistryWorld) : Net where
  members := fun node =>
    { manager := clusterManagerStart node (startMicros node)
      registry := registries node }
  medium := []

/-- The nodes that sent a heartbeat. -/
def speakers
    (past : List (Run.Transition Net NetAction (Option UInt32))) :
    List UInt32 :=
  past.filterMap (·.output)

/-! ## The nodes that a table names -/

section

variable {Entry : Type*} (key : Entry → UInt32)

/-- Every slot is free or names a node of a kind. -/
def Names (known : UInt32 → Prop) (entries : List Entry) : Prop :=
  ∀ entry ∈ entries, key entry = 0 ∨ known (key entry)

variable {key} {known : UInt32 → Prop} {entries : List Entry}

theorem Names.imp
    {wider : UInt32 → Prop} (names : Names key known entries)
    (widens : ∀ nodeId, known nodeId → wider nodeId) :
    Names key wider entries :=
  fun entry member => (names entry member).imp_right (widens _)

theorem Names.set
    (names : Names key known entries) {entry : Entry}
    (isKnown : key entry = 0 ∨ known (key entry)) (index : Nat) :
    Names key known (entries.set index entry) := by
  intro other member
  rcases List.mem_or_eq_of_mem_set member with old | new
  · exact names other old
  · rw [new]
    exact isKnown

theorem Names.map
    (names : Names key known entries) {change : Entry → Entry}
    (sameKey : ∀ entry, key (change entry) = key entry) :
    Names key known (entries.map change) := by
  intro changed member
  rcases List.mem_map.mp member with ⟨entry, old, same⟩
  rw [← same, sameKey]
  exact names entry old

end

/-! ## The manager -/

variable {manager : ClusterManager} {nodeId : UInt32}

theorem updateNode_names
    {known : UInt32 → Prop}
    (names : Names TrackedNode.nodeId known manager.nodes)
    (isKnown : known nodeId) (micros : Nat) :
    Names TrackedNode.nodeId known
      (clusterManagerUpdateNode manager nodeId micros).1.nodes := by
  rcases updateNode_cases manager nodeId micros with
    ⟨-, same⟩ | ⟨index, old, node, -, -, same⟩
  · rw [same]
    exact names
  · rw [same]
    exact names.set (.inr isKnown) index

theorem start_names (selfId : UInt32) (micros : Nat) :
    Names TrackedNode.nodeId (· = selfId)
      (clusterManagerStart selfId micros).nodes := by
  have blank :
      Names TrackedNode.nodeId (· = selfId)
        (ClusterManager.blank selfId).nodes := by
    intro node member
    rw [List.eq_of_mem_replicate member]
    exact .inl rfl
  rw [clusterManagerStart_eq]
  exact updateNode_names blank rfl micros

theorem process_names
    {known : UInt32 → Prop}
    (names : Names TrackedNode.nodeId known manager.nodes)
    (micros refreshMicros : Nat) :
    Names TrackedNode.nodeId known
      (clusterManagerProcess manager micros refreshMicros).1.nodes := by
  cases due : manager.due (nowMs micros) with
  | false =>
      rw [clusterManagerProcess, due]
      exact names
  | true =>
      rw [process_nodes due]
      exact names.map (refreshed_nodeId _ _)

theorem removeNode_names
    {known : UInt32 → Prop}
    (names : Names TrackedNode.nodeId known manager.nodes)
    (nodeId : UInt32) :
    Names TrackedNode.nodeId known
      (clusterManagerRemoveNode manager nodeId).nodes := by
  rw [clusterManagerRemoveNode]
  split
  · exact names
  · split
    · exact names.set (.inl rfl) _
    · exact names

/-! ## The registry -/

theorem findOrCreate_nodeId
    {entries : List RegistryEntry} {index : Nat}
    {entry : RegistryEntry}
    (located : findOrCreate entries nodeId = some (index, entry)) :
    entry.nodeId = nodeId := by
  rw [findOrCreate] at located
  cases found : findLocked entries nodeId with
  | some slot =>
      simp only [found, Option.some.injEq] at located
      subst located
      exact (Slots.find?_some found).2
  | none =>
      simp only [found] at located
      cases free : allocateLocked entries with
      | none => simp [free] at located
      | some slot =>
          simp only [free, Option.some.injEq] at located
          cases located
          rfl

variable {world : RegistryWorld}

theorem noteTransport_names
    {known : UInt32 → Prop}
    (names : Names RegistryEntry.nodeId known world.entries)
    (isKnown : known nodeId)
    (transport : UInt8) (sourceIp : UInt32) :
    Names RegistryEntry.nodeId known
      (world.noteTransport nodeId transport sourceIp).2.entries := by
  rw [RegistryWorld.noteTransport]
  split
  · exact names
  · cases located : findOrCreate world.entries nodeId with
    | none => exact names
    | some slot =>
        refine names.set (.inr ?_) slot.1
        have own : slot.2.nodeId = nodeId := findOrCreate_nodeId located
        rw [← own] at isKnown
        exact isKnown

variable {selfNode : UInt32}

theorem observeNode_names
    {known : UInt32 → Prop}
    (names : Names RegistryEntry.nodeId known world.entries)
    {target : TrackedNode}
    (isKnown :
      target.nodeId = 0 ∨ target.nodeId = selfNode ∨ known target.nodeId) :
    Names RegistryEntry.nodeId known
      (observeNode selfNode world target).entries := by
  rw [observeNode]
  split
  case isTrue => exact names
  case isFalse observable =>
    rcases not_or.mp observable with ⟨some, other⟩
    have heard : known target.nodeId :=
      (isKnown.resolve_left some).resolve_left other
    cases located : findOrCreate world.entries target.nodeId with
    | none => exact names
    | some slot =>
        refine names.set (.inr ?_) slot.1
        have own : slot.2.nodeId = target.nodeId := findOrCreate_nodeId located
        rw [← own] at heard
        exact heard

theorem observeNodes_names
    {known : UInt32 → Prop}
    {snapshot : List TrackedNode}
    (tracked :
      ∀ target ∈ snapshot,
        target.nodeId = 0 ∨ target.nodeId = selfNode ∨ known target.nodeId)
    (names : Names RegistryEntry.nodeId known world.entries) :
    Names RegistryEntry.nodeId known
      (snapshot.foldl (observeNode selfNode) world).entries := by
  induction snapshot generalizing world with
  | nil => exact names
  | cons target snapshot induction =>
      exact
        induction (fun other member => tracked other (.tail _ member))
          (observeNode_names names (tracked target (.head _)))

theorem observeSelf_names
    {known : UInt32 → Prop}
    (names : Names RegistryEntry.nodeId known world.entries)
    (selfNode : UInt32) :
    Names RegistryEntry.nodeId known
      (observeSelf selfNode world).entries := by
  rw [observeSelf]
  split
  · exact names
  · cases found : findLocked world.entries selfNode with
    | none => exact names
    | some slot =>
        have member := List.mem_of_getElem? (Slots.find?_some found).1
        refine names.set ?_ slot.1
        exact names slot.2 member

theorem registryProcess_names
    {known : UInt32 → Prop}
    (names : Names RegistryEntry.nodeId known world.entries)
    {snapshot : List TrackedNode}
    (tracked :
      ∀ target ∈ snapshot,
        target.nodeId = 0 ∨ target.nodeId = selfNode ∨ known target.nodeId)
    (nowMs : UInt32) :
    Names RegistryEntry.nodeId known
      (world.process nowMs snapshot selfNode).entries := by
  rw [RegistryWorld.process]
  split
  · exact names
  · split
    · exact names
    · exact
        observeSelf_names
          (observeNodes_names tracked (names.map resetRuntime_nodeId))
          selfNode

/-! ## What is heard -/

theorem heartbeat_notMem_internalFrameCallback
    (receiver : Receiver) (bytes : List UInt8)
    (heartbeat : TransportHeartbeat) :
    Delivery.heartbeat heartbeat ∉ internalFrameCallback receiver bytes := by
  simp only [internalFrameCallback, protocolProcessFrame]
  split <;> simp

variable {receiver : Receiver} {heartbeat : TransportHeartbeat}

theorem mem_notifyHeartbeat
    {transport : UInt8}
    {timestampMs sourceIp : UInt32} {message : EndapHeartbeat}
    (heard :
      .heartbeat heartbeat ∈
        notifyHeartbeat receiver transport timestampMs sourceIp message) :
    heartbeat.nodeId = message.nodeId := by
  rw [notifyHeartbeat] at heard
  split at heard
  · cases heard
  · rw [Delivery.heartbeat.inj (List.mem_singleton.mp heard)]

variable {message : ClusterMessage} {sender : Sender}

theorem heard_radioRx
    {transport : TransportType}
    (heard :
      .heartbeat heartbeat ∈
        radioRx receiver transport (message.bytes sender)) :
    message = .heartbeat ∧ heartbeat.nodeId = sender.selfNodeId := by
  rw [radioRx, heartbeat_recognize] at heard
  split at heard
  · cases heard
  · cases message with
    | heartbeat => exact ⟨rfl, mem_notifyHeartbeat heard⟩
    | _ =>
        simp only at heard
        split at heard
        · exact absurd heard (heartbeat_notMem_internalFrameCallback _ _ _)
        · cases heard

theorem heard_onRs485Frame
    (heard :
      .heartbeat heartbeat ∈
        onRs485Frame receiver
          (clusterRs485Frame sender.selfNodeId sender.rs485MsgId
            message.rs485Type (message.bytes sender))) :
    message = .heartbeat ∧ heartbeat.nodeId = sender.selfNodeId := by
  have fits := (bytes_length_pos sender message).2
  rw [onRs485Frame, clusterRs485Frame_data _ _ _ fits,
    heartbeat_recognize] at heard
  split at heard
  · cases heard
  · split at heard
    · cases message with
      | heartbeat => exact ⟨rfl, mem_notifyHeartbeat heard⟩
      | _ => cases heard
    · split at heard
      · exact absurd heard (heartbeat_notMem_internalFrameCallback _ _ _)
      · cases heard

/-- A heartbeat that any node hears in a packet is that of the node the packet
came from. -/
theorem heard_of_carries
    {packet : Packet}
    (carries : Carries sender message packet)
    {sourceIp : UInt32}
    (heard : .heartbeat heartbeat ∈ receive receiver sourceIp packet) :
    message = .heartbeat ∧ heartbeat.nodeId = sender.selfNodeId := by
  cases carries with
  | discovery isHeartbeat =>
      subst isHeartbeat
      have size := heartbeat_bytes_length sender
      rw [receive, discoveryRx, List.take_of_length_le size.le,
        heartbeat_recognize] at heard
      exact ⟨rfl, mem_notifyHeartbeat heard⟩
  | frame _ =>
      rw [receive, frameRx] at heard
      split at heard
      · cases heard
      · exact absurd heard (heartbeat_notMem_internalFrameCallback _ _ _)
  | rs485 => exact heard_onRs485Frame heard
  | _ => exact heard_radioRx heard

/-! ## Nobody is made up -/

/-- The nodes that the tables of a node may name. -/
def Known (registries : UInt32 → RegistryWorld) (node : UInt32)
    (said : List UInt32) (nodeId : UInt32) : Prop :=
  nodeId ∈ (registries node).entries.map RegistryEntry.nodeId ∨ nodeId ∈ said

/-- The tables of a node name nobody who is made up. -/
structure Member.Honest (registries : UInt32 → RegistryWorld)
    (node : UInt32) (said : List UInt32) (member : Member) : Prop where
  own : member.manager.selfNodeId = node
  tracked :
    Names TrackedNode.nodeId (fun nodeId => nodeId = node ∨ nodeId ∈ said)
      member.manager.nodes
  listed :
    Names RegistryEntry.nodeId (Known registries node said)
      member.registry.entries

/-- And every packet on a medium carries something that a node said. -/
structure Net.Honest (registries : UInt32 → RegistryWorld)
    (said : List UInt32) (net : Net) : Prop where
  members : ∀ node, (net.members node).Honest registries node said
  medium :
    ∀ packet ∈ net.medium, ∃ sender message,
      Carries sender message packet ∧
      (message = .heartbeat → sender.selfNodeId ∈ said)

variable {registries : UInt32 → RegistryWorld} {node : UInt32}
    {said : List UInt32} {member : Member}

theorem Member.Honest.imp
    {more : List UInt32}
    (honest : member.Honest registries node said) (grows : said ⊆ more) :
    member.Honest registries node more where
  own := honest.own
  tracked :=
    honest.tracked.imp fun _ known => known.imp_right fun old => grows old
  listed :=
    honest.listed.imp fun _ known => known.imp_right fun old => grows old

theorem take_honest
    (honest : member.Honest registries node said)
    {delivery : Delivery}
    (sent :
      ∀ heartbeat, delivery = .heartbeat heartbeat → heartbeat.nodeId ∈ said)
    (micros : Nat) :
    (Member.take node micros member delivery).Honest registries node
      said := by
  cases delivery with
  | heartbeat heartbeat =>
      have spoke := sent heartbeat rfl
      rw [Member.take, clusterDiscoveryOnHeartbeat]
      split
      · exact honest
      · refine ⟨?_, ?_, ?_⟩
        · exact
            (call_selfNodeId member.manager
              (.updateNode heartbeat.nodeId micros)).trans honest.own
        · exact updateNode_names honest.tracked (.inr spoke) micros
        · exact noteTransport_names honest.listed (.inr spoke) _ _
  | _ => exact honest

theorem takes_honest
    {deliveries : List Delivery}
    (sent :
      ∀ heartbeat, .heartbeat heartbeat ∈ deliveries → heartbeat.nodeId ∈ said)
    (micros : Nat)
    (honest : member.Honest registries node said) :
    (deliveries.foldl (Member.take node micros) member).Honest registries
      node said := by
  induction deliveries generalizing member with
  | nil => exact honest
  | cons delivery deliveries induction =>
      refine
        induction (fun heartbeat later => sent heartbeat (.tail _ later))
          (take_honest honest ?_ micros)
      intro heartbeat isHeartbeat
      rw [isHeartbeat] at sent
      exact sent heartbeat (.head _)

variable {net : Net}

theorem Net.Honest.modify
    (honest : net.Honest registries said) (node : UInt32)
    (change : Member → Member)
    (keeps : (change (net.members node)).Honest registries node said) :
    (net.modify node change).Honest registries said where
  members other := by
    by_cases same : other = node
    · subst same
      have changed :
          (net.modify other change).members other =
            change (net.members other) :=
        Function.update_self ..
      rw [changed]
      exact keeps
    · have kept :
          (net.modify node change).members other = net.members other :=
        Function.update_of_ne same ..
      rw [kept]
      exact honest.members other
  medium := honest.medium

theorem Net.Honest.imp
    {more : List UInt32}
    (honest : net.Honest registries said)
    (grows : said ⊆ more) :
    net.Honest registries more where
  members node := (honest.members node).imp grows
  medium packet member := by
    rcases honest.medium packet member with
      ⟨sender, message, carries, spoke⟩
    exact
      ⟨sender, message, carries, fun isHeartbeat =>
        grows (spoke isHeartbeat)⟩

theorem say_honest
    (honest : net.Honest registries said)
    (world : TransportWorld) (rs485Available : Bool) (sender : Sender)
    (message : ClusterMessage) :
    (netStep net (.say world rs485Available sender message)).1.Honest
      registries
      (said ++
        (netStep net
          (.say world rs485Available sender message)).2.toList) := by
  rw [netStep]
  cases sent : send world rs485Available sender message with
  | none =>
      rw [Option.toList_none, List.append_nil]
      exact honest
  | some packet =>
      have grown :=
        honest.imp
          (List.subset_append_left said (message.speaker sender).toList)
      refine ⟨grown.members, fun other member => ?_⟩
      rcases List.mem_append.mp member with old | new
      · exact grown.medium other old
      · rw [List.mem_singleton.mp new]
        refine ⟨sender, message, send_carries sent, fun isHeartbeat => ?_⟩
        subst isHeartbeat
        exact List.mem_append_right _ (.head _)

theorem deliver_honest
    (honest : net.Honest registries said)
    (receiver : Receiver) (sourceIp : UInt32) (index micros : Nat) :
    (netStep net (.deliver receiver sourceIp index micros)).1.Honest
      registries said := by
  rw [netStep]
  cases found : net.medium[index]? with
  | none => exact honest
  | some packet =>
      rcases honest.medium packet (List.mem_of_getElem? found) with
        ⟨sender, message, carries, spoke⟩
      refine
        honest.modify receiver.selfNodeId _
          (takes_honest ?_ micros (honest.members _))
      intro heartbeat heard
      rcases heard_of_carries carries heard with ⟨isHeartbeat, own⟩
      rw [own]
      exact spoke isHeartbeat

theorem sync_honest
    (honest : net.Honest registries said) (node nowMs : UInt32) :
    (netStep net (.sync node nowMs)).1.Honest registries said := by
  have member := honest.members node
  refine honest.modify node (Member.sync nowMs) ⟨member.own, member.tracked, ?_⟩
  refine registryProcess_names member.listed (fun target exported => ?_) _
  rw [member.own]
  exact
    (member.tracked target (List.mem_of_mem_filter exported)).imp_right
      fun known => known.imp_right .inr

theorem netStep_honest
    (honest : net.Honest registries said) (action : NetAction) :
    (netStep net action).1.Honest registries
      (said ++ (netStep net action).2.toList) := by
  have silent {after : Net} (kept : after.Honest registries said) :
      after.Honest registries (said ++ []) := by
    rwa [List.append_nil]
  cases action with
  | say world rs485Available sender message =>
      exact say_honest honest world rs485Available sender message
  | deliver receiver sourceIp index micros =>
      have kept := deliver_honest honest receiver sourceIp index micros
      have quiet :
          (netStep net (.deliver receiver sourceIp index micros)).2 =
            none := by
        rw [netStep]
        split <;> rfl
      rw [quiet]
      exact silent kept
  | refresh node micros refreshMicros =>
      have member := honest.members node
      refine
        silent
          (honest.modify node (Member.refresh micros refreshMicros)
            ⟨?_, ?_, member.listed⟩)
      · exact
          (call_selfNodeId _ (.process micros refreshMicros)).trans member.own
      · exact process_names member.tracked micros refreshMicros
  | sync node nowMs => exact silent (sync_honest honest node nowMs)
  | remove node nodeId =>
      have member := honest.members node
      refine
        silent
          (honest.modify node (Member.remove nodeId) ⟨?_, ?_, member.listed⟩)
      · exact (call_selfNodeId _ (.removeNode nodeId)).trans member.own
      · exact removeNode_names member.tracked nodeId

theorem start_honest
    (startMicros : UInt32 → Nat) (registries : UInt32 → RegistryWorld) :
    (netStart startMicros registries).Honest registries [] where
  members node :=
    { own :=
        (congrArg ClusterManager.selfNodeId
          (clusterManagerStart_eq node (startMicros node))).trans
          (call_selfNodeId (ClusterManager.blank node)
            (.updateNode node (startMicros node)))
      tracked := (start_names node (startMicros node)).imp fun _ own => .inl own
      listed := fun entry member =>
        .inr (.inl (List.mem_map_of_mem member)) }
  medium := fun _ member => by cases member

theorem run_honest
    (startMicros : UInt32 → Nat) (registries : UInt32 → RegistryWorld)
    (actions : List NetAction) :
    (Run.final netStep (netStart startMicros registries) actions).Honest
      registries
      (speakers
        (Run.history netStep (netStart startMicros registries) actions)) := by
  refine
    Run.history_induction
      (motive := fun past (net : Net) => net.Honest registries (speakers past))
      ?_ ?_ actions
  · exact start_honest startMicros registries
  · intro past net action honest
    have step := netStep_honest honest action
    rw [speakers, List.filterMap_append]
    cases spoke : (netStep net action).2 <;>
      simpa [Run.call, spoke, speakers] using step

/--
Whatever the media lose, delay, repeat, reorder or bring back, the tables of
every node name only the node itself, the nodes its registry was loaded with
and nodes that sent a heartbeat, and the master it elects is none, itself or
one that sent a heartbeat.
-/
theorem nobody_made_up
    (startMicros : UInt32 → Nat) (registries : UInt32 → RegistryWorld)
    (actions : List NetAction) (node : UInt32) :
    let net := Run.final netStep (netStart startMicros registries) actions
    let said :=
      speakers (Run.history netStep (netStart startMicros registries) actions)
    let member := net.members node
    let master := clusterGetMasterNode member.manager
    (∀ tracked ∈ member.manager.nodes,
        tracked.nodeId = 0 ∨ tracked.nodeId = node ∨ tracked.nodeId ∈ said) ∧
      (∀ entry ∈ member.registry.entries,
        entry.nodeId = 0 ∨
        entry.nodeId ∈ (registries node).entries.map RegistryEntry.nodeId ∨
        entry.nodeId ∈ said) ∧
      (master = 0 ∨ master = node ∨ master ∈ said) := by
  intro net said member master
  have honest : member.Honest registries node said :=
    (run_honest startMicros registries actions).members node
  refine ⟨honest.tracked, honest.listed, ?_⟩
  rcases master_cases member.manager with ⟨_, none⟩ | least
  · exact .inl none
  · rcases least.1 with ⟨tracked, listed, _, isMaster⟩
    have known := honest.tracked tracked listed
    rw [isMaster] at known
    exact known

end Endap.Cluster
