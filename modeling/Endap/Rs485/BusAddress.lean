import Endap.Library.Layout
import Endap.Rs485.Master

/-!
# The addresses of a node on the bus

A node answers the polls for one address, which its engine computes from its
identity.  In the frames that it sends for the cluster it puts the low byte of
its identity where the engine of the receiver expects that address.

The two are never the same, so the receiver keeps such a frame under another
node, or under none.
-/

namespace Endap.Rs485.BusAddress

open Endap.Library
open Endap.Rs485.Codec
open Endap.Rs485.Engine
open Endap.Rs485.Master

/-! ## Frames for the cluster -/

def endapClusterMagic : Nat := 0x454E4450

/-- `endap_heartbeat_t`, as `cluster_transport_send_heartbeat` fills it. -/
def endapHeartbeat (selfNodeId bootCounter uptimeSeconds : UInt32) :
    List UInt8 :=
  Layout.littleEndian 4 endapClusterMagic ++
    Layout.littleEndian 4 selfNodeId.toNat ++
      Layout.littleEndian 4 bootCounter.toNat ++
        Layout.littleEndian 4 uptimeSeconds.toNat ++ [1, 1]

/-- The branch of `cluster_transport_send_heartbeat` for the bus. -/
def clusterTransportSendHeartbeat
    (selfNodeId : UInt32) (msgId : UInt16)
    (bootCounter uptimeSeconds : UInt32) : Rs485Frame :=
  { node := selfNodeId.toUInt8
    msgId := msgId
    type := frameTypeClusterHeartbeat
    len := 18
    payload :=
      overwrite (Vector.replicate 64 0)
        (endapHeartbeat selfNodeId bootCounter uptimeSeconds) }

/-- The branch of `cluster_transport_broadcast_frame` for the bus; `none` when
it refuses. -/
def clusterTransportBroadcastFrame
    (selfNodeId : UInt32) (msgId : UInt16) (data : List UInt8) :
    Option Rs485Frame :=
  if data.length = 0 ∨ frameMaxPayload < data.length then none
  else
    some
      { node := selfNodeId.toUInt8
        msgId := msgId
        type := frameTypeClusterFrame
        len := UInt8.ofNat data.length
        payload := overwrite (Vector.replicate 64 0) data }

/-- The frames that a node sends for the cluster. -/
inductive SentBy (uid : UInt32) : Rs485Frame → Prop
  | heartbeat (msgId : UInt16) (bootCounter uptimeSeconds : UInt32) :
      SentBy uid
        (clusterTransportSendHeartbeat uid msgId bootCounter uptimeSeconds)
  | broadcast (msgId : UInt16) (data : List UInt8) {frame : Rs485Frame}
      (accepted : clusterTransportBroadcastFrame uid msgId data = some frame) :
      SentBy uid frame

variable {uid : UInt32}

theorem SentBy.node_eq {frame : Rs485Frame}
    (sent : SentBy uid frame) : frame.node = uid.toUInt8 := by
  cases sent with
  | heartbeat => rfl
  | broadcast msgId data accepted =>
      rw [clusterTransportBroadcastFrame] at accepted
      split at accepted
      · cases accepted
      · rw [← Option.some.inj accepted]

/-! ## The address that is polled -/

/-- The engine of a node with this identity, before or after it has computed
its address. -/
structure Identified (engine : Rs485Engine) (uid : UInt32) : Prop where
  identity : engine.nodeIdentity = uid
  localNode :
    engine.localNodeId = 0 ∨
    engine.localNodeId = rs485EngineComputeLocalNodeId uid

/-- The engine answers the polls for this address and no others. -/
def AnswersPollsAt (engine : Rs485Engine) (address : UInt8) : Prop :=
  ∀ poll : Rs485Frame,
    poll.type = frameTypePoll → poll.len = 0 →
    ((rs485EngineShouldReplyToPoll engine poll).1 = true ↔
    poll.node = address)

theorem rs485EngineInit_identified (engine : Rs485Engine) (uid : UInt32) :
    Identified (rs485EngineInit engine uid) uid :=
  ⟨rfl, .inr rfl⟩

variable {engine : Rs485Engine}

theorem Identified.localNodeId
    (identified : Identified engine uid) :
    (rs485EngineLocalNodeId engine).1 =
      rs485EngineComputeLocalNodeId uid := by
  rw [rs485EngineLocalNodeId]
  split
  · exact congrArg rs485EngineComputeLocalNodeId identified.identity
  · next computed => exact identified.localNode.resolve_left computed

theorem Identified.answersPollsAt
    (identified : Identified engine uid) :
    AnswersPollsAt engine (rs485EngineComputeLocalNodeId uid) := by
  intro poll isPoll empty
  rw [rs485EngineShouldReplyToPoll, if_neg (not_not.mpr isPoll),
    if_neg (not_not.mpr empty)]
  simp only [identified.localNodeId, beq_iff_eq]

theorem AnswersPollsAt.unique
    {first second : UInt8}
    (answersFirst : AnswersPollsAt engine first)
    (answersSecond : AnswersPollsAt engine second) : first = second := by
  have answered := (answersFirst (pollFrame first 0) rfl rfl).mpr rfl
  exact (answersSecond (pollFrame first 0) rfl rfl).mp answered

theorem lowByte_ne_address (uid : UInt32) :
    uid.toUInt8 ≠ rs485EngineComputeLocalNodeId uid := by
  have address : (uid % 64 + 1).toUInt8.toNat = uid.toNat % 64 + 1 := by
    have small : uid.toNat % 64 < 64 := Nat.mod_lt _ (by decide)
    rw [UInt32.toNat_toUInt8, UInt32.toNat_add, UInt32.toNat_mod]
    change (uid.toNat % 64 + 1) % 2 ^ 32 % 2 ^ 8 = _
    omega
  intro same
  have numbers := congrArg UInt8.toNat same
  simp only [rs485EngineComputeLocalNodeId] at numbers
  rw [if_neg] at numbers
  · rw [address, UInt32.toNat_toUInt8] at numbers
    omega
  · intro none
    rw [none] at address
    exact absurd address (by simp)

/-! ## Receiving -/

theorem nodeIndex_inj {first second : UInt8}
    (same : nodeIndex first = nodeIndex second) : first = second := by
  have shifted : first - 1 = second - 1 := UInt8.toNat_inj.mp same
  exact (UInt8.sub_left_inj 1).mp shifted

theorem rs485EngineShouldReplyToPoll_nodes
    (engine : Rs485Engine) (frame : Rs485Frame) :
    (rs485EngineShouldReplyToPoll engine frame).2.nodes = engine.nodes := by
  rw [rs485EngineShouldReplyToPoll]
  split
  · rfl
  · split
    · rfl
    · rw [rs485EngineLocalNodeId]
      split
      · rfl
      · rfl

theorem routeFrame_nodes_of_ne
    (engine : Rs485Engine) (frame : Rs485Frame) (nowUs : UInt64)
    {index : Nat} (other : index ≠ nodeIndex frame.node) :
    (routeFrame engine frame nowUs).1.nodes index = engine.nodes index := by
  have replied := rs485EngineShouldReplyToPoll_nodes engine frame
  rw [routeFrame]
  simp only
  split
  · exact congrFun replied index
  · split
    · split
      · simp only [markOnline, Function.update_of_ne other, replied]
      · exact congrFun replied index
    · exact congrFun replied index

theorem selfTestFeed_nodes (engine : Rs485Engine) (nowUs : UInt64) :
    (selfTestFeed engine nowUs).nodes = engine.nodes := by
  rw [selfTestFeed]
  split
  · split
    · simp only
      split
      · rfl
      · rfl
    · rfl
  · rfl

theorem rs485EngineReceive_nodes_of_ne
    {buffer received : Rs485Frame}
    {chunk : List UInt8} {nowUs : UInt64}
    (accepted :
      (rs485EngineReceive engine buffer chunk nowUs).accepted = some received)
    {index : Nat} (other : index ≠ nodeIndex received.node) :
    (rs485EngineReceive engine buffer chunk nowUs).engine.nodes index =
      engine.nodes index := by
  have tested := congrFun (selfTestFeed_nodes engine nowUs) index
  rw [Reception.accepted] at accepted
  rw [rs485EngineReceive] at accepted ⊢
  simp only at accepted ⊢
  split
  · exact tested
  · split
    · exact tested
    · split
      · next waiting some verdict =>
          rw [if_neg waiting, if_neg some, if_pos verdict] at accepted
          simp only [verdict] at accepted
          rw [← Option.some.inj accepted] at other
          rw [routeFrame_nodes_of_ne _ _ _ other]
          exact tested
      · exact tested

/-! ## Two addresses -/

/-- A node never puts the address at which it is polled into a frame that it
sends for the cluster, and the frame never touches the slot of that
address. -/
theorem bus_addresses_differ (uid : UInt32) (frame : Rs485Frame)
    (sent : SentBy uid frame) :
    (∀ engine,
        Identified engine uid →
        AnswersPollsAt engine (rs485EngineComputeLocalNodeId uid) ∧
        ¬ AnswersPollsAt engine frame.node) ∧
      ∀ receiver buffer chunk nowUs received,
        (rs485EngineReceive receiver buffer chunk nowUs).accepted =
            some received →
          received.SameMessage frame →
          (rs485EngineReceive receiver buffer chunk
              nowUs).engine.nodes
              (nodeIndex (rs485EngineComputeLocalNodeId uid)) =
            receiver.nodes
              (nodeIndex (rs485EngineComputeLocalNodeId uid)) := by
  have differs : frame.node ≠ rs485EngineComputeLocalNodeId uid := by
    rw [sent.node_eq]
    exact lowByte_ne_address uid
  constructor
  · intro engine identified
    refine ⟨identified.answersPollsAt, ?_⟩
    intro answers
    exact differs (answers.unique identified.answersPollsAt)
  · intro receiver buffer chunk nowUs received accepted same
    apply rs485EngineReceive_nodes_of_ne accepted
    intro sameSlot
    exact differs (same.1.symm.trans (nodeIndex_inj sameSlot).symm)

def firstHeartbeat : Rs485Frame := clusterTransportSendHeartbeat 1 1 1 60

theorem firstHeartbeat_address :
    AnswersPollsAt (rs485EngineInit staticEngine 1) 2 ∧
    ¬ AnswersPollsAt (rs485EngineInit staticEngine 1) 1 :=
  (bus_addresses_differ 1 firstHeartbeat (.heartbeat 1 1 60)).1 _
    (rs485EngineInit_identified staticEngine 1)

/-- It is polled at 2 and marks the slot that is polled at 1. -/
theorem firstHeartbeat_marks_other_slot :
    firstHeartbeat.node = 1 ∧
    (rs485EngineShouldReplyToPoll (rs485EngineInit staticEngine 1)
        (pollFrame 2 1)).1 = true ∧
    (rs485EngineShouldReplyToPoll (rs485EngineInit staticEngine 1)
        (pollFrame 1 1)).1 = false ∧
    ((routeFrame staticEngine firstHeartbeat 0).1.nodes
        (nodeIndex 1)).state = .online ∧
    ((routeFrame staticEngine firstHeartbeat 0).1.nodes
        (nodeIndex 2)).state = .unknown :=
  ⟨rfl, by decide, by decide, by decide, by decide⟩

end Endap.Rs485.BusAddress
