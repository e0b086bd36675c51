import Endap.Cluster.Wire
import Endap.Rs485.Delivery

/-!
# From node to node over the RS485 bus

The messages of the cluster share the bus with the polling.  A node sends a
message as one frame, the frames become text between delimiters, the text
arrives in chunks, and the engine of every other node puts the frames together
again, keeps those of the polling for itself and hands those of the cluster
over.

As long as no chunk has a byte after the end of a frame, every node hears
exactly the messages that were sent, in their order and as they were sent, but
for its own heartbeats.
-/

namespace Endap.Cluster

open Endap.Library
open Endap.Rs485
open Endap.Rs485.Codec
open Endap.Rs485.Delivery
open Endap.Rs485.Engine
open Endap.Rs485.Receive

/-! ## The frames that are handed over -/

/-- The frame is one of the cluster. -/
def ClusterFrame (frame : Rs485Frame) : Prop :=
  frame.type = frameTypeClusterHeartbeat ∨ frame.type = frameTypeClusterFrame

instance (frame : Rs485Frame) : Decidable (ClusterFrame frame) :=
  inferInstanceAs (Decidable (_ ∨ _))

/-- The frames that a run hands to the callback of the cluster. -/
def handedOver (engine : Rs485Engine) (calls : List ReceiveCall) :
    List Rs485Frame :=
  (Run.history receiveCall engine calls).filterMap fun made =>
    made.output.external

theorem shouldReplyToPoll_cluster
    (engine : Rs485Engine) {frame : Rs485Frame}
    (cluster : ClusterFrame frame) :
    rs485EngineShouldReplyToPoll engine frame = (false, engine) := by
  have notPoll : frame.type ≠ frameTypePoll := by
    rcases cluster with heartbeat | other
    · rw [heartbeat]
      decide
    · rw [other]
      decide
  rw [rs485EngineShouldReplyToPoll, if_pos notPoll]

theorem shouldReplyToPoll_callback
    (engine : Rs485Engine) (frame : Rs485Frame) :
    (rs485EngineShouldReplyToPoll engine frame).2.externalFrameCb =
      engine.externalFrameCb := by
  unfold rs485EngineShouldReplyToPoll rs485EngineLocalNodeId
  split
  · rfl
  · split
    · rfl
    · split
      · rfl
      · rfl

theorem routeFrame_callback
    (engine : Rs485Engine) (frame : Rs485Frame) (nowUs : UInt64) :
    (routeFrame engine frame nowUs).1.externalFrameCb =
      engine.externalFrameCb := by
  have kept := shouldReplyToPoll_callback engine frame
  simp only [routeFrame]
  split
  · exact kept
  · split
    · split
      · exact kept
      · exact kept
    · exact kept

theorem routeFrame_external
    {engine : Rs485Engine} (registered : engine.externalFrameCb = true)
    (frame : Rs485Frame) (nowUs : UInt64) :
    (routeFrame engine frame nowUs).2.2 =
      if ClusterFrame frame then some frame else none := by
  by_cases cluster : ClusterFrame frame
  · have noPoll := shouldReplyToPoll_cluster engine cluster
    rw [if_pos cluster]
    simp only [routeFrame, noPoll, Bool.false_eq_true, if_false]
    rw [if_pos (show _ ∨ _ from cluster)]
    refine if_pos ?_
    split
    · exact registered
    · exact registered
  · rw [if_neg cluster]
    simp only [routeFrame]
    split
    · rfl
    · rw [if_neg (show ¬ (_ ∨ _) from cluster)]

theorem receiveCall_external
    {engine : Rs485Engine} (registered : engine.externalFrameCb = true)
    {collecting : Option (List UInt8)} (tracks : Receive.Tracks engine collecting)
    (call : ReceiveCall) :
    (receiveCall engine call).1.externalFrameCb = true ∧
    (receiveCall engine call).2.external =
      (receiveCall engine call).2.accepted.filter
        (fun frame => ClusterFrame frame) := by
  have untested : selfTestFeed engine call.nowUs = engine := by
    simp [selfTestFeed, tracks.1]
  simp only [receiveCall, rs485EngineReceive, untested]
  split
  · exact ⟨registered, rfl⟩
  · split
    · exact ⟨registered, rfl⟩
    · split
      · next verdict =>
          refine ⟨(routeFrame_callback _ _ _).trans registered, ?_⟩
          refine Eq.trans (routeFrame_external ?_ _ _) ?_
          · exact registered
          simp only [Reception.accepted, verdict, Option.filter_some,
            decide_eq_true_eq]
      · next refused =>
          refine ⟨registered, ?_⟩
          rw [Reception.accepted]
          split
          · next verdict =>
              simp only [Option.some.injEq, Prod.mk.injEq] at verdict
              exact absurd verdict.2 refused
          · rfl

theorem receiveCall_tracks
    {engine : Rs485Engine} {collecting : Option (List UInt8)}
    (tracks : Receive.Tracks engine collecting) (call : ReceiveCall) :
    ∃ next, Receive.Tracks (receiveCall engine call).1 next := by
  cases receive_cases tracks call with
  | quiet _ next _ => exact ⟨_, next⟩
  | ended _ _ _ _ _ _ next _ _ => exact ⟨_, next⟩

theorem handedOver_eq
    {engine : Rs485Engine} (registered : engine.externalFrameCb = true)
    {collecting : Option (List UInt8)} (tracks : Receive.Tracks engine collecting)
    (calls : List ReceiveCall) :
    handedOver engine calls =
      (acceptedFrames engine calls).filter
        (fun frame => ClusterFrame frame) := by
  induction calls generalizing engine collecting with
  | nil => rfl
  | cons call rest induction =>
      rcases receiveCall_external registered tracks call with
        ⟨still, external⟩
      rcases receiveCall_tracks tracks call with ⟨next, follows⟩
      have later := induction still follows
      have first :
          handedOver engine (call :: rest) =
            (receiveCall engine call).2.external.toList ++
              handedOver (receiveCall engine call).1 rest := by
        simp only [handedOver, Run.history, Run.call]
        cases handed : (receiveCall engine call).2.external with
        | _ => simp [handed]
      rw [first, acceptedFrames_cons, List.filter_append, later, external]
      congr 1
      cases (receiveCall engine call).2.accepted with
      | none => rfl
      | some frame =>
          by_cases cluster : ClusterFrame frame
          · simp [Option.filter_some, cluster]
          · simp [Option.filter_some, cluster]

/-! ## What is on the bus -/

/-- One frame on the bus: a message of a node of the cluster, or something of
the polling. -/
inductive BusItem where
  | message (sender : Sender) (message : ClusterMessage)
  | polling (frame : Rs485Frame)

def BusItem.frame : BusItem → Rs485Frame
  | .message sender said =>
      clusterRs485Frame sender.selfNodeId sender.rs485MsgId said.rs485Type
        (said.bytes sender)
  | .polling frame => frame

/-- A message was sent over RS485; the frames of the polling are none of the
cluster. -/
def BusItem.Proper : BusItem → Prop
  | .message sender said =>
      ∃ world rs485Available,
        send world rs485Available sender said =
          some (.rs485 (BusItem.message sender said).frame)
  | .polling frame =>
      frame.len.toNat ≤ frameMaxPayload ∧ ¬ ClusterFrame frame

/-- The messages on the bus, in order. -/
def busMessages (items : List BusItem) : List (Sender × ClusterMessage) :=
  items.filterMap fun
    | .message sender message => some (sender, message)
    | .polling _ => none

/-- What a node hears of a message: nothing of its own heartbeat, and
otherwise the message, as it was sent. -/
def Hears (receiver : Receiver) (deliveries : List Delivery)
    (said : Sender × ClusterMessage) : Prop :=
  (said.2 = .heartbeat ∧ said.1.selfNodeId = receiver.selfNodeId →
      deliveries = []) ∧
    (¬ (said.2 = .heartbeat ∧ said.1.selfNodeId = receiver.selfNodeId) →
    Reaches said.1 said.2 deliveries)

theorem message_frame_len (sender : Sender) (message : ClusterMessage) :
    (BusItem.message sender message).frame.len.toNat ≤ frameMaxPayload := by
  have fits := (bytes_length_pos sender message).2
  have small : frameMaxPayload < 2 ^ 8 := by decide
  show (UInt8.ofNat (message.bytes sender).length).toNat ≤ _
  rw [UInt8.toNat_ofNat_of_lt' (Nat.lt_of_le_of_lt fits small)]
  exact fits

theorem BusItem.Proper.short {item : BusItem} (proper : item.Proper) :
    item.frame.len.toNat ≤ frameMaxPayload := by
  cases item with
  | message sender message => exact message_frame_len sender message
  | polling frame => exact proper.1

theorem message_frame_cluster (sender : Sender) (message : ClusterMessage) :
    ClusterFrame (BusItem.message sender message).frame := by
  cases message with
  | heartbeat => exact .inl rfl
  | _ => exact .inr rfl

theorem onRs485Frame_same
    (receiver : Receiver) {left right : Rs485Frame}
    (same : left.SameMessage right) :
    onRs485Frame receiver left = onRs485Frame receiver right := by
  rcases same with ⟨-, -, type, -, data⟩
  rw [onRs485Frame, onRs485Frame, type, data]

theorem onRs485Frame_hears
    {receiver : Receiver}
    (listens : ∀ frame, receiver.Listens (.rs485 frame))
    (sender : Sender) (message : ClusterMessage) :
    Hears receiver
      (onRs485Frame receiver (BusItem.message sender message).frame)
      (sender, message) :=
  @carries_reaches sender message
    (.rs485 (BusItem.message sender message).frame) .rs485 receiver
    (listens _) 0

theorem hears_of_sameMessage
    {receiver : Receiver}
    (listens : ∀ frame, receiver.Listens (.rs485 frame))
    {items : List BusItem} (proper : ∀ item ∈ items, item.Proper)
    {frames : List Rs485Frame}
    (arrived :
      List.Forall₂ Rs485Frame.SameMessage frames (items.map BusItem.frame)) :
    List.Forall₂ (Hears receiver)
      ((frames.filter fun frame => ClusterFrame frame).map
        (onRs485Frame receiver))
      (busMessages items) := by
  induction items generalizing frames with
  | nil =>
      cases arrived
      exact .nil
  | cons item items induction =>
      rcases frames with _ | ⟨frame, frames⟩
      · cases arrived
      · rcases List.forall₂_cons.mp arrived with ⟨same, others⟩
        have later :=
          induction
            (fun other member => proper other (List.mem_cons_of_mem _ member))
            others
        have here := proper item (List.mem_cons_self ..)
        have type : ClusterFrame frame ↔ ClusterFrame item.frame := by
          rw [ClusterFrame, same.2.2.1]
          rfl
        cases item with
        | message sender message =>
            have cluster := type.mpr (message_frame_cluster sender message)
            rw [List.filter_cons_of_pos (by exact decide_eq_true cluster)]
            refine .cons ?_ later
            rw [onRs485Frame_same receiver same]
            exact onRs485Frame_hears listens sender message
        | polling other =>
            have notCluster : ¬ ClusterFrame frame :=
              fun cluster => here.2 (type.mp cluster)
            rw [List.filter_cons_of_neg (by simpa using notCluster)]
            exact later

/--
Whatever messages the nodes of the cluster send over RS485, in whatever order
and however mixed with the polling, a node whose engine reads the bus in
chunks without a byte after the end of a frame hears exactly those messages,
one after the other and as they were sent, but for its own heartbeats.
-/
theorem bus_heard_in_order
    {items : List BusItem} (proper : ∀ item ∈ items, item.Proper)
    {receiver : Receiver}
    (listens : ∀ frame, receiver.Listens (.rs485 frame))
    {engine : Rs485Engine} (registered : engine.externalFrameCb = true)
    (nodeIdentity : UInt32) {calls : List ReceiveCall}
    (bus : consumed calls = busStream (items.map BusItem.frame))
    (closing : ∀ call ∈ calls, ClosingLast call.chunk) :
    List.Forall₂ (Hears receiver)
      ((handedOver (receiveStart engine nodeIdentity) calls).map
        (onRs485Frame receiver))
      (busMessages items) := by
  have tracks := receiveStart_tracks engine nodeIdentity
  have short :
      ∀ frame ∈ items.map BusItem.frame,
        frame.len.toNat ≤ frameMaxPayload := by
    intro frame member
    rcases List.mem_map.mp member with ⟨item, inItems, rfl⟩
    exact (proper item inItems).short
  have delivered :
      Delimited.deliveries startByte endByte none (consumed calls) =
        (items.map BusItem.frame).map wireBody := by
    rw [bus, busStream_eq short]
    exact
      Delimited.deliveries_stream start_ne_end _
        (wireBodies_plain (items.map BusItem.frame))
  have arrived := acceptedFrames_of_deliveries tracks closing short delivered
  have registeredStart :
      (receiveStart engine nodeIdentity).externalFrameCb = true := registered
  rw [handedOver_eq registeredStart tracks]
  exact hears_of_sameMessage listens proper arrived

def pollBetween : List BusItem :=
  [.message nodeSeven .heartbeat,
    .polling { Rs485Frame.zero with node := 2, type := 1 },
    .message nodeSeven (.outputCommand outputOn)]

/-- What the bus carries of them, in pieces of which none goes on behind the
end of a frame. -/
def pollBetweenPieces : List (List UInt8) :=
  (pollBetween.map fun item =>
      [(busStream [item.frame]).take 9,
        (busStream [item.frame]).drop 9]).flatten

theorem bus_heard_in_order_pollBetween :
    List.Forall₂ (Hears nodeNine)
      ((handedOver
          (receiveStart { staticEngine with externalFrameCb := true } 0)
          (callsOf pollBetweenPieces)).map
        (onRs485Frame nodeNine))
      (busMessages pollBetween) := by
  have overBus :
      send rs485World true nodeSeven (.outputCommand outputOn) =
        some
          (.rs485
            (BusItem.message nodeSeven
              (.outputCommand outputOn)).frame) := by
    decide +kernel
  refine
    @bus_heard_in_order pollBetween ?_ nodeNine
      (fun _ => ⟨rfl, rfl, fun _ => rfl⟩)
      { staticEngine with externalFrameCb := true } rfl 0
      (callsOf pollBetweenPieces) ?_ ?_
  · intro item member
    simp only [pollBetween, List.mem_cons, List.not_mem_nil, or_false] at member
    rcases member with rfl | rfl | rfl
    · exact ⟨rs485World, true, rfl⟩
    · exact ⟨by decide, by decide⟩
    · exact ⟨rs485World, true, overBus⟩
  · decide +kernel
  · exact callsOf_closing (by decide +kernel)

end Endap.Cluster
