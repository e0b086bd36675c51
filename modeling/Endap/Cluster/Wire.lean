import Endap.Automation.Runtime
import Endap.Cluster.Ownership
import Endap.Cluster.RemoteClaim
import Endap.Cluster.RemoteTransport
import Endap.Library.CText
import Endap.Library.Tagged
import Endap.Rs485.Engine

/-!
# The cluster on the wire

Five kinds of message travel between the nodes: heartbeats, claims, transport
changes and the two messages of the protocol.  Over UDP the heartbeats have a
port of their own, on RS485 a frame type; over ESP-NOW and the mesh everything
arrives at one receiver, which tells heartbeats by their magic.  Every other
frame is shown to the claim handler, the transport handler and the protocol in
turn, and each of them looks at its own magic or type byte.

Whatever transport carries a message, exactly its own handler gets it, and
gets it as it was sent; a node does not hear its own heartbeat.
-/

namespace Endap.Cluster

open Endap.Automation
open Endap.Library
open Endap.Onboarding
open Endap.Rs485
open Endap.Rs485.Engine (frameTypeClusterHeartbeat frameTypeClusterFrame)

/-! ## The messages in memory -/

/-- `endap_heartbeat_t`, without the magic. -/
structure EndapHeartbeat where
  nodeId : UInt32
  bootCounter : UInt32
  uptimeSeconds : UInt32
  nodeType : UInt8
  state : UInt8

/-- `endap_heartbeat_t` is packed and begins with `ENDAP_CLUSTER_MAGIC`. -/
def heartbeatFormat : Tagged UInt32 EndapHeartbeat where
  kind := Layout.u32
  tag := 0x454E4450
  body :=
    (Layout.u32.andThen
      (Layout.u32.andThen
        (Layout.u32.andThen (Layout.u8.andThen Layout.u8)))).retype
      (fun (nodeId, bootCounter, uptimeSeconds, nodeType, state) =>
        { nodeId := nodeId
          bootCounter := bootCounter
          uptimeSeconds := uptimeSeconds
          nodeType := nodeType
          state := state })
      (fun message =>
        (message.nodeId, message.bootCounter, message.uptimeSeconds,
          message.nodeType, message.state))
      (fun _ => rfl)

/-- The number of an `endap_remote_claim_type_t`. -/
def ClaimMsgType.code : ClaimMsgType → UInt8
  | .none => 0
  | .req => 1
  | .resp => 2

/-- The handler compares with the two types and leaves every other number
alone. -/
def ClaimMsgType.ofCode (code : UInt8) : ClaimMsgType :=
  if code = 1 then .req else if code = 2 then .resp else .none

theorem ClaimMsgType.ofCode_code (type : ClaimMsgType) :
    ofCode type.code = type := by
  cases type <;> rfl

/-- `endap_remote_claim_msg_t` without the magic, its name as an array. -/
structure RemoteClaimWire where
  msgType : ClaimMsgType
  profile : UInt8
  statusCode : UInt16
  targetNodeId : UInt32
  gatewayId : UInt32
  nodeName : Fin nodeNameMax → UInt8

/-- `endap_remote_claim_msg_t` is packed and begins with
`ENDAP_REMOTE_CLAIM_MAGIC`. -/
def claimFormat : Tagged UInt32 RemoteClaimWire where
  kind := Layout.u32
  tag := 0x434C4D31
  body :=
    (Layout.u8.andThen
      (Layout.u8.andThen
        (Layout.u16.andThen
          (Layout.u32.andThen
            (Layout.u32.andThen (Layout.array nodeNameMax Layout.u8)))))).retype
      (fun (msgType, profile, statusCode, target, gateway, nodeName) =>
        { msgType := ClaimMsgType.ofCode msgType
          profile := profile
          statusCode := statusCode
          targetNodeId := target
          gatewayId := gateway
          nodeName := nodeName })
      (fun message =>
        (message.msgType.code, message.profile, message.statusCode,
          message.targetNodeId, message.gatewayId, message.nodeName))
      (fun message => by simp only [ClaimMsgType.ofCode_code])

/-- The message as its sender fills it in: the name is copied into an array
of zeros. -/
def RemoteClaimMsg.wire (msg : RemoteClaimMsg) : RemoteClaimWire where
  msgType := msg.msgType
  profile := msg.profile
  statusCode := msg.statusCode
  targetNodeId := msg.targetNodeId
  gatewayId := msg.gatewayId
  nodeName := CText.strncpy (fun _ => 0) msg.nodeName (nodeNameMax - 1)

/-- The message as its handler reads it: the name is a text. -/
def RemoteClaimWire.msg (message : RemoteClaimWire) : RemoteClaimMsg where
  msgType := message.msgType
  profile := message.profile
  statusCode := message.statusCode
  targetNodeId := message.targetNodeId
  gatewayId := message.gatewayId
  nodeName := CText.text message.nodeName

theorem RemoteClaimMsg.msg_wire
    {msg : RemoteClaimMsg}
    (nonzero : ∀ character ∈ msg.nodeName, character ≠ 0)
    (fits : msg.nodeName.length < nodeNameMax) :
    msg.wire.msg = msg := by
  have room : nodeNameMax - 1 < nodeNameMax := by decide
  have name : CText.text msg.wire.nodeName = msg.nodeName := by
    refine (CText.text_strncpy nonzero room rfl).trans ?_
    exact List.take_of_length_le (Nat.le_pred_of_lt fits)
  rw [RemoteClaimWire.msg, name]
  rfl

/-- The number of an `endap_remote_transport_type_t`. -/
def TransportMsgType.code : TransportMsgType → UInt8
  | .none => 0
  | .set => 1
  | .ack => 2

/-- Numbers that are no type are left alone. -/
def TransportMsgType.ofCode (code : UInt8) : TransportMsgType :=
  if code = 1 then .set else if code = 2 then .ack else .none

theorem TransportMsgType.ofCode_code (type : TransportMsgType) :
    ofCode type.code = type := by
  cases type <;> rfl

/-- `endap_remote_transport_msg_t` is packed and begins with
`ENDAP_REMOTE_TRANSPORT_MAGIC`. -/
def transportFormat : Tagged UInt32 RemoteTransportMsg where
  kind := Layout.u32
  tag := 0x54525031
  body :=
    (Layout.u8.andThen
      (Layout.u8.andThen
        (Layout.u8.andThen
          (Layout.u8.andThen
            (Layout.u8.andThen
              (Layout.u16.andThen (Layout.u32.andThen Layout.u32))))))).retype
      (fun (msgType, primary, fallback, wifiMode, flags, statusCode, target,
          gateway) =>
        { msgType := TransportMsgType.ofCode msgType
          primaryTransport := primary
          fallbackTransport := fallback
          wifiMode := wifiMode
          flags := flags
          statusCode := statusCode
          targetNodeId := target
          gatewayId := gateway })
      (fun message =>
        (message.msgType.code, message.primaryTransport,
          message.fallbackTransport, message.wifiMode, message.flags,
          message.statusCode, message.targetNodeId, message.gatewayId))
      (fun message => by simp only [TransportMsgType.ofCode_code])

/-- The size of the union in `protocol_msg_t`. -/
def protocolDataSize : Nat := 16

/-- `protocol_msg_t` with one member of its union; the union is aligned to
four bytes. -/
def protocolFormat {Data : Type} (type : UInt8) (data : Layout Data) :
    Tagged UInt8 Data where
  kind := Layout.u8
  tag := type
  body := (Layout.padded 3 data).trailing (protocolDataSize - data.size)

/-- `PROTOCOL_MSG_CLUSTER_IO_UPDATE`. -/
def ioUpdateFormat : Tagged UInt8 ProtocolClusterIoUpdate :=
  protocolFormat 0x10
    ((Layout.u16.andThen
      (Layout.padded 2 (Layout.u32.andThen Layout.u32))).retype
      (fun (ioId, newOwner, originalOwner) =>
        { ioId := ioId
          newOwner := newOwner
          originalOwner := originalOwner })
      (fun message =>
        (message.ioId, message.newOwner, message.originalOwner))
      (fun _ => rfl))

/-- `PROTOCOL_MSG_OUTPUT_COMMAND`. -/
def outputCommandFormat : Tagged UInt8 ProtocolOutputCommand :=
  protocolFormat 0x11
    ((Layout.u32.andThen
      (Layout.u32.andThen
        (Layout.u16.andThen (Layout.padded 2 Layout.i32)))).retype
      (fun (targetNode, requesterNode, outputId, value) =>
        { targetNode := targetNode
          requesterNode := requesterNode
          outputId := outputId
          value := value })
      (fun command =>
        (command.targetNode, command.requesterNode, command.outputId,
          command.value))
      (fun _ => rfl))

/-! ## Sending -/

/-- What a node says to the others; its heartbeat is what the node is. -/
inductive ClusterMessage where
  | heartbeat
  | claim (message : RemoteClaimWire)
  | transport (message : RemoteTransportMsg)
  | ioUpdate (message : ProtocolClusterIoUpdate)
  | outputCommand (message : ProtocolOutputCommand)

/-- What a node puts on a medium: a datagram to one of the two ports, an RS485
frame, or a packet of ESP-NOW or the mesh. -/
inductive Packet where
  | discovery (bytes : List UInt8)
  | frame (bytes : List UInt8)
  | rs485 (frame : Codec.Rs485Frame)
  | espNow (bytes : List UInt8)
  | mesh (bytes : List UInt8)
deriving DecidableEq

/-- The RS485 frame around a message. -/
def clusterRs485Frame
    (selfNodeId : UInt32) (msgId : UInt16) (type : UInt8)
    (bytes : List UInt8) : Codec.Rs485Frame where
  node := selfNodeId.toUInt8
  msgId := msgId
  type := type
  len := UInt8.ofNat bytes.length
  payload := Vector.ofFn fun index => bytes[index.val]?.getD 0

/-- What sending reads of a node besides its transport. -/
structure Sender where
  selfNodeId : UInt32
  bootCounter : UInt32
  uptimeSeconds : UInt32
  rs485MsgId : UInt16

/-- The heartbeat of a node: its type and state are always the same. -/
def Sender.heartbeat (sender : Sender) : EndapHeartbeat where
  nodeId := sender.selfNodeId
  bootCounter := sender.bootCounter
  uptimeSeconds := sender.uptimeSeconds
  nodeType := 1
  state := 1

/-- `cluster_transport_send_heartbeat`: the packet that leaves the node. -/
def clusterTransportSendHeartbeat
    (world : TransportWorld) (rs485Available : Bool) (sender : Sender) :
    Option Packet :=
  let bytes := heartbeatFormat.write sender.heartbeat
  (world.sendHeartbeat rs485Available).map fun
    | .udp => .discovery bytes
    | .rs485 =>
        .rs485
          (clusterRs485Frame sender.selfNodeId sender.rs485MsgId
            frameTypeClusterHeartbeat bytes)
    | .mesh => .mesh bytes
    | .espNow => .espNow bytes

/-- `cluster_transport_broadcast_frame`: the packet that leaves the node. -/
def clusterTransportBroadcastFrame
    (world : TransportWorld) (rs485Available : Bool) (sender : Sender)
    (bytes : List UInt8) : Option Packet :=
  (world.broadcastFrame rs485Available bytes.length).map fun
    | .udp => .frame bytes
    | .rs485 =>
        .rs485
          (clusterRs485Frame sender.selfNodeId sender.rs485MsgId
            frameTypeClusterFrame bytes)
    | .mesh => .mesh bytes
    | .espNow => .espNow bytes

/-- The bytes of a message. -/
def ClusterMessage.bytes (sender : Sender) : ClusterMessage → List UInt8
  | .heartbeat => heartbeatFormat.write sender.heartbeat
  | .claim message => claimFormat.write message
  | .transport message => transportFormat.write message
  | .ioUpdate message => ioUpdateFormat.write message
  | .outputCommand message => outputCommandFormat.write message

/-- Heartbeats have a function of their own; everything else is a frame. -/
def send
    (world : TransportWorld) (rs485Available : Bool) (sender : Sender)
    (message : ClusterMessage) : Option Packet :=
  match message with
  | .heartbeat => clusterTransportSendHeartbeat world rs485Available sender
  | _ =>
      clusterTransportBroadcastFrame world rs485Available sender
        (message.bytes sender)

/-! ## Receiving -/

/-- The number of a `cluster_transport_type_t`. -/
def TransportType.code : TransportType → UInt8
  | .none => 0
  | .wifiUdp => 1
  | .ethernetUdp => 2
  | .rs485 => 3
  | .wifiMesh => 4
  | .wifiNow => 5

/-- `cluster_transport_heartbeat_t`. -/
structure TransportHeartbeat where
  nodeId : UInt32
  timestampMs : UInt32
  sourceIp : UInt32
  sourceTransport : UInt8
  deviceProfile : UInt8
  flags : UInt16
  uptimeSeconds : UInt32

/-- What receiving reads of a node: the callbacks that are registered, the
transport it uses, whether it listens on RS485, and the millisecond clock. -/
structure Receiver where
  selfNodeId : UInt32
  heartbeatCallback : Bool
  frameCallback : Bool
  activeType : TransportType
  rs485RxEnabled : Bool
  nowMs : UInt32

/-- What a packet is handed to. -/
inductive Delivery where
  | heartbeat (heartbeat : TransportHeartbeat)
  | claim (message : RemoteClaimWire)
  | transport (message : RemoteTransportMsg)
  | ioUpdate (message : ProtocolClusterIoUpdate)
  | outputCommand (message : ProtocolOutputCommand)

/-- `protocol_process_frame`: the type byte chooses the member of the
union. -/
def protocolProcessFrame (bytes : List UInt8) : List Delivery :=
  ((ioUpdateFormat.recognize bytes).map Delivery.ioUpdate).toList ++
    ((outputCommandFormat.recognize bytes).map Delivery.outputCommand).toList

/-- `cluster_transport_internal_frame_callback`: the claim handler, the
transport handler and then the callback that is registered. -/
def internalFrameCallback (receiver : Receiver) (bytes : List UInt8) :
    List Delivery :=
  ((claimFormat.recognize bytes).map Delivery.claim).toList ++
    ((transportFormat.recognize bytes).map Delivery.transport).toList ++
    if receiver.frameCallback then protocolProcessFrame bytes else []

/-- A recognized heartbeat is given to the callback unless it is the node's
own. -/
def notifyHeartbeat (receiver : Receiver)
    (transport : UInt8) (timestampMs sourceIp : UInt32)
    (message : EndapHeartbeat) : List Delivery :=
  if receiver.heartbeatCallback = false ∨
  message.nodeId = receiver.selfNodeId then []
  else
    [.heartbeat
      { nodeId := message.nodeId
        timestampMs := timestampMs
        sourceIp := sourceIp
        sourceTransport := transport
        deviceProfile := message.nodeType
        flags := message.state.toUInt16
        uptimeSeconds := message.uptimeSeconds }]

/-- `cluster_transport_discovery_rx_task`, for one datagram: the buffer has the
size of a heartbeat. -/
def discoveryRx (receiver : Receiver) (sourceIp : UInt32)
    (datagram : List UInt8) : List Delivery :=
  match heartbeatFormat.recognize
      (datagram.take heartbeatFormat.layout.size) with
  | none => []
  | some message =>
      notifyHeartbeat receiver receiver.activeType.code receiver.nowMs
        sourceIp message

/-- The buffer of `cluster_transport_frame_rx_task`. -/
def frameRxBufferSize : Nat := 256

/-- `cluster_transport_frame_rx_task`, for one datagram. -/
def frameRx (receiver : Receiver) (datagram : List UInt8) : List Delivery :=
  if datagram.length = 0 then []
  else internalFrameCallback receiver (datagram.take frameRxBufferSize)

/-- `cluster_transport_on_rs485_frame`. -/
def onRs485Frame (receiver : Receiver) (frame : Codec.Rs485Frame) :
    List Delivery :=
  if receiver.rs485RxEnabled = false then []
  else if frame.type = frameTypeClusterHeartbeat then
    match heartbeatFormat.recognize frame.data with
    | none => []
    | some message =>
        notifyHeartbeat receiver TransportType.rs485.code
          (message.uptimeSeconds * 1000) 0 message
  else if frame.type = frameTypeClusterFrame then
    internalFrameCallback receiver frame.data
  else []

/-- `cluster_now_recv_cb` and the body of `cluster_mesh_rx_task`, for the
transport they are for; their frame callback is set as soon as one of the two
callbacks is. -/
def radioRx (receiver : Receiver) (transport : TransportType)
    (packet : List UInt8) : List Delivery :=
  if packet.length = 0 then []
  else
    match heartbeatFormat.recognize packet with
    | some message =>
        notifyHeartbeat receiver transport.code
          (message.uptimeSeconds * 1000) 0 message
    | none =>
        if receiver.heartbeatCallback || receiver.frameCallback then
          internalFrameCallback receiver packet
        else []

/-- What a node does with a packet that reaches it. -/
def receive (receiver : Receiver) (sourceIp : UInt32) :
    Packet → List Delivery
  | .discovery bytes => discoveryRx receiver sourceIp bytes
  | .frame bytes => frameRx receiver bytes
  | .rs485 frame => onRs485Frame receiver frame
  | .espNow bytes => radioRx receiver .wifiNow bytes
  | .mesh bytes => radioRx receiver .wifiMesh bytes

/-! ## Telling the messages apart -/

/-- A format with a word as its tag does not recognize bytes that begin with
another byte. -/
theorem recognize_of_u8_ne {Message : Type}
    {format : Tagged UInt32 Message} (inWord : format.kind = Layout.u32)
    {bytes : List UInt8}
    (other : Layout.u8.read bytes ≠ format.tag.toUInt8) :
    format.recognize bytes = none := by
  refine format.recognize_of_kind_ne fun same => other ?_
  rw [Layout.u8_read_eq_u32_read, ← inWord, same]

theorem u8_read_write {Message : Type}
    {format : Tagged UInt32 Message} (inWord : format.kind = Layout.u32)
    (message : Message) :
    Layout.u8.read (format.write message) = format.tag.toUInt8 := by
  have tagged := format.kind_read_write message []
  rw [List.append_nil, inWord] at tagged
  rw [Layout.u8_read_eq_u32_read, tagged]

theorem recognize_own {Tag Message : Type} [DecidableEq Tag]
    (format : Tagged Tag Message) (message : Message) :
    format.recognize (format.write message) = some message := by
  have recognized := format.recognize_write message []
  rwa [List.append_nil] at recognized

/-- The first byte of a message. -/
def ClusterMessage.firstByte : ClusterMessage → UInt8
  | .heartbeat => 0x50
  | .claim _ => 0x31
  | .transport _ => 0x31
  | .ioUpdate _ => 0x10
  | .outputCommand _ => 0x11

theorem u8_read_bytes (sender : Sender) (message : ClusterMessage) :
    Layout.u8.read (message.bytes sender) = message.firstByte := by
  have protocol {Data : Type} (type : UInt8) (data : Layout Data)
      (value : Data) :
      Layout.u8.read ((protocolFormat type data).write value) = type := by
    have tagged := (protocolFormat type data).kind_read_write value []
    rwa [List.append_nil] at tagged
  cases message with
  | heartbeat => exact u8_read_write rfl _
  | claim message => exact u8_read_write rfl message
  | transport message => exact u8_read_write rfl message
  | ioUpdate message => exact protocol _ _ message
  | outputCommand message => exact protocol _ _ message

/-- A format with a word as its tag does not recognize a message that begins
with another byte. -/
theorem recognize_bytes_of_ne {Message : Type}
    {format : Tagged UInt32 Message} (inWord : format.kind = Layout.u32)
    {sender : Sender} {message : ClusterMessage}
    (other : (message.firstByte == format.tag.toUInt8) = false) :
    format.recognize (message.bytes sender) = none :=
  recognize_of_u8_ne inWord (by rw [u8_read_bytes]; exact ne_of_beq_false other)

theorem recognize_protocol_of_ne {Data : Type}
    {type : UInt8} {data : Layout Data}
    {sender : Sender} {message : ClusterMessage}
    (other : (message.firstByte == type) = false) :
    (protocolFormat type data).recognize (message.bytes sender) = none := by
  refine (protocolFormat type data).recognize_of_kind_ne fun same => ?_
  exact ne_of_beq_false other ((u8_read_bytes sender message).symm.trans same)

theorem heartbeat_recognize
    (sender : Sender) (message : ClusterMessage) :
    heartbeatFormat.recognize (message.bytes sender) =
      match message with
      | .heartbeat => some sender.heartbeat
      | _ => none := by
  cases message with
  | heartbeat => exact recognize_own _ _
  | _ => exact recognize_bytes_of_ne rfl rfl

/-- Claims and transport changes begin with the same byte and differ in the
rest of the magic. -/
theorem claim_recognize
    (sender : Sender) (message : ClusterMessage) :
    claimFormat.recognize (message.bytes sender) =
      match message with
      | .claim message => some message
      | _ => none := by
  cases message with
  | claim message => exact recognize_own _ _
  | transport message =>
      refine claimFormat.recognize_of_kind_ne fun same => ?_
      have tagged := transportFormat.kind_read_write message []
      rw [List.append_nil] at tagged
      exact absurd (tagged.symm.trans same) (by decide)
  | _ => exact recognize_bytes_of_ne rfl rfl

theorem transport_recognize
    (sender : Sender) (message : ClusterMessage) :
    transportFormat.recognize (message.bytes sender) =
      match message with
      | .transport message => some message
      | _ => none := by
  cases message with
  | transport message => exact recognize_own _ _
  | claim message =>
      refine transportFormat.recognize_of_kind_ne fun same => ?_
      have tagged := claimFormat.kind_read_write message []
      rw [List.append_nil] at tagged
      exact absurd (tagged.symm.trans same) (by decide)
  | _ => exact recognize_bytes_of_ne rfl rfl

theorem ioUpdate_recognize
    (sender : Sender) (message : ClusterMessage) :
    ioUpdateFormat.recognize (message.bytes sender) =
      match message with
      | .ioUpdate message => some message
      | _ => none := by
  cases message with
  | ioUpdate message => exact recognize_own _ _
  | _ => exact recognize_protocol_of_ne rfl

theorem outputCommand_recognize
    (sender : Sender) (message : ClusterMessage) :
    outputCommandFormat.recognize (message.bytes sender) =
      match message with
      | .outputCommand message => some message
      | _ => none := by
  cases message with
  | outputCommand message => exact recognize_own _ _
  | _ => exact recognize_protocol_of_ne rfl

/-- A message as it is handed over; heartbeats do not pass the handlers of
frames. -/
def ClusterMessage.delivered : ClusterMessage → List Delivery
  | .heartbeat => []
  | .claim message => [.claim message]
  | .transport message => [.transport message]
  | .ioUpdate message => [.ioUpdate message]
  | .outputCommand message => [.outputCommand message]

theorem internalFrameCallback_bytes
    {receiver : Receiver} (registered : receiver.frameCallback = true)
    (sender : Sender) (message : ClusterMessage) :
    internalFrameCallback receiver (message.bytes sender) =
      message.delivered := by
  rw [internalFrameCallback, if_pos registered, protocolProcessFrame,
    claim_recognize, transport_recognize, ioUpdate_recognize,
    outputCommand_recognize]
  cases message <;> rfl

/-! ## The transports keep the bytes -/

theorem bytes_length_pos (sender : Sender) (message : ClusterMessage) :
    0 < (message.bytes sender).length ∧
    (message.bytes sender).length ≤ Codec.frameMaxPayload := by
  cases message <;>
    simp only [ClusterMessage.bytes, Tagged.write_length] <;> decide

theorem heartbeat_bytes_length (sender : Sender) :
    (ClusterMessage.bytes sender .heartbeat).length =
      heartbeatFormat.layout.size :=
  heartbeatFormat.write_length _

theorem clusterRs485Frame_data
    (selfNodeId : UInt32) (msgId : UInt16) (type : UInt8)
    {bytes : List UInt8} (fits : bytes.length ≤ Codec.frameMaxPayload) :
    (clusterRs485Frame selfNodeId msgId type bytes).data = bytes := by
  have short : bytes.length ≤ 64 := fits
  have length : (UInt8.ofNat bytes.length).toNat = bytes.length := by
    rw [UInt8.toNat_ofNat', Nat.mod_eq_of_lt]
    exact lt_of_le_of_lt short (by decide)
  simp only [Codec.Rs485Frame.data, clusterRs485Frame, length,
    Vector.toList_ofFn]
  exact Layout.take_ofFn_getD bytes 0 short

/-- The frame type of a message on RS485. -/
def ClusterMessage.rs485Type : ClusterMessage → UInt8
  | .heartbeat => frameTypeClusterHeartbeat
  | _ => frameTypeClusterFrame

/-- A packet carries a message of a node. -/
inductive Carries (sender : Sender) (message : ClusterMessage) :
    Packet → Prop
  | discovery (isHeartbeat : message = .heartbeat) :
      Carries sender message (.discovery (message.bytes sender))
  | frame (isFrame : message ≠ .heartbeat) :
      Carries sender message (.frame (message.bytes sender))
  | rs485 :
      Carries sender message
        (.rs485
          (clusterRs485Frame sender.selfNodeId sender.rs485MsgId
            message.rs485Type (message.bytes sender)))
  | espNow : Carries sender message (.espNow (message.bytes sender))
  | mesh : Carries sender message (.mesh (message.bytes sender))

theorem send_carries
    {world : TransportWorld} {rs485Available : Bool} {sender : Sender}
    {message : ClusterMessage} {packet : Packet}
    (sent : send world rs485Available sender message = some packet) :
    Carries sender message packet := by
  cases isHeartbeat : message with
  | heartbeat =>
      rw [isHeartbeat] at sent
      rcases Option.map_eq_some_iff.mp sent with ⟨runtime, _, leaves⟩
      subst leaves
      cases runtime with
      | udp => exact .discovery rfl
      | rs485 => exact .rs485
      | mesh => exact .mesh
      | espNow => exact .espNow
  | _ =>
      rw [isHeartbeat] at sent
      rcases Option.map_eq_some_iff.mp sent with ⟨runtime, _, leaves⟩
      subst leaves
      cases runtime with
      | udp => exact .frame nofun
      | rs485 => exact .rs485
      | mesh => exact .mesh
      | espNow => exact .espNow

/-! ## What is received -/

/-- What is handed over is the message as it was sent. -/
def Delivery.Brings (sender : Sender) : Delivery → ClusterMessage → Prop
  | .heartbeat heard, .heartbeat =>
      heard.nodeId = sender.selfNodeId ∧
      heard.uptimeSeconds = sender.uptimeSeconds ∧
      heard.deviceProfile = sender.heartbeat.nodeType ∧
      heard.flags = sender.heartbeat.state.toUInt16
  | .claim received, .claim message => received = message
  | .transport received, .transport message => received = message
  | .ioUpdate received, .ioUpdate message => received = message
  | .outputCommand received, .outputCommand message => received = message
  | _, _ => False

/-- Exactly one handler gets the message, as it was sent. -/
def Reaches (sender : Sender) (message : ClusterMessage)
    (deliveries : List Delivery) : Prop :=
  ∃ delivery, deliveries = [delivery] ∧ delivery.Brings sender message

theorem delivered_reaches
    (sender : Sender) {message : ClusterMessage}
    (isFrame : message ≠ .heartbeat) :
    Reaches sender message message.delivered := by
  cases message with
  | heartbeat => exact absurd rfl isFrame
  | _ => exact ⟨_, rfl, rfl⟩

/-- A packet of the RS485 bus. -/
def Packet.OnRs485 : Packet → Prop
  | .rs485 _ => True
  | _ => False

/-- A receiver of a packet has both callbacks, and listens on RS485 if that is
where the packet comes from. -/
structure Receiver.Listens (receiver : Receiver) (packet : Packet) :
    Prop where
  heartbeats : receiver.heartbeatCallback = true
  frames : receiver.frameCallback = true
  rs485 : packet.OnRs485 → receiver.rs485RxEnabled = true

theorem notifyHeartbeat_own
    {receiver : Receiver} {sender : Sender}
    (own : sender.selfNodeId = receiver.selfNodeId)
    (transport : UInt8) (timestampMs sourceIp : UInt32) :
    notifyHeartbeat receiver transport timestampMs sourceIp sender.heartbeat =
      [] :=
  if_pos (.inr own)

theorem notifyHeartbeat_reaches
    {receiver : Receiver} (registered : receiver.heartbeatCallback = true)
    {sender : Sender}
    (other : sender.selfNodeId ≠ receiver.selfNodeId)
    (transport : UInt8) (timestampMs sourceIp : UInt32) :
    Reaches sender .heartbeat
      (notifyHeartbeat receiver transport timestampMs sourceIp
        sender.heartbeat) := by
  rw [notifyHeartbeat, registered, if_neg]
  · exact ⟨_, rfl, rfl, rfl, rfl, rfl⟩
  · intro refused
    rcases refused with unregistered | own
    · cases unregistered
    · exact other own

/-- A heartbeat that is received is noted under one transport, time and
address or another. -/
theorem receive_heartbeat
    {receiver : Receiver} {sender : Sender} {packet : Packet}
    (listens : receiver.Listens packet)
    (carries : Carries sender .heartbeat packet) (sourceIp : UInt32) :
    ∃ transport timestampMs address,
      receive receiver sourceIp packet =
        notifyHeartbeat receiver transport timestampMs address
          sender.heartbeat := by
  have recognized := heartbeat_recognize sender .heartbeat
  have size := heartbeat_bytes_length sender
  have fits := bytes_length_pos sender .heartbeat
  have some : (ClusterMessage.bytes sender .heartbeat).length ≠ 0 := fits.1.ne'
  cases carries with
  | discovery _ =>
      refine ⟨receiver.activeType.code, receiver.nowMs, sourceIp, ?_⟩
      rw [receive, discoveryRx, List.take_of_length_le size.le, recognized]
  | frame isFrame => exact absurd rfl isFrame
  | rs485 =>
      refine ⟨TransportType.rs485.code, sender.uptimeSeconds * 1000, 0, ?_⟩
      rw [receive, onRs485Frame, listens.rs485 trivial,
        clusterRs485Frame_data _ _ _ fits.2, recognized]
      rfl
  | espNow =>
      refine ⟨TransportType.wifiNow.code, sender.uptimeSeconds * 1000, 0, ?_⟩
      rw [receive, radioRx, if_neg some, recognized]
      rfl
  | mesh =>
      refine ⟨TransportType.wifiMesh.code, sender.uptimeSeconds * 1000, 0, ?_⟩
      rw [receive, radioRx, if_neg some, recognized]
      rfl

theorem receive_frame
    {receiver : Receiver} {sender : Sender} {message : ClusterMessage}
    {packet : Packet} (listens : receiver.Listens packet)
    (isFrame : message ≠ .heartbeat) (carries : Carries sender message packet)
    (sourceIp : UInt32) :
    receive receiver sourceIp packet = message.delivered := by
  have handled := internalFrameCallback_bytes listens.frames sender message
  have unrecognized :
      heartbeatFormat.recognize (message.bytes sender) = none := by
    rw [heartbeat_recognize]
    cases message with
    | heartbeat => exact absurd rfl isFrame
    | _ => rfl
  have fits := bytes_length_pos sender message
  have some : (message.bytes sender).length ≠ 0 := fits.1.ne'
  have buffered : (message.bytes sender).length ≤ frameRxBufferSize :=
    fits.2.trans (by decide)
  have type : message.rs485Type = frameTypeClusterFrame := by
    cases message with
    | heartbeat => exact absurd rfl isFrame
    | _ => rfl
  cases carries with
  | discovery isHeartbeat => exact absurd isHeartbeat isFrame
  | frame _ =>
      rw [receive, frameRx, if_neg some, List.take_of_length_le buffered,
        handled]
  | rs485 =>
      rw [receive, onRs485Frame, listens.rs485 trivial,
        clusterRs485Frame_data _ _ _ fits.2, handled, type]
      rfl
  | espNow | mesh =>
      rw [receive, radioRx, if_neg some, unrecognized, listens.frames,
        handled, Bool.or_true]
      rfl

theorem carries_reaches
    {sender : Sender} {message : ClusterMessage} {packet : Packet}
    (carries : Carries sender message packet)
    {receiver : Receiver} (listens : receiver.Listens packet)
    (sourceIp : UInt32) :
    (message = .heartbeat ∧ sender.selfNodeId = receiver.selfNodeId →
        receive receiver sourceIp packet = []) ∧
      (¬ (message = .heartbeat ∧
          sender.selfNodeId = receiver.selfNodeId) →
        Reaches sender message (receive receiver sourceIp packet)) := by
  by_cases isHeartbeat : message = .heartbeat
  · subst isHeartbeat
    rcases receive_heartbeat listens carries sourceIp with
      ⟨transport, timestampMs, address, received⟩
    rw [received]
    constructor
    · intro own
      exact notifyHeartbeat_own own.2 transport timestampMs address
    · intro other
      exact
        notifyHeartbeat_reaches listens.heartbeats (fun own => other ⟨rfl, own⟩)
          transport timestampMs address
  · constructor
    · intro own
      exact absurd own.1 isHeartbeat
    · intro _
      rw [receive_frame listens isHeartbeat carries sourceIp]
      exact delivered_reaches sender isHeartbeat

/--
Whatever transport a node sends a message over, a node that receives the
packet hands it to the handler of that kind of message and to no other, with
every field as it was sent.  A node's own heartbeat is dropped.
-/
theorem message_reaches_handler
    {world : TransportWorld} {rs485Available : Bool} {sender : Sender}
    {message : ClusterMessage} {packet : Packet}
    (sent : send world rs485Available sender message = some packet)
    {receiver : Receiver} (listens : receiver.Listens packet)
    (sourceIp : UInt32) :
    (message = .heartbeat ∧ sender.selfNodeId = receiver.selfNodeId →
        receive receiver sourceIp packet = []) ∧
      (¬ (message = .heartbeat ∧
          sender.selfNodeId = receiver.selfNodeId) →
        Reaches sender message (receive receiver sourceIp packet)) :=
  carries_reaches (send_carries sent) listens sourceIp

def rs485World : TransportWorld :=
  { TransportWorld.boot with
    transportStarted := true
    activeType := .rs485 }

def nodeSeven : Sender where
  selfNodeId := 7
  bootCounter := 3
  uptimeSeconds := 100
  rs485MsgId := 1

def nodeNine : Receiver where
  selfNodeId := 9
  heartbeatCallback := true
  frameCallback := true
  activeType := .wifiUdp
  rs485RxEnabled := true
  nowMs := 5000

def udpWorld : TransportWorld :=
  { TransportWorld.boot with
    discoverySock := 3
    frameSock := 4
    udpRuntimeStarted := true
    transportStarted := true
    activeType := .wifiUdp }

def nodeNineOffBus : Receiver := { nodeNine with rs485RxEnabled := false }

def outputOn : ProtocolOutputCommand where
  targetNode := 9
  requesterNode := 7
  outputId := 100
  value := 1

theorem message_reaches_handler_rs485 :
    Reaches nodeSeven .heartbeat
        (receive nodeNine 0
          (.rs485
            (clusterRs485Frame 7 1 frameTypeClusterHeartbeat
              (ClusterMessage.bytes nodeSeven .heartbeat)))) ∧
    Reaches nodeSeven (.outputCommand outputOn)
      (receive nodeNineOffBus 0
        (.frame
          (ClusterMessage.bytes nodeSeven (.outputCommand outputOn)))) := by
  have overUdp :
      send udpWorld false nodeSeven (.outputCommand outputOn) =
        some
          (.frame
            (ClusterMessage.bytes nodeSeven (.outputCommand outputOn))) := by
    decide +kernel
  refine ⟨?_, ?_⟩
  · refine
      (@message_reaches_handler rs485World true nodeSeven .heartbeat _ rfl
        nodeNine ⟨rfl, rfl, fun _ => rfl⟩ 0).2 ?_
    intro own
    exact absurd own.2 (by decide)
  · refine
      (message_reaches_handler overUdp ⟨rfl, rfl, fun onBus => ?_⟩ 0).2 ?_
    · exact False.elim onBus
    · intro own
      cases own.1

end Endap.Cluster
