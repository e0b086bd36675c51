import Endap.Rs485.FrameParser

/-!
# The RS485 engine

The engine owns the parser, the table of bus nodes, its counters, the pending
acknowledgement of a poll addressed to this node, and a self-test mode that
answers polls by itself.  Each function below takes the engine state and
returns the new one; the clock and the bytes read from the UART are inputs.

`Reception` also records what the source computes and forgets: the verdict of
`decode_wire_frame` and the frame given to the external callback.
-/

namespace Endap.Rs485.Engine

open Endap.Rs485.Codec
open Endap.Rs485.FrameParser

/-- `RS485_ENGINE_MAX_NODES`. -/
def engineMaxNodes : Nat := 64

/-- `RS485_ENGINE_TIMEOUT_MS`. -/
def engineTimeoutMs : UInt64 := 100

/-- `RS485_ENGINE_RX_BYTES_PER_CALL`. -/
def rxBytesPerCall : Nat := 16

/-- `RS485_ENGINE_SELF_TEST_NODE_ID`. -/
def selfTestNodeId : UInt8 := 1

/-- `RS485_ENGINE_SELF_TEST_ACK_DELAY_US`. -/
def selfTestAckDelayUs : UInt64 := 500

/-- `RS485_FRAME_TYPE_POLL`. -/
def frameTypePoll : UInt8 := 1

/-- `RS485_FRAME_TYPE_ACK`. -/
def frameTypeAck : UInt8 := 2

/-- `RS485_FRAME_TYPE_CLUSTER_HEARTBEAT`. -/
def frameTypeClusterHeartbeat : UInt8 := 0x10

/-- `RS485_FRAME_TYPE_CLUSTER_FRAME`. -/
def frameTypeClusterFrame : UInt8 := 0x11

inductive NodeState where
  | unknown
  | online
  | offline
deriving DecidableEq

structure NodeEntry where
  state : NodeState
  lastSeenUs : UInt64
  retry : UInt8

/-- The entry after `memset` and the reset of its state. -/
def NodeEntry.unknown : NodeEntry where
  state := .unknown
  lastSeenUs := 0
  retry := 0

/-- `rs485_engine_metrics_t`. -/
structure EngineMetrics where
  enabled : Bool
  selfTestEnabled : Bool
  selfTestActive : Bool
  txCount : UInt32
  txBytes : UInt32
  rxCount : UInt32
  rxBytes : UInt32
  crcErrorCount : UInt32
  formatErrorCount : UInt32
  lastTxMs : UInt32
  lastRxMs : UInt32

/-- The counters after `memset`. -/
def EngineMetrics.zero : EngineMetrics where
  enabled := false
  selfTestEnabled := false
  selfTestActive := false
  txCount := 0
  txBytes := 0
  rxCount := 0
  rxBytes := 0
  crcErrorCount := 0
  formatErrorCount := 0
  lastTxMs := 0
  lastRxMs := 0

/-- The static state of `rs485_engine.c` together with its parser. -/
structure Rs485Engine where
  nodes : Nat → NodeEntry
  metrics : EngineMetrics
  engineEnabled : Bool
  selfTestEnabled : Bool
  selfTestPending : Bool
  selfTestWire : List UInt8
  selfTestReadyUs : UInt64
  localNodeId : UInt8
  externalFrameCb : Bool
  ackPending : Bool
  pendingAckFrame : Rs485Frame
  parser : Parser
  nodeIdentity : UInt32

/-- The static state at power-on; `RS485_ENGINE_SELF_TEST_DEFAULT` is 0. -/
def staticEngine : Rs485Engine where
  nodes := fun _ => NodeEntry.unknown
  metrics := EngineMetrics.zero
  engineEnabled := false
  selfTestEnabled := false
  selfTestPending := false
  selfTestWire := []
  selfTestReadyUs := 0
  localNodeId := 0
  externalFrameCb := false
  ackPending := false
  pendingAckFrame := Rs485Frame.zero
  parser := parserInit
  nodeIdentity := 0

/-! ## Node table and identity -/

/-- The table index that the source computes from a node id. -/
def nodeIndex (nodeId : UInt8) : Nat := (nodeId - 1).toNat

/-- Mark a node of the table as just seen. -/
def markOnline (engine : Rs485Engine) (index : Nat) (nowUs : UInt64) :
    Rs485Engine :=
  { engine with
    nodes := Function.update engine.nodes index
      { state := .online, lastSeenUs := nowUs, retry := 0 } }

def rs485EngineComputeLocalNodeId (uid : UInt32) : UInt8 :=
  let nodeId := (uid % 64 + 1).toUInt8
  if nodeId = 0 then 1 else nodeId

def rs485EngineLocalNodeId (engine : Rs485Engine) : UInt8 × Rs485Engine :=
  if engine.localNodeId = 0 then
    let nodeId := rs485EngineComputeLocalNodeId engine.nodeIdentity
    (nodeId, { engine with localNodeId := nodeId })
  else (engine.localNodeId, engine)

def rs485EngineShouldReplyToPoll
    (engine : Rs485Engine) (frame : Rs485Frame) : Bool × Rs485Engine :=
  if frame.type ≠ frameTypePoll then (false, engine)
  else if frame.len ≠ 0 then (false, engine)
  else
    let localNode := rs485EngineLocalNodeId engine
    (frame.node == localNode.1, localNode.2)

def rs485EngineOnAck
    (engine : Rs485Engine) (nodeId : UInt8) (nowUs : UInt64) :
    Rs485Engine :=
  if nodeIndex nodeId ≥ engineMaxNodes then engine
  else markOnline engine (nodeIndex nodeId) nowUs

/-! ## Control -/

/-- `rs485_engine_init`; the identity is read from the MAC address. -/
def rs485EngineInit (engine : Rs485Engine) (nodeIdentity : UInt32) :
    Rs485Engine :=
  { engine with
    nodes := fun _ => NodeEntry.unknown
    metrics :=
      { EngineMetrics.zero with selfTestEnabled := engine.selfTestEnabled }
    parser := parserInit
    nodeIdentity := nodeIdentity
    localNodeId := rs485EngineComputeLocalNodeId nodeIdentity
    ackPending := false
    pendingAckFrame := Rs485Frame.zero
    selfTestPending := false
    selfTestWire := []
    selfTestReadyUs := 0 }

def rs485EngineEnable (engine : Rs485Engine) : Rs485Engine :=
  { engine with
    engineEnabled := true
    metrics := { engine.metrics with enabled := true } }

def rs485EngineSetSelfTest (engine : Rs485Engine) (enabled : Bool) :
    Rs485Engine :=
  { engine with
    selfTestEnabled := enabled
    selfTestPending := false
    selfTestWire := []
    selfTestReadyUs := 0
    metrics :=
      { engine.metrics with
        selfTestEnabled := enabled
        selfTestActive := false } }

/-! ## Receiving -/

/-- What one call of `rs485_engine_receive` does. -/
structure Reception where
  engine : Rs485Engine
  result : RxResult
  frame : Rs485Frame
  decoded : Option (List UInt8 × RxResult)
  external : Option Rs485Frame

/-- The frame that `decode_wire_frame` accepted in this call, if any. -/
def Reception.accepted (reception : Reception) : Option Rs485Frame :=
  match reception.decoded with
  | some (_, .frame) => some reception.frame
  | _ => none

/-- `rs485_engine_feed_parser_bounded` in the self-test branch. -/
def selfTestFeed (engine : Rs485Engine) (nowUs : UInt64) : Rs485Engine :=
  if engine.selfTestEnabled && engine.selfTestPending then
    if nowUs ≥ engine.selfTestReadyUs then
      let fed :=
        { engine with
          parser :=
            parserFeed engine.parser (engine.selfTestWire.take rxBytesPerCall) }
      if fed.parser.frameReady then
        { fed with
          selfTestPending := false
          selfTestWire := []
          metrics := { fed.metrics with selfTestActive := false } }
      else fed
    else engine
  else engine

/-- The counters after the verdict of `decode_wire_frame`. -/
def countReception
    (metrics : EngineMetrics) (result : RxResult)
    (wireLen : Nat) (nowUs : UInt64) : EngineMetrics :=
  match result with
  | .frame =>
      { metrics with
        rxCount := metrics.rxCount + 1
        rxBytes := metrics.rxBytes + UInt32.ofNat wireLen
        lastRxMs := (nowUs / 1000).toUInt32 }
  | .crcError =>
      { metrics with crcErrorCount := metrics.crcErrorCount + 1 }
  | .formatError =>
      { metrics with formatErrorCount := metrics.formatErrorCount + 1 }
  | .none => metrics

/-- The part of `rs485_engine_receive` after a frame was accepted. -/
def routeFrame
    (engine : Rs485Engine) (frame : Rs485Frame) (nowUs : UInt64) :
    Rs485Engine × RxResult × Option Rs485Frame :=
  let reply := rs485EngineShouldReplyToPoll engine frame
  if reply.1 then
    ({ reply.2 with
        pendingAckFrame :=
          { reply.2.pendingAckFrame with
            node := frame.node
            msgId := frame.msgId
            type := frameTypeAck
            len := 0 }
        ackPending := true },
      .none, none)
  else if frame.type = frameTypeClusterHeartbeat ∨
      frame.type = frameTypeClusterFrame then
    let seen :=
      if frame.node ≠ 0 ∧ nodeIndex frame.node < engineMaxNodes then
        markOnline reply.2 (nodeIndex frame.node) nowUs
      else reply.2
    (seen, .none, if seen.externalFrameCb then some frame else none)
  else (reply.2, .frame, none)

/--
`rs485_engine_receive`.  `chunk` is what `rs485_read_bytes` returned, at most
`RS485_ENGINE_RX_BYTES_PER_CALL` bytes; `frame` is the caller's frame before
the call.
-/
def rs485EngineReceive
    (engine : Rs485Engine) (frame : Rs485Frame)
    (chunk : List UInt8) (nowUs : UInt64) : Reception :=
  let tested := selfTestFeed engine nowUs
  let fed := { tested with parser := parserFeed tested.parser chunk }
  if fed.parser.frameReady = false then
    { engine := fed, result := .none, frame := frame
      decoded := none, external := none }
  else
    let got := parserGetFrame fed.parser frameWireMax
    let taken := { fed with parser := got.2 }
    if got.1.length = 0 then
      { engine :=
          { taken with
            metrics :=
              { taken.metrics with
                formatErrorCount := taken.metrics.formatErrorCount + 1 } }
        result := .formatError, frame := frame
        decoded := none, external := none }
    else
      let verdict := decodeWireFrame got.1 frame
      let counted :=
        { taken with
          metrics := countReception taken.metrics verdict.1 got.1.length nowUs }
      if verdict.1 = .frame then
        let routed := routeFrame counted verdict.2 nowUs
        { engine := routed.1, result := routed.2.1, frame := verdict.2
          decoded := some (got.1, verdict.1), external := routed.2.2 }
      else
        { engine := counted, result := verdict.1, frame := verdict.2
          decoded := some (got.1, verdict.1), external := none }

/-! ## Sending -/

/--
`rs485_engine_send`; the second component is the text handed to
`rs485_send_bytes`.
-/
def rs485EngineSend
    (engine : Rs485Engine) (frame : Rs485Frame) (nowUs : UInt64) :
    Rs485Engine × Option (List UInt8) :=
  if engine.engineEnabled = false then (engine, none)
  else if engine.selfTestEnabled ∧ frame.type = frameTypePoll ∧
      frame.node = selfTestNodeId then
    let ack : Rs485Frame :=
      { Rs485Frame.zero with
        node := frame.node
        msgId := frame.msgId
        type := frameTypeAck }
    let wire := (encodeWireFrame ack frameWireMax).getD []
    ({ engine with
        selfTestWire := wire
        selfTestReadyUs := nowUs + selfTestAckDelayUs
        selfTestPending := decide (wire.length > 0)
        metrics :=
          { engine.metrics with
            txCount := engine.metrics.txCount + 1
            txBytes := engine.metrics.txBytes + UInt32.ofNat wire.length
            lastTxMs := (nowUs / 1000).toUInt32
            selfTestActive := decide (wire.length > 0) } },
      none)
  else
    match encodeWireFrame frame frameWireMax with
    | none => (engine, none)
    | some wire =>
        ({ engine with
            metrics :=
              { engine.metrics with
                txCount := engine.metrics.txCount + 1
                txBytes := engine.metrics.txBytes + UInt32.ofNat wire.length
                lastTxMs := (nowUs / 1000).toUInt32 } },
          some wire)

/-- The aging loop of `rs485_engine_tick_1ms`. -/
def ageNode (nowUs : UInt64) (entry : NodeEntry) : NodeEntry :=
  if entry.state = .online ∧
      nowUs - entry.lastSeenUs > engineTimeoutMs * 1000 then
    { entry with state := .offline }
  else entry

def rs485EngineTick1ms (engine : Rs485Engine) (nowUs : UInt64) :
    Rs485Engine × Option (List UInt8) :=
  if engine.engineEnabled = false then (engine, none)
  else
    let sent :=
      if engine.ackPending then
        rs485EngineSend { engine with ackPending := false }
          engine.pendingAckFrame nowUs
      else (engine, none)
    ({ sent.1 with
        nodes := fun index =>
          if index < engineMaxNodes then ageNode nowUs (sent.1.nodes index)
          else sent.1.nodes index },
      sent.2)

end Endap.Rs485.Engine
