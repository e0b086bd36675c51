import Endap.Library.Run
import Endap.Rs485.Engine

/-!
# The RS485 master

The master polls the bus nodes one after the other.  It keeps at most one poll
outstanding, repeats it after a response timeout and a backoff, and marks the
node offline when all attempts are used up.

The clock is read several times in one call; each reading is an input of its
own, so nothing below depends on how the readings are related.  The profiling
accumulators are left out, because no other state is computed from them.
-/

namespace Endap.Rs485.Master

open Endap.Library
open Endap.Rs485.Codec
open Endap.Rs485.Engine

/-- `RS485_MAX_NODES`. -/
def maxNodes : Nat := 64

/-- `RS485_MAX_RETRY`. -/
def maxRetry : Nat := 3

def responseTimeoutUs : UInt64 := 6000

def retryBackoffUs : UInt64 := 2000

def idlePollIntervalUs : UInt64 := 4000

def selfTestPollUs : UInt64 := 1000

structure NodeStatus where
  id : UInt8
  online : UInt8
  retryCount : UInt8
  lastSeenMs : UInt32

/-- The counters of `rs485_master_metrics_t` that the master maintains. -/
structure MasterMetrics where
  enabled : Bool
  selfTestEnabled : Bool
  txCount : UInt32
  ackCount : UInt32
  retryCount : UInt32
  timeoutCount : UInt32
  crcErrorCount : UInt32
  rxIgnoredCount : UInt32
  lastTxMs : UInt32
  lastAckMs : UInt32
  lastTimeoutMs : UInt32

/-- The counters after `memset`. -/
def MasterMetrics.zero : MasterMetrics where
  enabled := false
  selfTestEnabled := false
  txCount := 0
  ackCount := 0
  retryCount := 0
  timeoutCount := 0
  crcErrorCount := 0
  rxIgnoredCount := 0
  lastTxMs := 0
  lastAckMs := 0
  lastTimeoutMs := 0

/-- The static state of `rs485_master.c` together with the engine it owns. -/
structure Rs485Master where
  nodes : Nat → NodeStatus
  currentNode : UInt8
  awaitingNode : UInt8
  waitingResponse : Bool
  retryPending : Bool
  metrics : MasterMetrics
  currentMsgId : UInt16
  msgIdCounter : UInt16
  requestStartUs : UInt64
  nextPollDueUs : UInt64
  engine : Rs485Engine

/-- `rs485_master_event_type_t`. -/
inductive MasterEventType where
  | none
  | tx
  | ack
  | retry
  | timeout
  | crcError
  | rxIgnored

/-- `rs485_master_event_t`. -/
structure MasterEvent where
  type : MasterEventType
  nodeId : UInt8
  msgId : UInt16
  latencyUs : UInt32

/-- The event after `memset`. -/
def MasterEvent.zero : MasterEvent where
  type := .none
  nodeId := 0
  msgId := 0
  latencyUs := 0

/--
What one call returns, the text it hands to the UART, and the message id that
`next_msg_id` gave out during the call.
-/
structure MasterOutput where
  returned : Bool
  event : MasterEvent
  sent : Option (List UInt8)
  assigned : Option UInt16

/-- A call that returns false and does nothing else. -/
def MasterOutput.nothing : MasterOutput where
  returned := false
  event := MasterEvent.zero
  sent := none
  assigned := none

/-- A call that returns true with an event. -/
def MasterOutput.reports (event : MasterEvent) : MasterOutput where
  returned := true
  event := event
  sent := none
  assigned := none

/-! ## Helpers -/

/-- `next_msg_id`: the id and the counter afterwards. -/
def nextMsgId (msgIdCounter : UInt16) : UInt16 × UInt16 :=
  (msgIdCounter,
    if msgIdCounter + 1 = 0 then 1 else msgIdCounter + 1)

def rs485MasterIdleIntervalUs (engine : Rs485Engine) : UInt64 :=
  if engine.selfTestEnabled then selfTestPollUs else idlePollIntervalUs

def rs485MasterScheduleNextPoll
    (master : Rs485Master) (nowUs delayUs : UInt64) : Rs485Master :=
  { master with nextPollDueUs := nowUs + delayUs }

/-- Change the record of one node. -/
def Rs485Master.setNode
    (master : Rs485Master) (index : Nat) (node : NodeStatus) : Rs485Master :=
  { master with nodes := Function.update master.nodes index node }

def rs485MasterInit
    (engine : Rs485Engine) (nodeIdentity : UInt32) (nowUs : UInt64) :
    Rs485Master :=
  let started := rs485EngineEnable (rs485EngineInit engine nodeIdentity)
  rs485MasterScheduleNextPoll
    { nodes := fun index =>
        { id := UInt8.ofNat (index + 1), online := 0
          retryCount := 0, lastSeenMs := 0 }
      currentNode := 0
      awaitingNode := 0
      waitingResponse := false
      retryPending := false
      metrics :=
        { MasterMetrics.zero with
          enabled := true
          selfTestEnabled := started.selfTestEnabled }
      currentMsgId := 0
      msgIdCounter := 1
      requestStartUs := 0
      nextPollDueUs := 0
      engine := started }
    nowUs (rs485MasterIdleIntervalUs started)

/-! ## Acknowledgements -/

/-- The state after an accepted acknowledgement. -/
def acceptAck
    (master : Rs485Master) (nodeId : UInt8) (nowUs engineUs : UInt64) :
    Rs485Master :=
  let lastSeenMs := (nowUs / 1000).toUInt32
  let closed :=
    { master with
      waitingResponse := false
      retryPending := false
      awaitingNode := 0
      requestStartUs := 0
      engine := rs485EngineOnAck master.engine nodeId engineUs
      metrics :=
        { master.metrics with
          ackCount := master.metrics.ackCount + 1
          lastAckMs := lastSeenMs } }
  let seen :=
    closed.setNode (nodeIndex nodeId)
      { master.nodes (nodeIndex nodeId) with
        online := 1
        retryCount := 0
        lastSeenMs := lastSeenMs }
  rs485MasterScheduleNextPoll seen nowUs (rs485MasterIdleIntervalUs seen.engine)

/--
`rs485_master_on_ack`: the returned value, the latency and the state after the
call.  `engineUs` is the clock as read by `rs485_engine_on_ack`.
-/
def rs485MasterOnAck
    (master : Rs485Master) (nodeId : UInt8) (msgId : UInt16)
    (nowUs engineUs : UInt64) : Bool × UInt32 × Rs485Master :=
  if master.waitingResponse = false then (false, 0, master)
  else if nodeId ≠ master.awaitingNode then (false, 0, master)
  else if msgId ≠ master.currentMsgId then (false, 0, master)
  else if nodeIndex nodeId ≥ maxNodes then (false, 0, master)
  else
    (true,
      if nowUs ≥ master.requestStartUs then
        (nowUs - master.requestStartUs).toUInt32
      else 0,
      acceptAck master nodeId nowUs engineUs)

/-! ## One operation -/

/-- The inputs of one call of `rs485_master_process_one`. -/
structure ProcessInput where
  chunk : List UInt8
  receiveUs : UInt64
  nowUs : UInt64
  engineUs : UInt64

/-- Count and report a frame that is not the awaited acknowledgement. -/
def ignoreFrame (master : Rs485Master) (frame : Rs485Frame) :
    Rs485Master × MasterOutput :=
  ({ master with
      metrics :=
        { master.metrics with
          rxIgnoredCount := master.metrics.rxIgnoredCount + 1 } },
    MasterOutput.reports
      { MasterEvent.zero with
        type := .rxIgnored, nodeId := frame.node, msgId := frame.msgId })

/-- The branch of `rs485_master_process_one` for a received frame. -/
def processFrame
    (master : Rs485Master) (frame : Rs485Frame) (input : ProcessInput) :
    Rs485Master × MasterOutput :=
  if frame.type = frameTypeAck ∧ frame.len = 0 then
    let answer :=
      rs485MasterOnAck master frame.node frame.msgId input.nowUs input.engineUs
    if answer.1 then
      (answer.2.2,
        MasterOutput.reports
          { type := .ack, nodeId := frame.node
            msgId := frame.msgId, latencyUs := answer.2.1 })
    else ignoreFrame answer.2.2 frame
  else ignoreFrame master frame

/-- The guard of the recovery branch. -/
def AwaitingOutOfRange (master : Rs485Master) : Prop :=
  master.awaitingNode = 0 ∨ master.awaitingNode.toNat > maxNodes

instance (master : Rs485Master) : Decidable (AwaitingOutOfRange master) :=
  inferInstanceAs (Decidable (_ ∨ _))

/-- The recovery branch for an awaited node that is out of range. -/
def recoverAwaiting (master : Rs485Master) (nowUs : UInt64) :
    Rs485Master × MasterOutput :=
  (rs485MasterScheduleNextPoll
      { master with
        waitingResponse := false
        retryPending := false
        currentMsgId := 0
        requestStartUs := 0 }
      nowUs (rs485MasterIdleIntervalUs master.engine),
    MasterOutput.nothing)

/-- `node->retry_count` of the awaited node after its increment. -/
def missCount (master : Rs485Master) : UInt8 :=
  (master.nodes (master.awaitingNode.toNat - 1)).retryCount + 1

/-- The timeout branch while attempts are left. -/
def retryRequest (master : Rs485Master) (nowUs : UInt64) :
    Rs485Master × MasterOutput :=
  let index := master.awaitingNode.toNat - 1
  (rs485MasterScheduleNextPoll
      { master with
        nodes :=
          Function.update master.nodes index
            { master.nodes index with retryCount := missCount master }
        waitingResponse := false
        requestStartUs := 0
        retryPending := true
        metrics :=
          { master.metrics with
            retryCount := master.metrics.retryCount + 1
            lastTimeoutMs := (nowUs / 1000).toUInt32 } }
      nowUs retryBackoffUs,
    MasterOutput.reports
      { MasterEvent.zero with
        type := .retry, nodeId := master.awaitingNode
        msgId := master.currentMsgId })

/-- The timeout branch when all attempts are used up. -/
def abandonRequest (master : Rs485Master) (nowUs : UInt64) :
    Rs485Master × MasterOutput :=
  let index := master.awaitingNode.toNat - 1
  (rs485MasterScheduleNextPoll
      { master with
        nodes :=
          Function.update master.nodes index
            { master.nodes index with online := 0, retryCount := 0 }
        waitingResponse := false
        requestStartUs := 0
        awaitingNode := 0
        retryPending := false
        currentMsgId := 0
        metrics :=
          { master.metrics with
            timeoutCount := master.metrics.timeoutCount + 1
            lastTimeoutMs := (nowUs / 1000).toUInt32 } }
      nowUs (rs485MasterIdleIntervalUs master.engine),
    MasterOutput.reports
      { MasterEvent.zero with
        type := .timeout, nodeId := master.awaitingNode
        msgId := master.currentMsgId })

/-- The branch of `rs485_master_process_one` after a response timeout. -/
def expireRequest (master : Rs485Master) (nowUs : UInt64) :
    Rs485Master × MasterOutput :=
  if (missCount master).toNat < maxRetry then retryRequest master nowUs
  else abandonRequest master nowUs

/-- The target of the next transmission and the state with it chosen. -/
def chooseRequest (master : Rs485Master) :
    UInt8 × UInt16 × Option UInt16 × Rs485Master :=
  if master.retryPending then
    (master.awaitingNode, master.currentMsgId, none,
      { master with retryPending := false })
  else
    let nodeId :=
      if master.engine.selfTestEnabled then selfTestNodeId
      else master.currentNode + 1
    let msgId := nextMsgId master.msgIdCounter
    let next :=
      if master.engine.selfTestEnabled then master.currentNode
      else if (master.currentNode + 1).toNat ≥ maxNodes then 0
      else master.currentNode + 1
    (nodeId, msgId.1, some msgId.1,
      { master with
        msgIdCounter := msgId.2
        currentMsgId := msgId.1
        currentNode := next })

/-- The poll frame of a transmission. -/
def pollFrame (nodeId : UInt8) (msgId : UInt16) : Rs485Frame :=
  { Rs485Frame.zero with
    node := nodeId, msgId := msgId, type := frameTypePoll, len := 0 }

/-- The branch of `rs485_master_process_one` that sends one poll. -/
def transmitRequest (master : Rs485Master) (input : ProcessInput) :
    Rs485Master × MasterOutput :=
  let chosen := chooseRequest master
  let sent :=
    rs485EngineSend chosen.2.2.2.engine
      (pollFrame chosen.1 chosen.2.1) input.engineUs
  let waiting :=
    { chosen.2.2.2 with
      waitingResponse := true
      awaitingNode := chosen.1
      requestStartUs := input.nowUs
      engine := sent.1
      metrics :=
        { master.metrics with
          txCount := master.metrics.txCount + 1
          lastTxMs := (input.nowUs / 1000).toUInt32 } }
  (rs485MasterScheduleNextPoll waiting input.nowUs responseTimeoutUs,
    { returned := true
      event :=
        { MasterEvent.zero with
          type := .tx, nodeId := chosen.1, msgId := chosen.2.1 }
      sent := sent.2
      assigned := chosen.2.2.1 })

/-- The response timeout has passed. -/
def TimedOut (master : Rs485Master) (nowUs : UInt64) : Prop :=
  ¬ nowUs - master.requestStartUs ≤ responseTimeoutUs

instance (master : Rs485Master) (nowUs : UInt64) :
    Decidable (TimedOut master nowUs) :=
  inferInstanceAs (Decidable (¬ _))

/-- The part of `rs485_master_process_one` after the receive path. -/
def processQuiet (master : Rs485Master) (input : ProcessInput) :
    Rs485Master × MasterOutput :=
  if master.waitingResponse then
    if TimedOut master input.nowUs then
      if AwaitingOutOfRange master then recoverAwaiting master input.nowUs
      else expireRequest master input.nowUs
    else (master, MasterOutput.nothing)
  else if input.nowUs < master.nextPollDueUs then
    (master, MasterOutput.nothing)
  else transmitRequest master input

/-- The master after `rs485_engine_receive`. -/
def receiveInto (master : Rs485Master) (input : ProcessInput) :
    Rs485Master × Reception :=
  let reception :=
    rs485EngineReceive master.engine Rs485Frame.zero input.chunk input.receiveUs
  ({ master with engine := reception.engine }, reception)

def rs485MasterProcessOne (master : Rs485Master) (input : ProcessInput) :
    Rs485Master × MasterOutput :=
  let received := receiveInto master input
  match received.2.result with
  | .crcError =>
      ({ received.1 with
          metrics :=
            { received.1.metrics with
              crcErrorCount := received.1.metrics.crcErrorCount + 1 } },
        MasterOutput.reports { MasterEvent.zero with type := .crcError })
  | .frame => processFrame received.1 received.2.frame input
  | .none => processQuiet received.1 input
  | .formatError => processQuiet received.1 input

/-! ## Runs -/

/-- The calls that reach the master, in any order. -/
inductive MasterAction where
  | processOne (input : ProcessInput)
  | onAck (nodeId : UInt8) (msgId : UInt16) (nowUs engineUs : UInt64)
  | engineTick (nowUs : UInt64)
  | setSelfTest (enabled : Bool)

/-- An acknowledgement handed in by the caller of `rs485_master_on_ack`. -/
def acknowledge
    (master : Rs485Master) (nodeId : UInt8) (msgId : UInt16)
    (nowUs engineUs : UInt64) : Rs485Master × MasterOutput :=
  let answer := rs485MasterOnAck master nodeId msgId nowUs engineUs
  (answer.2.2,
    if answer.1 then
      MasterOutput.reports
        { type := .ack, nodeId := nodeId
          msgId := msgId, latencyUs := answer.2.1 }
    else MasterOutput.nothing)

/-- The master as a component. -/
def masterCall (master : Rs485Master) :
    MasterAction → Rs485Master × MasterOutput
  | .processOne input => rs485MasterProcessOne master input
  | .onAck nodeId msgId nowUs engineUs =>
      acknowledge master nodeId msgId nowUs engineUs
  | .engineTick nowUs =>
      let ticked := rs485EngineTick1ms master.engine nowUs
      ({ master with engine := ticked.1 },
        { MasterOutput.nothing with sent := ticked.2 })
  | .setSelfTest enabled =>
      ({ master with
          engine := rs485EngineSetSelfTest master.engine enabled },
        MasterOutput.nothing)

end Endap.Rs485.Master
