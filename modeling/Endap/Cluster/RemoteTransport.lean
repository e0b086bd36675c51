import Endap.Cluster.Transport
import Endap.Library.Exchange
import Endap.Onboarding.Claim

/-!
# Transport changes over the cluster

The gateway changes the transport of a node by a message that every node hears
and only its target obeys, if it is active under that gateway.  Calls come
from the one task of the HTTP server, one after another; a call that finds no
semaphore creates it, which is the step `prepare`.  The gateway takes any
acknowledgement under its own id for the answer to the call that runs,
whichever node it is from and whichever message it is for.

A frame is kept with the number of the call that it belongs to.  The number is
not in the message and nothing reads it; it tells which message a node has
processed.
-/

namespace Endap.Cluster

open Endap.Library
open Endap.Library.Exchange
open Endap.Onboarding

/-- `endap_remote_transport_type_t`, and the zero of a cleared buffer. -/
inductive TransportMsgType where
  | none
  | set
  | ack
deriving DecidableEq

/-- `endap_remote_transport_msg_t`, without the magic that all of them
have. -/
structure RemoteTransportMsg where
  msgType : TransportMsgType
  primaryTransport : UInt8
  fallbackTransport : UInt8
  wifiMode : UInt8
  flags : UInt8
  statusCode : UInt16
  targetNodeId : UInt32
  gatewayId : UInt32
deriving DecidableEq

/-- A message and the call that it belongs to. -/
structure TransportFrame where
  call : Nat
  msg : RemoteTransportMsg
deriving DecidableEq

/-- The arguments of `cluster_transport_send_remote_transport_set`. -/
structure TransportRequest where
  targetNodeId : UInt32
  primary : UInt8
  fallback : UInt8
  wifiMode : UInt8
  flags : UInt8
  gatewayId : UInt32
deriving DecidableEq

/-- `device_profile_network_config_result_t`. -/
inductive NetworkConfigResult where
  | ok
  | unsupported
  | persistFailed
deriving DecidableEq

/-- What a node gives to the two setters of its profile. -/
structure TransportSettings where
  wifiEnabled : Bool
  ethernetEnabled : Bool
  rs485Enabled : Bool
  wifiMode : UInt8
  primaryTransport : UInt8
  fallbackTransport : UInt8
deriving DecidableEq

/-- The node that gets a message, and what its setters answer. -/
structure TransportInput where
  receiver : UInt32
  init : InitPlatform
  networkEnabled : NetworkConfigResult
  transportPolicy : NetworkConfigResult
  activeType : TransportType

/-- A message that a node has processed, and the status it answered. -/
structure TransportExecution where
  nodeId : UInt32
  call : Nat
  settings : TransportSettings
  status : UInt16
deriving DecidableEq

/-- `remote_transport_response` after `memset`. -/
def RemoteTransportMsg.zero : RemoteTransportMsg where
  msgType := .none
  primaryTransport := 0
  fallbackTransport := 0
  wifiMode := 0
  flags := 0
  statusCode := 0
  targetNodeId := 0
  gatewayId := 0

/-- The message that a call broadcasts. -/
def transportSet (call : Call TransportRequest) : TransportFrame where
  call := call.number
  msg :=
    { msgType := .set
      primaryTransport := call.request.primary
      fallbackTransport := call.request.fallback
      wifiMode := call.request.wifiMode
      flags := call.request.flags
      statusCode := 0
      targetNodeId := call.request.targetNodeId
      gatewayId := call.request.gatewayId }

/-- `profile_from_cluster_transport`, by its codes. -/
def profileFromClusterTransport : TransportType → UInt8
  | .none => 0
  | .wifiUdp => 1
  | .ethernetUdp => 2
  | .rs485 => 3
  | .wifiNow => 4
  | .wifiMesh => 5

def RemoteTransportMsg.settings (msg : RemoteTransportMsg) :
    TransportSettings where
  wifiEnabled := msg.flags &&& 0x01 ≠ 0
  ethernetEnabled := msg.flags &&& 0x02 ≠ 0
  rs485Enabled := msg.flags &&& 0x04 ≠ 0
  wifiMode := msg.wifiMode
  primaryTransport := msg.primaryTransport
  fallbackTransport := msg.fallbackTransport

def TransportInput.status (input : TransportInput) : UInt16 :=
  if input.networkEnabled = .ok ∧ input.transportPolicy = .ok then 0 else 1

/-- The part of `cluster_transport_handle_transport_frame` that takes an
acknowledgement on node `self`. -/
def acceptsTransportAck
    (self : UInt32) (_current : Option (Call TransportRequest))
    (frame : TransportFrame) : Bool :=
  frame.msg.msgType = .ack && frame.msg.gatewayId = self

/-- The part of `cluster_transport_handle_transport_frame` that obeys a
message on the node it is for. -/
def handleTransportSet
    (nodes : UInt32 → OnboardingNode) (frame : TransportFrame)
    (input : TransportInput) :
    (UInt32 → OnboardingNode) × Option (TransportExecution × TransportFrame) :=
  if frame.msg.msgType = .set ∧ frame.msg.targetNodeId = input.receiver then
    let node := (nodes input.receiver).init input.init
    let after := Function.update nodes input.receiver node
    if node.config.state ≠ stateActive then
      (after, none)
    else if node.config.adoptedByGatewayId ≠ frame.msg.gatewayId then
      (after, none)
    else
      (after,
        some
          ({ nodeId := input.receiver
             call := frame.call
             settings := frame.msg.settings
             status := input.status },
            { call := frame.call
              msg :=
                { RemoteTransportMsg.zero with
                  msgType := .ack
                  statusCode := input.status
                  targetNodeId := input.receiver
                  gatewayId := frame.msg.gatewayId
                  primaryTransport :=
                    profileFromClusterTransport input.activeType } }))
  else
    (nodes, none)

/-- `cluster_transport_send_remote_transport_set` on node `self`, with the
handler that all nodes share. -/
def remoteTransport (self : UInt32) :
    Protocol TransportRequest TransportFrame (UInt32 → OnboardingNode)
      TransportInput TransportExecution where
  blank := ⟨0, RemoteTransportMsg.zero⟩
  frameOf := transportSet
  accepts := acceptsTransportAck self
  succeeds := fun frame => frame.msg.statusCode = 0
  handle := handleTransportSet

/-- A gateway that has made no call, among nodes in any state. -/
def transportWorld (nodes : UInt32 → OnboardingNode) :
    World TransportRequest TransportFrame (UInt32 → OnboardingNode) where
  ready := false
  mailbox := ⟨false, ⟨0, RemoteTransportMsg.zero⟩⟩
  calls := 0
  call := none
  inFlight := []
  peers := nodes

/-! ## Acknowledged changes -/

/-- The target of the call has processed the message of the call with status
zero. -/
def ProcessesSet
    (call : Call TransportRequest) (execution : TransportExecution) : Prop :=
  execution.nodeId = call.request.targetNodeId ∧
  execution.call = call.number ∧
  execution.settings = (transportSet call).msg.settings ∧
  execution.status = 0

/--
A frame that cannot be taken for the answer to the call, nor lead to one: it is
not under the id of this gateway, or it is the message of the call itself, or
an acknowledgement that reports an error.
-/
def NotForeign
    (self : UInt32) (call : Call TransportRequest)
    (frame : TransportFrame) : Prop :=
  frame.msg.gatewayId = self →
  (frame.msg.msgType = .set → frame = transportSet call) ∧
  (frame.msg.msgType = .ack → frame.msg.statusCode ≠ 0)

instance
    (self : UInt32) (call : Call TransportRequest)
    (frame : TransportFrame) : Decidable (NotForeign self call frame) :=
  inferInstanceAs (Decidable (_ → _ ∧ _))

theorem handleTransportSet_some
    {nodes after : UInt32 → OnboardingNode} {frame reply : TransportFrame}
    {input : TransportInput} {execution : TransportExecution}
    (handles :
      handleTransportSet nodes frame input = (after, some (execution, reply))) :
    frame.msg.msgType = .set ∧
    execution =
        { nodeId := frame.msg.targetNodeId
          call := frame.call
          settings := frame.msg.settings
          status := reply.msg.statusCode } ∧
      reply.msg.msgType = .ack ∧
      reply.msg.gatewayId = frame.msg.gatewayId := by
  rw [handleTransportSet] at handles
  split at handles
  · next isSet =>
      dsimp only at handles
      split at handles
      · cases handles
      · split at handles
        · cases handles
        · cases handles
          refine ⟨isSet.1, ?_, rfl, rfl⟩
          rw [isSet.2]
  · cases handles

theorem remoteTransport_confines (self : UInt32) :
    (remoteTransport self).Confines (NotForeign self) ProcessesSet := by
  constructor
  · intro call _
    exact ⟨fun _ => rfl, fun isAck => by cases isAck⟩
  · intro call nodes frame input after execution reply harmless handles
    rcases handleTransportSet_some handles with
      ⟨isSet, isExecution, isAck, sameGateway⟩
    by_cases toSelf : frame.msg.gatewayId = self
    · by_cases success : reply.msg.statusCode = 0
      · have isOwn : frame = transportSet call := (harmless toSelf).1 isSet
        rw [isExecution, isOwn]
        exact Or.inl ⟨rfl, rfl, rfl, success⟩
      · refine Or.inr ?_
        intro _
        refine ⟨?_, fun _ => success⟩
        intro replySet
        rw [isAck] at replySet
        cases replySet
    · refine Or.inr ?_
      intro replyToSelf
      exact absurd (sameGateway.symm.trans replyToSelf) toSelf
  · intro call frame harmless accepted
    simp only [remoteTransport, acceptsTransportAck, Bool.and_eq_true,
      decide_eq_true_eq] at accepted
    simpa [remoteTransport] using (harmless accepted.2).2 accepted.1

/--
In every run whose calls begin while no message of an earlier call, and no
acknowledgement of success, is in flight under the id of this gateway, a call
returns true only if its own target has processed its own message with status
zero.
-/
theorem remote_transport_acknowledges_target
    (self : UInt32) (nodes : UInt32 → OnboardingNode)
    (actions : List (Action TransportRequest TransportInput))
    (clean :
      ∀ transition ∈
          Run.history (World.step (remoteTransport self))
            (transportWorld nodes) actions,
        BeginsClean (NotForeign self) transition.before transition.action)
    {action : Action TransportRequest TransportInput}
    {call : Call TransportRequest}
    (returns :
      ((Run.final (World.step (remoteTransport self)) (transportWorld nodes)
            actions).step (remoteTransport self) action).2 =
        .returned call true) :
    ∃ since,
      Run.Since Output.opens call
          (Run.history (World.step (remoteTransport self))
            (transportWorld nodes) actions)
          since ∧
      ∃ transition ∈ since, ∃ execution,
        transition.output = .handled execution ∧
        ProcessesSet call execution :=
  returned_fulfilled (remoteTransport_confines self) rfl actions clean returns

def adoptedNode : OnboardingNode where
  config :=
    { version := onboardingConfigVersion
      state := stateActive
      profile := nodeProfileField
      adoptedByGatewayId := 1
      adoptedTimestamp := 10
      nodeName := [] }
  initialized := true
  nvs := none
  currentNodeProfile := nodeProfileField

def wifiRequest (targetNodeId : UInt32) : TransportRequest where
  targetNodeId := targetNodeId
  primary := 1
  fallback := 3
  wifiMode := 0
  flags := 0x05
  gatewayId := 1

def obeys (receiver : UInt32) : TransportInput where
  receiver := receiver
  init := ⟨true, .committed⟩
  networkEnabled := .ok
  transportPolicy := .ok
  activeType := .ethernetUdp

def promptChange : List (Action TransportRequest TransportInput) :=
  [.prepare true, .begin (wifiRequest 7), .send true, .handle 0 (obeys 7),
    .receive 1, .wake]

/-- The call of a prompt change returns true after its target processed it. -/
theorem promptChange_acknowledged :
    ∃ since,
      Run.Since Output.opens ⟨0, wifiRequest 7⟩
          (Run.history (World.step (remoteTransport 1))
            (transportWorld fun _ => adoptedNode) promptChange)
          since ∧
        ∃ transition ∈ since, ∃ execution,
          transition.output = .handled execution ∧
          ProcessesSet ⟨0, wifiRequest 7⟩ execution := by
  refine
    @remote_transport_acknowledges_target 1 (fun _ => adoptedNode)
      promptChange ?_ .finish ⟨0, wifiRequest 7⟩ ?_
  · decide +kernel
  · decide +kernel

/--
The acknowledgement of node 8 is late, and the call has given up.  It is taken
for the acknowledgement of node 7, which never gets its message.
-/
def lateAck : List (Action TransportRequest TransportInput) :=
  [.prepare true, .begin (wifiRequest 8), .send true, .handle 0 (obeys 8),
    .expire, .begin (wifiRequest 7), .send true, .receive 1, .wake]

/-- The call to node 7 returns true, and node 7 has processed nothing. -/
theorem lateAck_acknowledges_wrong_node :
    ((Run.final (World.step (remoteTransport 1))
          (transportWorld fun _ => adoptedNode) lateAck).step
          (remoteTransport 1) .finish).2 =
        .returned ⟨1, wifiRequest 7⟩ true ∧
      ∀ transition ∈
          Run.history (World.step (remoteTransport 1))
            (transportWorld fun _ => adoptedNode) lateAck,
        ∀ execution, transition.output = .handled execution →
        ¬ ProcessesSet ⟨1, wifiRequest 7⟩ execution := by
  refine ⟨by decide +kernel, ?_⟩
  have outputs :
      (Run.history (World.step (remoteTransport 1))
          (transportWorld fun _ => adoptedNode) lateAck).map
          Run.Transition.output =
        [.quiet, .began ⟨0, wifiRequest 8⟩, .quiet,
          .handled ⟨8, 0, ⟨true, false, true, 0, 1, 3⟩, 0⟩,
          .returned ⟨0, wifiRequest 8⟩ false, .began ⟨1, wifiRequest 7⟩,
          .quiet, .quiet, .quiet] := by
    decide +kernel
  intro transition member execution isHandled processes
  have shown := List.mem_map_of_mem (f := Run.Transition.output) member
  rw [outputs, isHandled] at shown
  have isEight : execution = ⟨8, 0, ⟨true, false, true, 0, 1, 3⟩, 0⟩ := by
    simpa using shown
  rw [isEight] at processes
  exact absurd processes.1 (by decide)

end Endap.Cluster
