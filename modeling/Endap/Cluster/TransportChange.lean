import Endap.Cluster.RemoteTransport
import Endap.Device.NetworkChange

/-!
# A transport change on its node

A node that obeys a transport change calls the two setters of its profile and
acknowledges with an error if either of them reports one.  Nothing is taken
back: the links may be refused and the transports set all the same, and a
setter that cannot write has changed the profile already.

An acknowledgement with an error therefore leaves the profile as it was only
where the change would have changed nothing.
-/

namespace Endap.Cluster

open Endap.Device
  (NetworkSettings NetworkWorld TransportChange ChangeOutcomes AlreadySo)
open Endap.Onboarding

/-- The answer of a setter, as the handler compares it. -/
def NetworkConfigResult.ofDevice :
    Endap.Device.NetworkConfigResult → NetworkConfigResult
  | .ok => .ok
  | .unsupported => .unsupported
  | .persistFailed => .persistFailed

theorem ofDevice_ok_iff (answer : Endap.Device.NetworkConfigResult) :
    NetworkConfigResult.ofDevice answer = .ok ↔ answer = .ok := by
  cases answer with
  | ok => exact iff_of_true rfl rfl
  | _ => exact iff_of_false (by decide) (by decide)

/-- What a message asks of the profile; the delays are those of the
handler. -/
def RemoteTransportMsg.change (msg : RemoteTransportMsg) : TransportChange where
  wifiEnabled := msg.settings.wifiEnabled
  ethernetEnabled := msg.settings.ethernetEnabled
  rs485Enabled := msg.settings.rs485Enabled
  wifiMode := msg.settings.wifiMode.toUInt32
  primaryTransport := msg.settings.primaryTransport.toUInt32
  fallbackTransport := msg.settings.fallbackTransport.toUInt32
  failoverDelayMs := 5000
  recoveryHysteresisMs := 15000

/-- What the setters of node `self` answer to a message. -/
def setterAnswers (self : UInt32) (platform : InitPlatform)
    (activeType : TransportType) (world : NetworkWorld)
    (msg : RemoteTransportMsg) (outcomes : ChangeOutcomes) :
    TransportInput where
  receiver := self
  init := platform
  networkEnabled := .ofDevice (msg.change.apply world outcomes).2.1
  transportPolicy := .ofDevice (msg.change.apply world outcomes).2.2
  activeType := activeType

/-- `cluster_transport_handle_transport_frame` on node `self` and its profile,
for a change: the profile afterwards, and the acknowledgement if there is
one. -/
def handleTransportFrame (self : UInt32)
    (nodes : UInt32 → OnboardingNode) (platform : InitPlatform)
    (activeType : TransportType) (world : NetworkWorld)
    (frame : TransportFrame) (outcomes : ChangeOutcomes) :
    NetworkWorld × Option RemoteTransportMsg :=
  match
      (handleTransportSet nodes frame
        (setterAnswers self platform activeType world frame.msg
          outcomes)).2 with
  | none => (world, none)
  | some (_, reply) =>
      ((frame.msg.change.apply world outcomes).1, some reply.msg)

/-- The node obeys the frame: it is a change for this node, which is active
under the gateway that sent it. -/
def ObeysChange (self : UInt32) (nodes : UInt32 → OnboardingNode)
    (platform : InitPlatform) (frame : TransportFrame) : Prop :=
  (frame.msg.msgType = .set ∧ frame.msg.targetNodeId = self) ∧
  ((nodes self).init platform).config.state = stateActive ∧
  ((nodes self).init platform).config.adoptedByGatewayId = frame.msg.gatewayId

/-- An acknowledgement with an error leaves links, transports and delays as
they were. -/
def ErrorLeavesProfile (before : NetworkWorld)
    (result : NetworkWorld × Option RemoteTransportMsg) : Prop :=
  ∀ ack, result.2 = some ack → ack.statusCode ≠ 0 →
  result.1.settings.choice = before.settings.choice

section

variable {nodes : UInt32 → OnboardingNode} {frame : TransportFrame}

theorem handleTransportSet_ignored
    (input : TransportInput)
    (ignored : ¬ ObeysChange input.receiver nodes input.init frame) :
    (handleTransportSet nodes frame input).2 = none := by
  rw [handleTransportSet]
  split
  · next forNode =>
      dsimp only
      split
      · rfl
      · next active =>
          split
          · rfl
          · next adopted =>
              exact
                absurd
                  ⟨forNode, Decidable.not_not.mp active,
                    Decidable.not_not.mp adopted⟩
                  ignored
  · rfl

theorem handleTransportSet_obeyed
    (input : TransportInput)
    (obeys : ObeysChange input.receiver nodes input.init frame) :
    ∃ execution reply,
      (handleTransportSet nodes frame input).2 = some (execution, reply) ∧
      reply.msg.statusCode = input.status := by
  rcases obeys with ⟨forNode, active, adopted⟩
  rw [handleTransportSet, if_pos forNode]
  dsimp only
  rw [if_neg (Decidable.not_not.mpr active),
    if_neg (Decidable.not_not.mpr adopted)]
  exact ⟨_, _, rfl, rfl⟩

variable {self : UInt32} {platform : InitPlatform}

theorem handleTransportFrame_ignored
    (ignored : ¬ ObeysChange self nodes platform frame)
    (activeType : TransportType) (world : NetworkWorld)
    (outcomes : ChangeOutcomes) :
    handleTransportFrame self nodes platform activeType world frame outcomes =
      (world, none) := by
  have silent :=
    handleTransportSet_ignored
      (setterAnswers self platform activeType world frame.msg outcomes)
      ignored
  rw [handleTransportFrame, silent]

theorem handleTransportFrame_obeyed
    (obeys : ObeysChange self nodes platform frame)
    (activeType : TransportType) (world : NetworkWorld)
    (outcomes : ChangeOutcomes) :
    ∃ ack,
      handleTransportFrame self nodes platform activeType world frame outcomes =
        ((frame.msg.change.apply world outcomes).1, some ack) ∧
      ack.statusCode =
        (setterAnswers self platform activeType world frame.msg
          outcomes).status := by
  rcases
      handleTransportSet_obeyed
        (setterAnswers self platform activeType world frame.msg outcomes)
        obeys with
    ⟨execution, reply, isReply, status⟩
  rw [handleTransportFrame, isReply]
  exact ⟨reply.msg, rfl, status⟩

end

/-- The status is zero exactly if the device has the links and both writes
succeed. -/
theorem setterAnswers_status_iff
    (self : UInt32) (platform : InitPlatform) (activeType : TransportType)
    (world : NetworkWorld) (msg : RemoteTransportMsg)
    (outcomes : ChangeOutcomes) :
    (setterAnswers self platform activeType world msg outcomes).status = 0 ↔
    msg.change.Supported world.settings ∧
    outcomes.links.succeeds = true ∧
    outcomes.transports.succeeds = true := by
  rw [← Endap.Device.apply_ok_iff, TransportInput.status]
  have answers :
      ((setterAnswers self platform activeType world msg
            outcomes).networkEnabled =
          .ok ∧
        (setterAnswers self platform activeType world msg
            outcomes).transportPolicy =
          .ok) ↔
      (msg.change.apply world outcomes).2.1 = .ok ∧
      (msg.change.apply world outcomes).2.2 = .ok :=
    and_congr (ofDevice_ok_iff _) (ofDevice_ok_iff _)
  rw [← answers]
  split
  · next both => exact iff_of_true rfl both
  · next notBoth => exact iff_of_false (by decide) notBoth

theorem remoteDelays (msg : RemoteTransportMsg) :
    msg.change.Delays := by
  constructor
  · change (5000 : UInt32) ≠ 0
    decide
  · change (15000 : UInt32) ≠ 0
    decide

/--
On every node, with every profile and for every frame, an acknowledgement with
an error leaves the profile as it was exactly if the frame is not obeyed, or
the device has the links asked for and both writes succeed (and then there is
no error), or the profile is already what the change comes to.
-/
theorem error_leaves_profile_iff
    (self : UInt32) (nodes : UInt32 → OnboardingNode)
    (platform : InitPlatform) (activeType : TransportType)
    (world : NetworkWorld) (frame : TransportFrame)
    (outcomes : ChangeOutcomes) :
    ErrorLeavesProfile world
        (handleTransportFrame self nodes platform activeType world frame
          outcomes) ↔
    (ObeysChange self nodes platform frame →
    (frame.msg.change.Supported world.settings ∧
        outcomes.links.succeeds = true ∧
        outcomes.transports.succeeds = true) ∨
      AlreadySo world.settings frame.msg.change) := by
  by_cases obeys : ObeysChange self nodes platform frame
  · rcases handleTransportFrame_obeyed obeys activeType world outcomes with
      ⟨ack, isResult, status⟩
    have unchanged :=
      Endap.Device.apply_choice_iff (remoteDelays frame.msg) world outcomes
    rw [isResult, ← setterAnswers_status_iff self platform activeType,
      ← status, ← unchanged]
    constructor
    · intro leaves _
      by_cases good : ack.statusCode = 0
      · exact Or.inl good
      · exact Or.inr (leaves ack rfl good)
    · intro either sent isSent error
      cases isSent
      exact (either obeys).resolve_left error
  · rw [handleTransportFrame_ignored obeys activeType world outcomes]
    refine iff_of_true ?_ fun isObeyed => absurd isObeyed obeys
    intro ack isSent
    cases isSent

def wifiDevice : NetworkWorld :=
  (Endap.Device.setNetworkEnabled
    (.boot { wifi := true, ethernet := true, rs485 := false }
      { nodeProfile := some 1, network := none })
    true false false 0 .committed).1

def ethernetSet : TransportFrame where
  call := 0
  msg :=
    { msgType := .set
      primaryTransport := 2
      fallbackTransport := 3
      wifiMode := 0
      flags := 0x06
      statusCode := 0
      targetNodeId := 7
      gatewayId := 1 }

/-- The node answers with an error, since it has no RS-485, and has changed
from Wi-Fi to Ethernet. -/
theorem ethernetSet_refused_and_applied :
    ¬ ErrorLeavesProfile wifiDevice
      (handleTransportFrame 7 (fun _ => adoptedNode) ⟨true, .committed⟩
        .wifiUdp wifiDevice ethernetSet ⟨.committed, .committed⟩) := by
  intro leaves
  have error :
      (handleTransportFrame 7 (fun _ => adoptedNode) ⟨true, .committed⟩
          .wifiUdp wifiDevice ethernetSet
          ⟨.committed, .committed⟩).2.map RemoteTransportMsg.statusCode =
        some 1 := by
    decide +kernel
  rcases Option.map_eq_some_iff.mp error with ⟨ack, isSent, status⟩
  have unchanged := leaves ack isSent (by rw [status]; decide)
  exact absurd unchanged (by decide +kernel)

end Endap.Cluster
