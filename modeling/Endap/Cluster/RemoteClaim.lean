import Endap.Library.Exchange
import Endap.Onboarding.Claim

/-!
# Claims over the cluster

The gateway claims a node by a request that every node hears and only its
target answers.  Calls hold a mutex, so one runs at a time; the mutex and the
semaphore are created when the transport starts, which is the step `prepare`.
The answer is matched with the call by the id of the target alone: the profile
that it carries is not compared, and it has no number of the request it is
for.  An answer that comes after its call has given up is therefore taken for
the answer to the next call to the same node.
-/

namespace Endap.Cluster

open Endap.Library
open Endap.Library.Exchange
open Endap.Onboarding

/-- `endap_remote_claim_type_t`, and the zero of a cleared buffer. -/
inductive ClaimMsgType where
  | none
  | req
  | resp
deriving DecidableEq

/-- `endap_remote_claim_msg_t`, without the magic that all of them have. -/
structure RemoteClaimMsg where
  msgType : ClaimMsgType
  profile : UInt8
  statusCode : UInt16
  targetNodeId : UInt32
  gatewayId : UInt32
  nodeName : List UInt8

/-- The arguments of `cluster_transport_send_remote_claim`. -/
structure ClaimRequest where
  targetNodeId : UInt32
  profile : UInt8
  gatewayId : UInt32
  nodeName : Option (List UInt8)
deriving DecidableEq

/-- One execution of `endap_onboarding_claim` by a node, and its result. -/
structure ClaimExecution where
  nodeId : UInt32
  profile : UInt8
  gatewayId : UInt32
  nodeName : List UInt8
  err : Int
deriving DecidableEq

/-- `remote_claim_response` after `memset`. -/
def RemoteClaimMsg.zero : RemoteClaimMsg where
  msgType := .none
  profile := 0
  statusCode := 0
  targetNodeId := 0
  gatewayId := 0
  nodeName := []

/-- The request that a call broadcasts. -/
def claimReq (call : Call ClaimRequest) : RemoteClaimMsg where
  msgType := .req
  profile := call.request.profile
  statusCode := 0
  targetNodeId := call.request.targetNodeId
  gatewayId := call.request.gatewayId
  nodeName := (call.request.nodeName.getD []).take (nodeNameMax - 1)

/-- `pending_claim_target_node_id`: the target of the call that runs. -/
def pendingClaimTargetNodeId : Option (Call ClaimRequest) → UInt32
  | none => 0
  | some call => call.request.targetNodeId

/-- The part of `cluster_transport_handle_claim_frame` that takes an answer
for the call that runs on node `self`. -/
def acceptsClaimResp
    (self : UInt32) (current : Option (Call ClaimRequest))
    (msg : RemoteClaimMsg) : Bool :=
  msg.msgType = .resp && msg.gatewayId = self &&
    msg.targetNodeId = pendingClaimTargetNodeId current

/-- The part of `cluster_transport_handle_claim_frame` that executes a
request on the node it is for. -/
def handleClaimReq
    (nodes : UInt32 → OnboardingNode) (msg : RemoteClaimMsg)
    (input : UInt32 × ClaimPlatform) :
    (UInt32 → OnboardingNode) × Option (ClaimExecution × RemoteClaimMsg) :=
  if msg.msgType = .req ∧ msg.targetNodeId = input.1 then
    match (nodes input.1).claim msg.profile msg.gatewayId
        (some msg.nodeName) input.2 with
    | (err, node) =>
        (Function.update nodes input.1 node,
          some
            ({ nodeId := input.1
               profile := msg.profile
               gatewayId := msg.gatewayId
               nodeName := msg.nodeName
               err := err },
              { msgType := .resp
                profile := msg.profile
                statusCode := statusOf err
                targetNodeId := input.1
                gatewayId := msg.gatewayId
                nodeName := msg.nodeName.take (nodeNameMax - 1) }))
  else
    (nodes, none)

/-- `cluster_transport_send_remote_claim` on node `self`, with the handler
that all nodes share. -/
def remoteClaim (self : UInt32) :
    Protocol ClaimRequest RemoteClaimMsg (UInt32 → OnboardingNode)
      (UInt32 × ClaimPlatform) ClaimExecution where
  blank := RemoteClaimMsg.zero
  frameOf := claimReq
  accepts := acceptsClaimResp self
  succeeds := fun msg => msg.statusCode = 0
  handle := handleClaimReq

/-- A gateway that has not started, among nodes in any state. -/
def claimWorld (nodes : UInt32 → OnboardingNode) :
    World ClaimRequest RemoteClaimMsg (UInt32 → OnboardingNode) where
  ready := false
  mailbox := ⟨false, RemoteClaimMsg.zero⟩
  calls := 0
  call := none
  inFlight := []
  peers := nodes

/-! ## Acknowledged claims -/

/-- The target of the call has executed the claim that the call asks for. -/
def ExecutesClaim
    (call : Call ClaimRequest) (execution : ClaimExecution) : Prop :=
  execution.nodeId = call.request.targetNodeId ∧
  execution.profile = call.request.profile ∧
  execution.gatewayId = call.request.gatewayId ∧ execution.err = espOk

/--
A frame that cannot be taken for the answer to the call: it is not between
this gateway and the target of the call, or it is a request for the same
profile and gateway, or an answer that reports an error.
-/
def NotStale
    (self : UInt32) (call : Call ClaimRequest) (msg : RemoteClaimMsg) :
    Prop :=
  msg.gatewayId = self → msg.targetNodeId = call.request.targetNodeId →
  (msg.msgType = .req →
  msg.profile = call.request.profile ∧
  msg.gatewayId = call.request.gatewayId) ∧
  (msg.msgType = .resp → msg.statusCode ≠ 0)

instance (self : UInt32) (call : Call ClaimRequest) (msg : RemoteClaimMsg) :
    Decidable (NotStale self call msg) :=
  inferInstanceAs (Decidable (_ → _ → _ ∧ _))

theorem handleClaimReq_some
    {nodes after : UInt32 → OnboardingNode} {msg reply : RemoteClaimMsg}
    {input : UInt32 × ClaimPlatform} {execution : ClaimExecution}
    (handles :
      handleClaimReq nodes msg input = (after, some (execution, reply))) :
    msg.msgType = .req ∧ msg.targetNodeId = execution.nodeId ∧
    execution.profile = msg.profile ∧
    execution.gatewayId = msg.gatewayId ∧
    reply.msgType = .resp ∧
    reply.targetNodeId = execution.nodeId ∧
    reply.gatewayId = msg.gatewayId ∧
    (reply.statusCode = 0 → execution.err = espOk) := by
  rw [handleClaimReq] at handles
  split at handles
  · next isRequest =>
      have range :=
        claim_range (nodes input.1) msg.profile msg.gatewayId
          (some msg.nodeName) input.2
      generalize
        (nodes input.1).claim msg.profile msg.gatewayId (some msg.nodeName)
          input.2 = result at handles range
      rcases result with ⟨err, node⟩
      cases handles
      exact
        ⟨isRequest.1, isRequest.2, rfl, rfl, rfl, rfl, rfl,
          fun isZero => statusOf_eq_zero range isZero⟩
  · cases handles

theorem remoteClaim_confines (self : UInt32) :
    (remoteClaim self).Confines (NotStale self) ExecutesClaim := by
  constructor
  · intro call _ _
    exact ⟨fun _ => ⟨rfl, rfl⟩, fun isResp => by cases isResp⟩
  · intro call nodes msg input after execution reply harmless handles
    rcases handleClaimReq_some handles with
      ⟨isReq, isTarget, sameProfile, sameGateway, isResp, replyTarget,
        replyGateway, status⟩
    by_cases failed : reply.statusCode = 0
    · by_cases toSelf : msg.gatewayId = self
      · by_cases toTarget :
            msg.targetNodeId = call.request.targetNodeId
        · rcases (harmless toSelf toTarget).1 isReq with ⟨profile, gateway⟩
          exact
            Or.inl
              ⟨isTarget.symm.trans toTarget, sameProfile.trans profile,
                sameGateway.trans gateway, status failed⟩
        · refine Or.inr ?_
          intro _ replyToTarget
          exact
            absurd (isTarget.trans (replyTarget.symm.trans replyToTarget))
              toTarget
      · refine Or.inr ?_
        intro replyToSelf
        exact absurd (replyGateway.symm.trans replyToSelf) toSelf
    · refine Or.inr ?_
      intro _ _
      refine ⟨?_, fun _ => failed⟩
      intro replyReq
      rw [isResp] at replyReq
      cases replyReq
  · intro call msg harmless accepted
    simp only [remoteClaim, acceptsClaimResp, Bool.and_eq_true,
      decide_eq_true_eq] at accepted
    rcases accepted with ⟨⟨isResp, toSelf⟩, toTarget⟩
    simpa [remoteClaim] using (harmless toSelf toTarget).2 isResp

/--
In every run whose calls begin while no answer of success from their target to
this gateway, and no request to that target under this gateway for another
profile or gateway, is in flight, a call that returns true was acknowledged
rightly: since it began, its target has executed the claim with its profile
and gateway successfully.
-/
theorem remote_claim_acknowledges_request
    (self : UInt32) (nodes : UInt32 → OnboardingNode)
    (actions : List (Action ClaimRequest (UInt32 × ClaimPlatform)))
    (clean :
      ∀ transition ∈
          Run.history (World.step (remoteClaim self)) (claimWorld nodes)
            actions,
        BeginsClean (NotStale self) transition.before transition.action)
    {action : Action ClaimRequest (UInt32 × ClaimPlatform)}
    {call : Call ClaimRequest}
    (returns :
      ((Run.final (World.step (remoteClaim self)) (claimWorld nodes)
            actions).step (remoteClaim self) action).2 =
        .returned call true) :
    ∃ since,
      Run.Since Output.opens call
          (Run.history (World.step (remoteClaim self)) (claimWorld nodes)
            actions)
          since ∧
      ∃ transition ∈ since, ∃ execution,
        transition.output = .handled execution ∧
        ExecutesClaim call execution :=
  returned_fulfilled (remoteClaim_confines self) rfl actions clean returns

def pendingNode : OnboardingNode where
  config :=
    { version := onboardingConfigVersion
      state := statePending
      profile := nodeProfileField
      adoptedByGatewayId := 0
      adoptedTimestamp := 0
      nodeName := [] }
  initialized := true
  nvs := none
  currentNodeProfile := nodeProfileField

def calmPlatform : ClaimPlatform where
  init := ⟨true, .committed⟩
  timeSec := 10
  save := .committed
  saveError := ⟨-1, by decide, by decide⟩

def claimSeven (profile : UInt8) : ClaimRequest where
  targetNodeId := 7
  profile := profile
  gatewayId := 1
  nodeName := none

def promptClaim : List (Action ClaimRequest (UInt32 × ClaimPlatform)) :=
  [.prepare true, .begin (claimSeven 1), .send true,
    .handle 0 (7, calmPlatform), .receive 1, .wake]

/-- The call of a prompt claim returns true after the claim was executed. -/
theorem promptClaim_acknowledged :
    ∃ since,
      Run.Since Output.opens ⟨0, claimSeven 1⟩
          (Run.history (World.step (remoteClaim 1))
            (claimWorld fun _ => pendingNode) promptClaim)
          since ∧
        ∃ transition ∈ since, ∃ execution,
          transition.output = .handled execution ∧
          ExecutesClaim ⟨0, claimSeven 1⟩ execution := by
  refine
    @remote_claim_acknowledges_request 1 (fun _ => pendingNode) promptClaim
      ?_ .finish ⟨0, claimSeven 1⟩ ?_
  · decide +kernel
  · decide +kernel

/--
The answer to a first claim is late, and the call has given up.  It is taken
for the answer to a claim of the same node for another profile, which the node
never gets.
-/
def lateAnswer : List (Action ClaimRequest (UInt32 × ClaimPlatform)) :=
  [.prepare true, .begin (claimSeven 1), .send true,
    .handle 0 (7, calmPlatform), .expire, .begin (claimSeven 2),
    .send true, .receive 1, .wake]

/-- The second call returns true, and no node has executed the claim that it
asks for. -/
theorem lateAnswer_acknowledges_wrong_request :
    ((Run.final (World.step (remoteClaim 1)) (claimWorld fun _ => pendingNode)
          lateAnswer).step (remoteClaim 1) .finish).2 =
        .returned ⟨1, claimSeven 2⟩ true ∧
      ∀ transition ∈
          Run.history (World.step (remoteClaim 1))
            (claimWorld fun _ => pendingNode) lateAnswer,
        ∀ execution, transition.output = .handled execution →
        ¬ ExecutesClaim ⟨1, claimSeven 2⟩ execution := by
  refine ⟨by decide +kernel, ?_⟩
  have outputs :
      (Run.history (World.step (remoteClaim 1))
          (claimWorld fun _ => pendingNode) lateAnswer).map
          Run.Transition.output =
        [.quiet, .began ⟨0, claimSeven 1⟩, .quiet,
          .handled ⟨7, 1, 1, [], espOk⟩,
          .returned ⟨0, claimSeven 1⟩ false, .began ⟨1, claimSeven 2⟩,
          .quiet, .quiet, .quiet] := by
    decide +kernel
  intro transition member execution isHandled executes
  have shown := List.mem_map_of_mem (f := Run.Transition.output) member
  rw [outputs, isHandled] at shown
  have isFirst : execution = ⟨7, 1, 1, [], espOk⟩ := by
    simpa using shown
  rw [isFirst] at executes
  exact absurd executes.2.1 (by decide)

end Endap.Cluster
