import Endap.Http.Query
import Endap.Library.Run
import Endap.Onboarding.Repeat

/-!
# The name of a node

The handler of a claim reads the name for the node into a buffer of the size
of the name and passes it on, to another node or to the onboarding of its own.
The handler of the status prints the configuration into 384 bytes.

A name never outgrows its buffer, whatever claims arrive, and so the status
always fits.
-/

namespace Endap.Http

open Endap.Library
open Endap.Onboarding
open Endap.State

/-! ## The handlers -/

/-- The answers of `onboarding_claim_handler`. -/
inductive ClaimAnswer where
  | ok
  | badRequest
  | remoteClaimTimeoutOrFailed
  | claimFailed
deriving DecidableEq

/-- The error that an answer names. -/
def ClaimAnswer.error? : ClaimAnswer → Option String
  | .ok => none
  | .badRequest => some "bad_request"
  | .remoteClaimTimeoutOrFailed => some "remote_claim_timeout_or_failed"
  | .claimFailed => some "claim_failed"

/-- The fields of a request to `onboarding_claim_handler`.  The results of the
lookups are not looked at. -/
structure ClaimRequest where
  targetNodeId : UInt32
  profile : Int32
  gatewayId : UInt32
  nodeName : List UInt8

/-- The fields in a body. -/
def ClaimRequest.ofBody (rawValue : RawValue) (body : List UInt8) :
    ClaimRequest :=
  let buffer (key : String) (size : Nat) : List UInt8 :=
    (httpBodyGetValue rawValue body key size).text
  { targetNodeId := strtoul (buffer "target_node_id" 24)
    profile := atoi (buffer "profile" 16)
    gatewayId := strtoul (buffer "gateway_id" 24)
    nodeName := buffer "node_name" nodeNameMax }

/-- The request is for another node than this one. -/
def ClaimRequest.Remote (request : ClaimRequest) (selfId : UInt32) : Prop :=
  request.targetNodeId ≠ 0 ∧ request.targetNodeId ≠ selfId

instance (request : ClaimRequest) (selfId : UInt32) :
    Decidable (request.Remote selfId) :=
  inferInstanceAs (Decidable (_ ∧ _))

/-- `endap_onboarding_claim`, with the profile as the integer that the request
gives. -/
def claimWithProfile
    (request : ClaimRequest) (platform : ClaimPlatform)
    (node : OnboardingNode) : Int × OnboardingNode :=
  if 0 ≤ request.profile ∧ request.profile < 5 then
    node.claim request.profile.toInt8.toUInt8 request.gatewayId
      (some request.nodeName) platform
  else (espErrInvalidArg, node)

/-- `onboarding_claim_handler`, on the onboarding of the node with the
identifier `selfId`; `remoteClaim` says whether a remote claim succeeds. -/
def onboardingClaimHandler
    (rawValue : RawValue) (selfId : UInt32) (remoteClaim : Bool)
    (body : Option (List UInt8)) (platform : ClaimPlatform)
    (node : OnboardingNode) : OnboardingNode × ClaimAnswer :=
  match body with
  | none => (node, .badRequest)
  | some body =>
      let request := ClaimRequest.ofBody rawValue body
      if request.Remote selfId then
        (node, if remoteClaim then .ok else .remoteClaimTimeoutOrFailed)
      else
        let claimed := claimWithProfile request platform node
        (claimed.2, if claimed.1 = espOk then .ok else .claimFailed)

def endapOnboardingStateName (state : UInt8) : String :=
  if state = 0 then "PENDING"
  else if state = 1 then "DISCOVERED"
  else if state = 2 then "CLAIMED"
  else if state = 3 then "ACTIVE"
  else "UNKNOWN"

/-- What `onboarding_status_handler` prints. -/
def onboardingStatusText (config : OnboardingConfig) : List UInt8 :=
  List.flatten
    [CText.bytes "\x7b\"state\":\"",
      CText.bytes (endapOnboardingStateName config.state),
      CText.bytes "\",\"profile\":", Lines.decimal config.profile.toNat,
      CText.bytes ",\"gateway_id\":",
      Lines.decimal config.adoptedByGatewayId.toNat,
      CText.bytes ",\"timestamp\":",
      Lines.decimal config.adoptedTimestamp.toNat,
      CText.bytes ",\"node_name\":\"", config.nodeName,
      CText.bytes "\"\x7d"]

/-- `onboarding_status_handler`: the node after `endap_onboarding_get_config`,
and the text that is sent out of the buffer of 384 bytes. -/
def onboardingStatusHandler
    (platform : InitPlatform) (node : OnboardingNode) :
    OnboardingNode × List UInt8 :=
  let ready := node.init platform
  (ready, (onboardingStatusText ready.config).take 383)

/-! ## Names in their buffer -/

/-- A name leaves room for the terminator, in the memory and in the flash. -/
structure NamesFit (node : OnboardingNode) : Prop where
  config : node.config.nodeName.length < nodeNameMax
  stored : ∀ stored ∈ node.nvs, stored.nodeName.length < nodeNameMax

variable {node : OnboardingNode}

theorem NamesFit.saveConfig
    (fits : NamesFit node) (outcome : NvsOutcome) :
    NamesFit (node.saveConfig outcome) where
  config := fits.config
  stored := by
    rw [OnboardingNode.saveConfig, nvsWrite]
    split
    · rintro stored ⟨⟩
      exact fits.config
    · exact fits.stored

theorem gatewayName_fits : gatewayName.length < nodeNameMax := by
  decide +kernel

theorem NamesFit.init
    (fits : NamesFit node)
    (platform : InitPlatform) : NamesFit (node.init platform) := by
  rw [OnboardingNode.init]
  split
  · exact fits
  cases found : node.loadConfig platform.loads with
  | some loaded =>
      rw [OnboardingNode.loadConfig] at found
      split at found
      · have isStored := (Option.filter_eq_some_iff.mp found).1
        exact ⟨fits.stored loaded isStored, fits.stored⟩
      · cases found
  | none =>
      dsimp only
      split
      · have gateway :
            NamesFit
              { node with
                config :=
                  { node.config with
                    state := stateActive
                    profile := nodeProfileGateway
                    nodeName := gatewayName } } :=
          ⟨gatewayName_fits, fits.stored⟩
        have saved := gateway.saveConfig platform.save
        exact ⟨saved.config, saved.stored⟩
      · exact ⟨fits.config, fits.stored⟩

theorem claimedName_length_lt
    {old : List UInt8} (fits : old.length < nodeNameMax)
    (nodeName : Option (List UInt8)) :
    (claimedName old nodeName).length < nodeNameMax := by
  cases nodeName with
  | none => exact fits
  | some name =>
      rw [claimedName]
      split
      · exact fits
      · exact Nat.lt_of_le_of_lt (List.length_take_le _ _) (by decide)

theorem NamesFit.claim
    (fits : NamesFit node) (profile : UInt8)
    (gatewayId : UInt32) (nodeName : Option (List UInt8))
    (platform : ClaimPlatform) :
    NamesFit (node.claim profile gatewayId nodeName platform).2 := by
  cases valid : deviceProfileIsValid profile with
  | false =>
      rw [claim_of_invalid valid]
      exact fits
  | true =>
      rw [claim_of_valid valid]
      have ready := fits.init platform.init
      dsimp only
      split
      · exact ready
      · have claimed :
            NamesFit
              { node.init platform.init with
                config :=
                  claimedConfig (node.init platform.init).config.nodeName
                    profile gatewayId nodeName platform.timeSec
                currentNodeProfile := profile } :=
          ⟨claimedName_length_lt ready.config nodeName, ready.stored⟩
        exact claimed.saveConfig platform.save

theorem NamesFit.claimHandler
    (fits : NamesFit node) (rawValue : RawValue)
    (selfId : UInt32) (remoteClaim : Bool) (body : Option (List UInt8))
    (platform : ClaimPlatform) :
    NamesFit
      (onboardingClaimHandler rawValue selfId remoteClaim body platform
        node).1 := by
  cases body with
  | none => exact fits
  | some body =>
      rw [onboardingClaimHandler]
      dsimp only
      split
      · exact fits
      · rw [claimWithProfile]
        split
        · exact fits.claim _ _ _ _
        · exact fits

/-- A claim of this node that is answered with success leaves the name that it
gives. -/
theorem onboardingClaimHandler_name
    {rawValue : RawValue} {selfId : UInt32} {remoteClaim : Bool}
    {body : List UInt8} {platform : ClaimPlatform}
    (own : ¬ (ClaimRequest.ofBody rawValue body).Remote selfId)
    (given : (ClaimRequest.ofBody rawValue body).nodeName ≠ [])
    (success :
      (onboardingClaimHandler rawValue selfId remoteClaim (some body)
        platform node).2 =
        .ok) :
    (onboardingClaimHandler rawValue selfId remoteClaim (some body) platform
        node).1.config.nodeName =
      (ClaimRequest.ofBody rawValue body).nodeName := by
  have short :
      (ClaimRequest.ofBody rawValue body).nodeName.length ≤ nodeNameMax - 1 :=
    httpBodyGetValue_length_le rawValue body "node_name" nodeNameMax
  have nonempty := List.length_pos_of_ne_nil given
  simp only [onboardingClaimHandler, if_neg own, claimWithProfile] at success ⊢
  split at success
  · next inRange =>
      rw [if_pos inRange]
      cases valid :
          deviceProfileIsValid
            (ClaimRequest.ofBody rawValue body).profile.toInt8.toUInt8 with
      | false =>
          rw [claim_of_invalid valid] at success
          cases success
      | true =>
          rw [claim_of_valid valid]
          dsimp only
          split
          · next inForce => exact (Option.some.inj inForce.2.2.2).symm
          · dsimp only [OnboardingNode.saveConfig, claimedConfig, claimedName]
            rw [if_neg nonempty.ne', List.take_of_length_le short]
  · cases success

/-! ## The status -/

theorem onboardingStatusText_length_lt
    {config : OnboardingConfig} (fits : config.nodeName.length < nodeNameMax) :
    (onboardingStatusText config).length < 384 := by
  have state :
      (CText.bytes (endapOnboardingStateName config.state)).length ≤ 10 := by
    rw [endapOnboardingStateName]
    repeat' split
    all_goals decide
  have profile : (Lines.decimal config.profile.toNat).length ≤ 3 :=
    Lines.decimal_length_le (by decide)
      (config.profile.toNat_lt.trans (by decide))
  have gateway : (Lines.decimal config.adoptedByGatewayId.toNat).length ≤ 10 :=
    Lines.decimal_length_le (by decide)
      (config.adoptedByGatewayId.toNat_lt.trans (by decide))
  have time : (Lines.decimal config.adoptedTimestamp.toNat).length ≤ 10 :=
    Lines.decimal_length_le (by decide)
      (config.adoptedTimestamp.toNat_lt.trans (by decide))
  rw [nodeNameMax] at fits
  simp only [onboardingStatusText, List.flatten_cons, List.flatten_nil,
    List.length_append, List.length_nil]
  simp only [CText.bytes_length, String.reduceToList, List.length_cons,
    List.length_nil, Nat.zero_add, Nat.reduceAdd] at state ⊢
  omega

theorem onboardingStatusHandler_sent
    (fits : NamesFit node)
    (platform : InitPlatform) :
    (onboardingStatusHandler platform node).2 =
      onboardingStatusText (node.init platform).config :=
  List.take_of_length_le
    (Nat.le_of_lt_succ
      (onboardingStatusText_length_lt (fits.init platform).config))

end Endap.Http
