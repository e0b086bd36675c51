import Endap.State.Nvs
import Mathlib.Data.UInt

/-!
# The claim of a node

A gateway adopts a node by a claim: the node applies the template of the
profile it is given, becomes active under that gateway and stores its new
configuration.  A claim that repeats the one in force changes nothing.
-/

namespace Endap.Onboarding

open Endap.State

/-- An `esp_err_t` that is not `ESP_OK`.  Every code of the framework is
`ESP_FAIL` or fits in sixteen bits. -/
structure EspError where
  code : Int
  failure : code ≠ 0
  range : -1 ≤ code ∧ code < 65536

def espOk : Int := 0

def espErrInvalidArg : Int := 0x102

/-- `ENDAP_NODE_NAME_MAX`. -/
def nodeNameMax : Nat := 32

/-- `ENDAP_ONBOARDING_CONFIG_VERSION`. -/
def onboardingConfigVersion : UInt8 := 1

/-- `ENDAP_ONBOARDING_STATE_PENDING`. -/
def statePending : UInt8 := 0

/-- `ENDAP_ONBOARDING_STATE_ACTIVE`. -/
def stateActive : UInt8 := 3

def nodeProfileGateway : UInt8 := 0

def nodeProfileField : UInt8 := 1

def nodeProfileMax : UInt8 := 5

/-- `endap_onboarding_config_t`; the name is the text in its buffer. -/
structure OnboardingConfig where
  version : UInt8
  state : UInt8
  profile : UInt8
  adoptedByGatewayId : UInt32
  adoptedTimestamp : UInt32
  nodeName : List UInt8

/-- The onboarding of one node, its profile and its storage. -/
structure OnboardingNode where
  config : OnboardingConfig
  initialized : Bool
  nvs : Option OnboardingConfig
  currentNodeProfile : UInt8

/-- What the platform answers while the onboarding is initialised. -/
structure InitPlatform where
  loads : Bool
  save : NvsOutcome

/-- What the platform answers during a claim. -/
structure ClaimPlatform where
  init : InitPlatform
  timeSec : UInt32
  save : NvsOutcome
  saveError : EspError

def deviceProfileIsValid (profile : UInt8) : Bool := profile < nodeProfileMax

/-- The profile of `device_profile_get_current`. -/
def OnboardingNode.currentProfile (node : OnboardingNode) : UInt8 :=
  if deviceProfileIsValid node.currentNodeProfile then
    node.currentNodeProfile
  else
    nodeProfileField

/-- `load_config_from_nvs`. -/
def OnboardingNode.loadConfig
    (node : OnboardingNode) (loads : Bool) : Option OnboardingConfig :=
  if loads then
    node.nvs.filter fun config => config.version = onboardingConfigVersion
  else
    none

/-- `save_config_to_nvs`. -/
def OnboardingNode.saveConfig
    (node : OnboardingNode) (outcome : NvsOutcome) : OnboardingNode :=
  { node with nvs := nvsWrite outcome node.nvs (some node.config) }

/-- The name of a gateway that was never claimed. -/
def gatewayName : List UInt8 := "ENDAP-Gateway".toUTF8.toList

/-- `endap_onboarding_init`. -/
def OnboardingNode.init
    (node : OnboardingNode) (platform : InitPlatform) : OnboardingNode :=
  if node.initialized then
    node
  else
    match node.loadConfig platform.loads with
    | some loaded => { node with config := loaded, initialized := true }
    | none =>
        if node.currentProfile = nodeProfileGateway then
          let gateway :=
            { node with
              config :=
                { node.config with
                  state := stateActive
                  profile := nodeProfileGateway
                  nodeName := gatewayName } }
          { gateway.saveConfig platform.save with initialized := true }
        else
          { node with
            config :=
              { node.config with
                state := statePending
                profile := node.currentProfile }
            initialized := true }

/-- `device_profile_apply_template`; every template has a network part, and
the results of the two setters are ignored. -/
def OnboardingNode.applyTemplate
    (node : OnboardingNode) (profile : UInt8) : Int × OnboardingNode :=
  if deviceProfileIsValid profile then
    (espOk, { node with currentNodeProfile := profile })
  else
    (espErrInvalidArg, node)

/-- The name after a claim: an empty one or none at all leaves it. -/
def claimedName
    (old : List UInt8) : Option (List UInt8) → List UInt8
  | none => old
  | some name =>
      if name.length = 0 then old else name.take (nodeNameMax - 1)

/-- `endap_onboarding_claim`. -/
def OnboardingNode.claim
    (node : OnboardingNode) (profile : UInt8) (gatewayId : UInt32)
    (nodeName : Option (List UInt8)) (platform : ClaimPlatform) :
    Int × OnboardingNode :=
  if !deviceProfileIsValid profile then
    (espErrInvalidArg, node)
  else
    let ready := node.init platform.init
    if ready.config.state = stateActive ∧ ready.config.profile = profile ∧
        ready.config.adoptedByGatewayId = gatewayId ∧
        nodeName = some ready.config.nodeName then
      (espOk, ready)
    else
      match ready.applyTemplate profile with
      | (err, applied) =>
          if err ≠ espOk then
            (err, applied)
          else
            let claimed :=
              { applied with
                config :=
                  { version := onboardingConfigVersion
                    state := stateActive
                    profile := profile
                    adoptedByGatewayId := gatewayId
                    adoptedTimestamp := platform.timeSec
                    nodeName := claimedName applied.config.nodeName nodeName } }
            if platform.save.succeeds then
              (espOk, claimed.saveConfig platform.save)
            else
              (platform.saveError.code, claimed.saveConfig platform.save)

/-! ## The status of a claim -/

/-- The cast of an `esp_err_t` to the status of a message. -/
def statusOf (err : Int) : UInt16 := UInt16.ofNat (err % 65536).toNat

/-- A code of the framework is cut to zero only if it is `ESP_OK`. -/
theorem statusOf_eq_zero
    {err : Int} (range : -1 ≤ err ∧ err < 65536)
    (isZero : statusOf err = 0) : err = espOk := by
  have cut : (err % 65536).toNat % 65536 = 0 := congrArg UInt16.toNat isZero
  show err = 0
  omega

theorem claim_range
    (node : OnboardingNode) (profile : UInt8) (gatewayId : UInt32)
    (nodeName : Option (List UInt8)) (platform : ClaimPlatform) :
    -1 ≤ (node.claim profile gatewayId nodeName platform).1 ∧
    (node.claim profile gatewayId nodeName platform).1 < 65536 := by
  have invalid : -1 ≤ espErrInvalidArg ∧ espErrInvalidArg < 65536 := by
    decide
  have ok : -1 ≤ espOk ∧ espOk < 65536 := by
    decide
  rw [OnboardingNode.claim]
  split
  · exact invalid
  · dsimp only
    split
    · exact ok
    · rw [OnboardingNode.applyTemplate]
      split
      · rw [if_neg (fun different => different rfl)]
        split
        · exact ok
        · exact platform.saveError.range
      · exact invalid

end Endap.Onboarding
