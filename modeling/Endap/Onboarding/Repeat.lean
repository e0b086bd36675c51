import Endap.Onboarding.Claim

/-!
# Repeated and failed claims

A claim that is repeated with the same arguments is meant to be recognised and
to leave the node alone.  The node compares the name it is given with the name
it keeps, and these differ when no name was given, when the name was empty, or
when it was longer than the buffer.

A claim that cannot be stored is answered with an error.  By then the node has
taken the profile and is active under the new gateway.
-/

namespace Endap.Onboarding

open Endap.State

/-! ## The steps of a claim -/

theorem minusOne_failure : (-1 : Int) ≠ 0 := by
  decide

theorem minusOne_range : -1 ≤ (-1 : Int) ∧ (-1 : Int) < 65536 := by
  decide

def espFail : EspError where
  code := -1
  failure := minusOne_failure
  range := minusOne_range

/-- What a claim does besides its answer and its change of the memory. -/
inductive ClaimEffect where
  | initialSave
  | applyTemplate (profile : UInt8)
  | saveConfig

/-- The claim is in force already. -/
def InForce (config : OnboardingConfig) (profile : UInt8)
    (gatewayId : UInt32) (nodeName : Option (List UInt8)) : Prop :=
  config.state = stateActive ∧ config.profile = profile ∧
  config.adoptedByGatewayId = gatewayId ∧ nodeName = some config.nodeName

instance (config : OnboardingConfig) (profile : UInt8)
    (gatewayId : UInt32) (nodeName : Option (List UInt8)) :
    Decidable (InForce config profile gatewayId nodeName) :=
  inferInstanceAs (Decidable (_ ∧ _))

/-- The configuration that a claim makes. -/
def claimedConfig (old : List UInt8) (profile : UInt8) (gatewayId : UInt32)
    (nodeName : Option (List UInt8)) (timeSec : UInt32) :
    OnboardingConfig where
  version := onboardingConfigVersion
  state := stateActive
  profile := profile
  adoptedByGatewayId := gatewayId
  adoptedTimestamp := timeSec
  nodeName := claimedName old nodeName

/-- The effects of `endap_onboarding_init`. -/
def OnboardingNode.initEffects
    (node : OnboardingNode) (platform : InitPlatform) : List ClaimEffect :=
  if node.initialized then []
  else
    match node.loadConfig platform.loads with
    | some _ => []
    | none =>
        if node.currentProfile = nodeProfileGateway then [.initialSave]
        else []

/-- The effects of `endap_onboarding_claim`. -/
def OnboardingNode.claimEffects
    (node : OnboardingNode) (profile : UInt8) (gatewayId : UInt32)
    (nodeName : Option (List UInt8)) (platform : ClaimPlatform) :
    List ClaimEffect :=
  if !deviceProfileIsValid profile then []
  else
    let ready := node.init platform.init
    node.initEffects platform.init ++
      if InForce ready.config profile gatewayId nodeName then []
      else if (ready.applyTemplate profile).1 ≠ espOk then
        [.applyTemplate profile]
      else [.applyTemplate profile, .saveConfig]

variable {profile : UInt8}

theorem claim_of_valid
    (valid : deviceProfileIsValid profile = true)
    (node : OnboardingNode) (gatewayId : UInt32)
    (nodeName : Option (List UInt8)) (platform : ClaimPlatform) :
    node.claim profile gatewayId nodeName platform =
      let ready := node.init platform.init
      if InForce ready.config profile gatewayId nodeName then
        (espOk, ready)
      else
        (if platform.save.succeeds then espOk else platform.saveError.code,
          { ready with
              config :=
                claimedConfig ready.config.nodeName profile gatewayId
                  nodeName platform.timeSec
              currentNodeProfile := profile }.saveConfig platform.save) := by
  simp only [OnboardingNode.claim, OnboardingNode.applyTemplate, valid,
    Bool.not_true, Bool.false_eq_true, if_false, if_true, ne_eq,
    not_true]
  split
  · next inForce => exact (if_pos inForce).symm
  · next other =>
      refine Eq.trans ?_ (if_neg other).symm
      split
      · rfl
      · rfl

theorem claim_of_invalid
    (invalid : deviceProfileIsValid profile = false)
    (node : OnboardingNode) (gatewayId : UInt32)
    (nodeName : Option (List UInt8)) (platform : ClaimPlatform) :
    node.claim profile gatewayId nodeName platform =
      (espErrInvalidArg, node) := by
  rw [OnboardingNode.claim, invalid]
  rfl

variable {node : OnboardingNode}

theorem init_of_initialized
    (initialized : node.initialized = true)
    (platform : InitPlatform) : node.init platform = node :=
  if_pos initialized

theorem init_initialized (node : OnboardingNode) (platform : InitPlatform) :
    (node.init platform).initialized = true := by
  rw [OnboardingNode.init]
  split
  · assumption
  · split
    · rfl
    · split
      · rfl
      · rfl

theorem claimEffects_of_ready
    (valid : deviceProfileIsValid profile = true)
    (initialized : node.initialized = true)
    (gatewayId : UInt32) (nodeName : Option (List UInt8))
    (platform : ClaimPlatform) :
    node.claimEffects profile gatewayId nodeName platform =
      if InForce node.config profile gatewayId nodeName then []
      else [.applyTemplate profile, .saveConfig] := by
  simp only [OnboardingNode.claimEffects, OnboardingNode.initEffects,
    OnboardingNode.applyTemplate, init_of_initialized initialized,
    initialized, valid, Bool.not_true, Bool.false_eq_true, if_false,
    if_true, ne_eq, not_true, List.nil_append]

/-! ## Repeated claims -/

/-- The name that a claim keeps is the one that it was given. -/
def NameKept (old : List UInt8) : Option (List UInt8) → Prop
  | none => False
  | some name =>
      if name.length = 0 then old = [] else name.length < nodeNameMax

theorem claimedName_eq_iff
    (old : List UInt8) (nodeName : Option (List UInt8)) :
    nodeName = some (claimedName old nodeName) ↔ NameKept old nodeName := by
  cases nodeName with
  | none => exact iff_of_false (fun same => by cases same) id
  | some name =>
      rw [Option.some.injEq, claimedName, NameKept]
      split
      · next isEmpty =>
          rw [List.length_eq_zero_iff.mp isEmpty]
          exact eq_comm
      · rw [eq_comm, List.take_eq_self_iff]
        exact Nat.le_sub_one_iff_lt (by decide)

/-- After a claim that was answered with success, the same claim is answered
with success, does nothing and leaves the configuration, at any later time. -/
def Repeats (node : OnboardingNode) (profile : UInt8) (gatewayId : UInt32)
    (nodeName : Option (List UInt8)) (platform : ClaimPlatform) : Prop :=
  let first := node.claim profile gatewayId nodeName platform
  first.1 = espOk →
  ∀ later : ClaimPlatform,
    let second := first.2.claim profile gatewayId nodeName later
    second.1 = espOk ∧
    first.2.claimEffects profile gatewayId nodeName later = [] ∧
    second.2.config = first.2.config

/-- A node that is ready takes a claim for a repeated one exactly when it is
in force. -/
theorem idle_iff
    (valid : deviceProfileIsValid profile = true)
    (initialized : node.initialized = true)
    (gatewayId : UInt32) (nodeName : Option (List UInt8)) :
    (∀ later : ClaimPlatform,
        (node.claim profile gatewayId nodeName later).1 = espOk ∧
        node.claimEffects profile gatewayId nodeName later = [] ∧
        (node.claim profile gatewayId nodeName later).2.config = node.config) ↔
      InForce node.config profile gatewayId nodeName := by
  constructor
  · intro idle
    have effects :=
      (idle
        { init := ⟨true, .committed⟩
          timeSec := 0
          save := .committed
          saveError := espFail }).2.1
    rw [claimEffects_of_ready valid initialized] at effects
    by_contra other
    rw [if_neg other] at effects
    cases effects
  · intro inForce later
    have claimed :
        node.claim profile gatewayId nodeName later = (espOk, node) := by
      rw [claim_of_valid valid, init_of_initialized initialized]
      exact if_pos inForce
    rw [claimed, claimEffects_of_ready valid initialized]
    exact ⟨rfl, if_pos inForce, rfl⟩

theorem invalidArg_ne_ok : espErrInvalidArg ≠ espOk := by
  decide

/--
A claim can be repeated exactly when its profile is invalid, it is in force,
it cannot be stored, or the name it gives is the one that is kept: a name that
is not empty and fits into the buffer, or an empty one where no name is kept.
-/
theorem claim_repeats_iff
    (node : OnboardingNode) (profile : UInt8) (gatewayId : UInt32)
    (nodeName : Option (List UInt8)) (platform : ClaimPlatform) :
    Repeats node profile gatewayId nodeName platform ↔
    deviceProfileIsValid profile = false ∨
    InForce (node.init platform.init).config profile gatewayId nodeName ∨
    platform.save.succeeds = false ∨
    NameKept (node.init platform.init).config.nodeName nodeName := by
  cases valid : deviceProfileIsValid profile with
  | false =>
      refine iff_of_true ?_ (Or.inl rfl)
      rw [Repeats, claim_of_invalid valid]
      exact fun answered => absurd answered invalidArg_ne_ok
  | true =>
      have ready := init_initialized node platform.init
      have claimed := claim_of_valid valid node gatewayId nodeName platform
      simp only [Bool.true_eq_false, false_or]
      by_cases inForce :
          InForce (node.init platform.init).config profile gatewayId nodeName
      · refine iff_of_true ?_ (Or.inl inForce)
        rw [Repeats, claimed]
        simp only [if_pos inForce]
        exact fun _ => (idle_iff valid ready gatewayId nodeName).mpr inForce
      · simp only [inForce, false_or]
        rw [Repeats, claimed]
        simp only [if_neg inForce]
        cases stored : platform.save.succeeds with
        | false =>
            simp only [Bool.false_eq_true, if_false, true_or, iff_true]
            exact fun answered =>
              absurd answered platform.saveError.failure
        | true =>
            simp only [if_true, true_implies, Bool.true_eq_false, false_or]
            rw [← claimedName_eq_iff]
            refine Iff.trans (idle_iff valid ?_ gatewayId nodeName) ?_
            · exact ready
            · constructor
              · exact fun inForce => inForce.2.2.2
              · exact fun kept => ⟨rfl, rfl, rfl, kept⟩

def newNode : OnboardingNode where
  config :=
    { version := onboardingConfigVersion
      state := statePending
      profile := nodeProfileField
      adoptedByGatewayId := 0
      adoptedTimestamp := 0
      nodeName := [78] }
  initialized := true
  nvs := none
  currentNodeProfile := nodeProfileField

def platformAt (timeSec : UInt32) (save : NvsOutcome) : ClaimPlatform where
  init := ⟨true, .committed⟩
  timeSec := timeSec
  save := save
  saveError := espFail

/-- A claim with an empty name is done again when it is repeated. -/
theorem unnamed_claim_redone :
    ¬ ∀ node profile gatewayId nodeName platform,
      Repeats node profile gatewayId nodeName platform := by
  intro repeats
  have second :=
    repeats newNode nodeProfileField 7 (some []) (platformAt 10 .committed)
      (by decide) (platformAt 20 .committed)
  have effects := second.2.1
  revert effects
  decide

/-! ## Failed claims -/

/-- A claim that is answered with an error leaves the configuration and the
profile of the node. -/
def FailsCleanly (node : OnboardingNode) (profile : UInt8)
    (gatewayId : UInt32) (nodeName : Option (List UInt8))
    (platform : ClaimPlatform) : Prop :=
  let claimed := node.claim profile gatewayId nodeName platform
  claimed.1 ≠ espOk →
  claimed.2.config = node.config ∧
  claimed.2.currentNodeProfile = node.currentNodeProfile

/--
A claim fails without a trace exactly when its profile is invalid, it is in
force, it can be stored, or the node had the profile and the configuration
that the claim makes, with the time of the claim, before.
-/
theorem claim_failsCleanly_iff
    (node : OnboardingNode) (profile : UInt8) (gatewayId : UInt32)
    (nodeName : Option (List UInt8)) (platform : ClaimPlatform) :
    FailsCleanly node profile gatewayId nodeName platform ↔
    deviceProfileIsValid profile = false ∨
    InForce (node.init platform.init).config profile gatewayId nodeName ∨
    platform.save.succeeds = true ∨
    node.config =
        claimedConfig (node.init platform.init).config.nodeName profile
          gatewayId nodeName platform.timeSec ∧
    node.currentNodeProfile = profile := by
  cases valid : deviceProfileIsValid profile with
  | false =>
      refine iff_of_true ?_ (Or.inl rfl)
      rw [FailsCleanly, claim_of_invalid valid]
      exact fun _ => ⟨rfl, rfl⟩
  | true =>
      have claimed := claim_of_valid valid node gatewayId nodeName platform
      simp only [Bool.true_eq_false, false_or]
      by_cases inForce :
          InForce (node.init platform.init).config profile gatewayId nodeName
      · refine iff_of_true ?_ (Or.inl inForce)
        rw [FailsCleanly, claimed]
        simp only [if_pos inForce]
        exact fun failed => absurd rfl failed
      · simp only [inForce, false_or]
        rw [FailsCleanly, claimed]
        simp only [if_neg inForce]
        cases stored : platform.save.succeeds with
        | true =>
            simp only [if_true, true_or, iff_true]
            exact fun failed => absurd rfl failed
        | false =>
            simp only [Bool.false_eq_true, if_false, false_or]
            constructor
            · intro clean
              rcases clean platform.saveError.failure with
                ⟨sameConfig, sameProfile⟩
              exact ⟨sameConfig.symm, sameProfile.symm⟩
            · rintro ⟨sameConfig, sameProfile⟩ _
              exact ⟨sameConfig.symm, sameProfile.symm⟩

/-- A claim that cannot be stored makes a pending node active under the
gateway that gets the error. -/
theorem failed_claim_adopts :
    ¬ ∀ node profile gatewayId nodeName platform,
      FailsCleanly node profile gatewayId nodeName platform := by
  intro clean
  have failed :=
    clean newNode nodeProfileField 7 (some [66]) (platformAt 10 .openFailed)
      (by decide)
  have sameState := congrArg OnboardingConfig.state failed.1
  revert sameState
  decide

end Endap.Onboarding
