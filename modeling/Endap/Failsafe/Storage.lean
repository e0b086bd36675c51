import Endap.Failsafe.Faults
import Endap.Library.Layout
import Endap.Library.Run

/-!
# Storage of the fail-safe policies

The policies are kept in non-volatile storage as one stamped record.  At boot
the table is filled with the factory policies, the stored ones are laid over
it, and the table is written back when nothing could be loaded.

A record of the first version is told from the present one by its size.  The
padding of the old policy makes the two sizes equal, so a record of the first
version is read as one of the present version, refused for its version number
and overwritten by the factory policies.
-/

namespace Endap.Failsafe

open Endap.Device
open Endap.Library
open Endap.State

/-! ## The records -/

def failsafeMagic : UInt32 := 0x46534146

def failsafeVersion : UInt16 := 2

def failsafeVersionV1 : UInt16 := 1

/-- `FAILSAFE_RECOVERY_AUTO`. -/
def recoveryAuto : UInt8 := 0

def failsafeCrc32 (data : List UInt8) : UInt32 :=
  data.foldl (fun crc byte => (crc ^^^ byte.toUInt32) * 16777619) 2166136261

/-- The layout of `failsafe_policy_storage_t`. -/
def failsafePolicyLayout : Layout FailsafePolicy :=
  (Layout.u16.andThen
    (Layout.u8.andThen
      (Layout.u8.andThen
        (Layout.u8.andThen
          (Layout.u8.andThen
            (Layout.u8.andThen (Layout.u8.andThen Layout.i32))))))).retype
    (fun (outputId, enabled, boot, commLoss, runtimeFault, recovery,
        reserved, safeValue) =>
      { outputId := outputId
        enabled := enabled
        bootAction := boot
        commLossAction := commLoss
        runtimeFaultAction := runtimeFault
        recoveryMode := recovery
        reserved := reserved
        safeValue := safeValue })
    (fun policy =>
      (policy.outputId, policy.enabled, policy.bootAction,
        policy.commLossAction, policy.runtimeFaultAction,
        policy.recoveryMode, policy.reserved, policy.safeValue))
    (fun _ => rfl)

/-- `failsafe_policy_storage_v1_t`. -/
structure FailsafePolicyV1 where
  outputId : UInt16
  startupMode : UInt8
  commLossMode : UInt8
  manualRearm : UInt8
  reserved : UInt8
  safeValue : Int32

/-- The layout of `failsafe_policy_storage_v1_t`; two bytes of padding align
the safe value. -/
def failsafePolicyV1Layout : Layout FailsafePolicyV1 :=
  (Layout.u16.andThen
    (Layout.u8.andThen
      (Layout.u8.andThen
        (Layout.u8.andThen
          (Layout.u8.andThen (Layout.padded 2 Layout.i32)))))).retype
    (fun (outputId, startup, commLoss, manualRearm, reserved, safeValue) =>
      { outputId := outputId
        startupMode := startup
        commLossMode := commLoss
        manualRearm := manualRearm
        reserved := reserved
        safeValue := safeValue })
    (fun policy =>
      (policy.outputId, policy.startupMode, policy.commLossMode,
        policy.manualRearm, policy.reserved, policy.safeValue))
    (fun _ => rfl)

/-- The fields of `failsafe_blob_t` and `failsafe_blob_v1_t` before the
checksum. -/
structure FailsafeBlob (Policy : Type) where
  magic : UInt32
  version : UInt16
  count : UInt16
  policies : Fin failsafeMaxOutputs → Policy

/-- The layout of a blob before the checksum. -/
def failsafeBlobLayout {Policy : Type} (policy : Layout Policy) :
    Layout (FailsafeBlob Policy) :=
  (Layout.u32.andThen
    (Layout.u16.andThen
      (Layout.u16.andThen (Layout.array failsafeMaxOutputs policy)))).retype
    (fun (magic, version, count, policies) =>
      { magic := magic
        version := version
        count := count
        policies := policies })
    (fun blob => (blob.magic, blob.version, blob.count, blob.policies))
    (fun _ => rfl)

/-- The policies that a blob lists. -/
def FailsafeBlob.listed {Policy : Type} (blob : FailsafeBlob Policy) :
    List Policy :=
  (List.ofFn blob.policies).take blob.count.toNat

/-- The checks that `failsafe_load` makes on a blob of the right size. -/
def BlobAccepted {Policy : Type} (policy : Layout Policy) (version : UInt16)
    (bytes : List UInt8) : Prop :=
  ((failsafeBlobLayout policy).read bytes).magic = failsafeMagic ∧
  ((failsafeBlobLayout policy).read bytes).version = version ∧
  ((failsafeBlobLayout policy).read bytes).count.toNat ≤ failsafeMaxOutputs ∧
  Layout.Intact failsafeCrc32 (failsafeBlobLayout policy) bytes

instance {Policy : Type} (policy : Layout Policy) (version : UInt16)
    (bytes : List UInt8) : Decidable (BlobAccepted policy version bytes) :=
  inferInstanceAs (Decidable (_ ∧ _))

theorem stampedSize_eq :
    (failsafeBlobLayout failsafePolicyLayout).stampedSize =
      (failsafeBlobLayout failsafePolicyV1Layout).stampedSize :=
  rfl

/-! ## Loading -/

def failsafeDefaultEntry (outputId : UInt16) : FailsafeEntry where
  policy :=
    { outputId := outputId
      enabled := 1
      bootAction := actionForceOff
      commLossAction := actionForceOff
      runtimeFaultAction := actionForceOff
      recoveryMode := recoveryAuto
      reserved := 0
      safeValue := 0 }
  active := 0
  lastReason := .none
  lastAppliedValue := 0

/-- The codes of a stored policy are in range. -/
def FailsafePolicy.Valid (policy : FailsafePolicy) : Prop :=
  FailsafeActionValid policy.bootAction ∧
  FailsafeActionValid policy.commLossAction ∧
  FailsafeActionValid policy.runtimeFaultAction ∧
  FailsafeRecoveryValid policy.recoveryMode

instance (policy : FailsafePolicy) : Decidable policy.Valid :=
  inferInstanceAs (Decidable (_ ∧ _))

/-- A stored policy as it is taken over: flags and values become 0 or 1. -/
def FailsafePolicy.normal (policy : FailsafePolicy) : FailsafePolicy :=
  { policy with
    enabled := if policy.enabled ≠ 0 then 1 else 0
    safeValue := failsafeBinaryValue policy.safeValue }

/-- An entry whose policy was just loaded. -/
def FailsafePolicy.loaded (policy : FailsafePolicy) : FailsafeEntry where
  policy := policy
  active := 0
  lastReason := .none
  lastAppliedValue := 0

def failsafeApplyLoadedPolicy
    (failsafe : FailsafeTable) (policy : FailsafePolicy) :
    Bool × FailsafeTable :=
  if deviceProfileIsValidOutput policy.outputId = false then
    (false, failsafe)
  else if ¬ policy.Valid then (false, failsafe)
  else
    match failsafeFind failsafe policy.outputId with
    | none => (false, failsafe)
    | some _ =>
        (true, failsafe.update policy.outputId fun _ => policy.normal.loaded)

def failsafeV1ModeToAction (mode : UInt8) : Option UInt8 :=
  if mode = 0 then some actionHoldLast
  else if mode = 1 then some actionForceOff
  else if mode = 2 then some actionForceOn
  else if mode = 3 then some actionSafeValue
  else none

/-- The policy that `failsafe_apply_loaded_policy_v1` makes of an old one;
`none` when a mode is unknown. -/
def FailsafePolicyV1.mapped (policy : FailsafePolicyV1) :
    Option FailsafePolicy :=
  match failsafeV1ModeToAction policy.startupMode,
      failsafeV1ModeToAction policy.commLossMode with
  | some boot, some commLoss =>
      some
        { outputId := policy.outputId
          enabled := 1
          bootAction := boot
          commLossAction := commLoss
          runtimeFaultAction := actionForceOff
          recoveryMode :=
            if policy.manualRearm ≠ 0 then recoveryManual else recoveryAuto
          reserved := 0
          safeValue := failsafeBinaryValue policy.safeValue }
  | _, _ => none

def failsafeApplyLoadedPolicyV1
    (failsafe : FailsafeTable) (policy : FailsafePolicyV1) :
    Bool × FailsafeTable :=
  match policy.mapped with
  | none => (false, failsafe)
  | some next => failsafeApplyLoadedPolicy failsafe next

/-- The loop of `failsafe_load` over the listed policies. -/
def applyLoaded {Policy : Type}
    (apply : FailsafeTable → Policy → Bool × FailsafeTable)
    (policies : List Policy) (failsafe : FailsafeTable) :
    Bool × FailsafeTable :=
  policies.foldl
    (fun done policy =>
      let applied := apply done.2 policy
      (applied.1 || done.1, applied.2))
    (false, failsafe)

/-- A branch of `failsafe_load`, for a record of one version. -/
def loadBlob {Policy : Type} (policy : Layout Policy) (version : UInt16)
    (apply : FailsafeTable → Policy → Bool × FailsafeTable)
    (failsafe : FailsafeTable) (bytes : List UInt8) :
    Bool × FailsafeTable :=
  if BlobAccepted policy version bytes then
    applyLoaded apply ((failsafeBlobLayout policy).read bytes).listed failsafe
  else (false, failsafe)

/-- `failsafe_load`; the record is absent when the namespace or the key is. -/
def failsafeLoad (failsafe : FailsafeTable) (nvs : Option (List UInt8)) :
    Bool × FailsafeTable :=
  match nvs with
  | none => (false, failsafe)
  | some bytes =>
      if bytes.length =
          (failsafeBlobLayout failsafePolicyLayout).stampedSize then
        loadBlob failsafePolicyLayout failsafeVersion
          failsafeApplyLoadedPolicy failsafe bytes
      else if bytes.length =
          (failsafeBlobLayout failsafePolicyV1Layout).stampedSize then
        loadBlob failsafePolicyV1Layout failsafeVersionV1
          failsafeApplyLoadedPolicyV1 failsafe bytes
      else (false, failsafe)

/-! ## Saving -/

/-- A policy of zero bytes. -/
def FailsafePolicy.zero : FailsafePolicy where
  outputId := 0
  enabled := 0
  bootAction := 0
  commLossAction := 0
  runtimeFaultAction := 0
  recoveryMode := 0
  reserved := 0
  safeValue := 0

/-- The blob that `failsafe_save` fills. -/
def failsafeBlobOf (failsafe : FailsafeTable) : FailsafeBlob FailsafePolicy where
  magic := failsafeMagic
  version := failsafeVersion
  count := UInt16.ofNat failsafe.entries.entries.length
  policies := fun index =>
    (failsafe.entries.entries[index.val]?.map FailsafeEntry.policy).getD
      FailsafePolicy.zero

/-- The bytes that `failsafe_save` writes. -/
def failsafeSave (failsafe : FailsafeTable) : List UInt8 :=
  Layout.stamp failsafeCrc32 (failsafeBlobLayout failsafePolicyLayout)
    (failsafeBlobOf failsafe)

/-! ## Boot -/

/-- The values of `esp_reset_reason` that the boot reason depends on. -/
inductive ResetReason where
  | taskWatchdog
  | interruptWatchdog
  | watchdog
  | panic
  | other

def failsafeDetectBootReason : ResetReason → FailsafeReason
  | .taskWatchdog => .watchdog
  | .interruptWatchdog => .watchdog
  | .watchdog => .watchdog
  | .panic => .runtimeFault
  | .other => .boot

/-- The factory policies that `failsafe_init` starts from. -/
def failsafeDefaults (reset : ResetReason) : FailsafeTable where
  entries :=
    { entries :=
        ((outputProfile.filter fun outputId => outputId ≠ 0).take
          failsafeMaxOutputs).map failsafeDefaultEntry
      fits := by
        rw [List.length_map]
        exact List.length_take_le _ _ }
  bootReason := failsafeDetectBootReason reset

/-- The table and the record in storage. -/
structure FailsafeWorld where
  failsafe : FailsafeTable
  nvs : Option (List UInt8)

/-- `failsafe_init`; the outcome is that of writing the record back. -/
def failsafeInit (reset : ResetReason) (nvs : Option (List UInt8))
    (outcome : NvsOutcome) : FailsafeWorld :=
  let loaded := failsafeLoad (failsafeDefaults reset) nvs
  if loaded.1 then { failsafe := loaded.2, nvs := nvs }
  else
    { failsafe := loaded.2
      nvs := nvsWrite outcome nvs (some (failsafeSave loaded.2)) }

theorem failsafeDefaults_entries (reset : ResetReason) :
    (failsafeDefaults reset).entries.entries =
      outputProfile.map failsafeDefaultEntry := by
  have all :
      (outputProfile.filter fun outputId => outputId ≠ 0).take
          failsafeMaxOutputs =
        outputProfile := by
    decide
  exact congrArg (List.map failsafeDefaultEntry) all

theorem failsafeDefaults_keys (reset : ResetReason) :
    (failsafeDefaults reset).entries.keys FailsafeEntry.outputId =
      outputProfile := by
  rw [KeyedTable.keys, failsafeDefaults_entries, List.map_map]
  exact List.map_id _

theorem failsafeFind_defaults
    (reset : ResetReason) {outputId : UInt16}
    (member : outputId ∈ outputProfile) :
    failsafeFind (failsafeDefaults reset) outputId =
      some (failsafeDefaultEntry outputId) := by
  have different :
      ((failsafeDefaults reset).entries.keys
        FailsafeEntry.outputId).Nodup := by
    rw [failsafeDefaults_keys]
    exact outputProfile_nodup
  have present :
      failsafeDefaultEntry outputId ∈
        (failsafeDefaults reset).entries.entries := by
    rw [failsafeDefaults_entries]
    exact List.mem_map_of_mem member
  exact KeyedTable.find?_of_mem different present

/-! ## Records of the first version -/

/-- The policies that a record of the first version lists. -/
def listedV1 (bytes : List UInt8) : List FailsafePolicyV1 :=
  ((failsafeBlobLayout failsafePolicyV1Layout).read bytes).listed

/-- A record that the first version wrote. -/
structure WellFormedV1 (bytes : List UInt8) : Prop where
  size : bytes.length = (failsafeBlobLayout failsafePolicyV1Layout).stampedSize
  accepted : BlobAccepted failsafePolicyV1Layout failsafeVersionV1 bytes
  modes :
    ∀ policy ∈ listedV1 bytes, policy.startupMode ≤ 3 ∧ policy.commLossMode ≤ 3
  outputs : ∀ policy ∈ listedV1 bytes, policy.outputId ∈ outputProfile
  once : ((listedV1 bytes).map FailsafePolicyV1.outputId).Nodup

/-- Every listed output has the policy that its old one maps to. -/
def Migrated (bytes : List UInt8) (failsafe : FailsafeTable) : Prop :=
  ∀ policy ∈ listedV1 bytes,
    ∃ entry,
      failsafeFind failsafe policy.outputId = some entry ∧
      policy.mapped = some entry.policy

/-- An old policy that maps to the factory policy. -/
def FailsafePolicyV1.IsFactory (policy : FailsafePolicyV1) : Prop :=
  policy.startupMode = 1 ∧ policy.commLossMode = 1 ∧
  policy.manualRearm = 0 ∧ policy.safeValue = 0

theorem failsafeLoad_v1
    {bytes : List UInt8} (wellFormed : WellFormedV1 bytes)
    (failsafe : FailsafeTable) :
    failsafeLoad failsafe (some bytes) = (false, failsafe) := by
  have size := wellFormed.size
  rw [← stampedSize_eq] at size
  have refused : ¬ BlobAccepted failsafePolicyLayout failsafeVersion bytes := by
    rintro ⟨-, isVersion, -, -⟩
    have isVersionV1 := wellFormed.accepted.2.1
    have differ : failsafeVersion ≠ failsafeVersionV1 := by decide
    exact differ (isVersion.symm.trans isVersionV1)
  simp only [failsafeLoad, size, if_true, loadBlob, if_neg refused]

/-- After a boot from a record of the first version the table holds the
factory policies. -/
theorem failsafeInit_v1
    {bytes : List UInt8} (wellFormed : WellFormedV1 bytes)
    (reset : ResetReason) (outcome : NvsOutcome) :
    failsafeInit reset (some bytes) outcome =
      { failsafe := failsafeDefaults reset
        nvs :=
          nvsWrite outcome (some bytes)
            (some (failsafeSave (failsafeDefaults reset))) } := by
  rw [failsafeInit, failsafeLoad_v1 wellFormed]
  rfl

theorem failsafeV1ModeToAction_forceOff (mode : UInt8) :
    failsafeV1ModeToAction mode = some actionForceOff ↔ mode = 1 := by
  rw [failsafeV1ModeToAction]
  constructor
  · intro isOff
    split at isOff
    · exact absurd isOff (by decide)
    · split at isOff
      · assumption
      · split at isOff
        · exact absurd isOff (by decide)
        · split at isOff
          · exact absurd isOff (by decide)
          · cases isOff
  · rintro rfl
    rfl

theorem failsafeBinaryValue_eq_zero (value : Int32) :
    failsafeBinaryValue value = 0 ↔ value = 0 := by
  rw [failsafeBinaryValue]
  split
  · next nonzero => simp [nonzero]
  · next zero => simpa using zero

/-- An old policy maps to the factory policy of its output exactly when it is
the factory policy. -/
theorem mapped_eq_factory (policy : FailsafePolicyV1) :
    policy.mapped = some (failsafeDefaultEntry policy.outputId).policy ↔
    policy.IsFactory := by
  rw [FailsafePolicyV1.IsFactory, ← failsafeV1ModeToAction_forceOff,
    ← failsafeV1ModeToAction_forceOff, ← failsafeBinaryValue_eq_zero]
  rw [FailsafePolicyV1.mapped]
  cases failsafeV1ModeToAction policy.startupMode with
  | none => simp
  | some boot =>
      cases failsafeV1ModeToAction policy.commLossMode with
      | none => simp
      | some commLoss =>
          by_cases manual : policy.manualRearm = 0
          · simp [failsafeDefaultEntry, manual]
          · simp [failsafeDefaultEntry, manual, recoveryManual, recoveryAuto]

/--
A record of the first version is migrated exactly when every policy it lists
is the factory policy: the boot replaces them all by factory policies.
-/
theorem failsafeInit_migrates_iff
    (bytes : List UInt8) (wellFormed : WellFormedV1 bytes)
    (reset : ResetReason) (outcome : NvsOutcome) :
    Migrated bytes (failsafeInit reset (some bytes) outcome).failsafe ↔
    ∀ policy ∈ listedV1 bytes, policy.IsFactory := by
  rw [failsafeInit_v1 wellFormed, Migrated]
  constructor
  · intro migrated policy member
    rcases migrated policy member with ⟨entry, found, isMapped⟩
    rw [failsafeFind_defaults reset (wellFormed.outputs policy member)] at found
    rw [← Option.some.inj found] at isMapped
    exact (mapped_eq_factory policy).mp isMapped
  · intro factory policy member
    exact ⟨_,
      failsafeFind_defaults reset (wellFormed.outputs policy member),
      (mapped_eq_factory policy).mpr (factory policy member)⟩

def recordV1 (policy : FailsafePolicyV1) : List UInt8 :=
  Layout.stamp failsafeCrc32 (failsafeBlobLayout failsafePolicyV1Layout)
    { magic := failsafeMagic
      version := failsafeVersionV1
      count := 1
      policies := fun _ => policy }

theorem listedV1_recordV1 (policy : FailsafePolicyV1) :
    listedV1 (recordV1 policy) = [policy] := by
  rw [listedV1, recordV1, Layout.read_stamp]
  rfl

theorem recordV1_wellFormed
    {policy : FailsafePolicyV1} (isOutput : policy.outputId ∈ outputProfile)
    (startup : policy.startupMode ≤ 3) (commLoss : policy.commLossMode ≤ 3) :
    WellFormedV1 (recordV1 policy) where
  size := Layout.stamp_length _ _ _
  accepted := by
    refine ⟨?_, ?_, ?_, Layout.intact_stamp _ _ _⟩
    · rw [recordV1, Layout.read_stamp]
    · rw [recordV1, Layout.read_stamp]
    · rw [recordV1, Layout.read_stamp]
      exact Nat.one_le_of_lt (Nat.zero_lt_succ _)
  modes := by
    rw [listedV1_recordV1]
    intro listed member
    rw [List.mem_singleton.mp member]
    exact ⟨startup, commLoss⟩
  outputs := by
    rw [listedV1_recordV1]
    intro listed member
    rw [List.mem_singleton.mp member]
    exact isOutput
  once := by
    rw [listedV1_recordV1]
    exact List.nodup_singleton _

/-- A record with the factory policy survives. -/
theorem recordV1_factory_migrates :
    Migrated
      (recordV1
        { outputId := 100, startupMode := 1, commLossMode := 1,
          manualRearm := 0, reserved := 0, safeValue := 0 })
      (failsafeInit .other
        (some
          (recordV1
            { outputId := 100, startupMode := 1, commLossMode := 1,
              manualRearm := 0, reserved := 0, safeValue := 0 }))
        .committed).failsafe := by
  refine
    (failsafeInit_migrates_iff _
      (recordV1_wellFormed (by decide) (by decide) (by decide))
      .other .committed).mpr ?_
  rw [listedV1_recordV1]
  intro policy member
  rw [List.mem_singleton.mp member]
  exact ⟨rfl, rfl, rfl, rfl⟩

/-- A record that switches output 100 on at boot and rearms manually is
replaced by the factory policies, in the table and in storage. -/
theorem recordV1_replaced :
    WellFormedV1
        (recordV1
          { outputId := 100, startupMode := 2, commLossMode := 1,
            manualRearm := 1, reserved := 0, safeValue := 1 }) ∧
      ¬ Migrated
        (recordV1
          { outputId := 100, startupMode := 2, commLossMode := 1,
            manualRearm := 1, reserved := 0, safeValue := 1 })
        (failsafeInit .other
          (some
            (recordV1
              { outputId := 100, startupMode := 2, commLossMode := 1,
                manualRearm := 1, reserved := 0, safeValue := 1 }))
          .committed).failsafe ∧
      (failsafeInit .other
          (some
            (recordV1
              { outputId := 100, startupMode := 2, commLossMode := 1,
                manualRearm := 1, reserved := 0, safeValue := 1 }))
          .committed).nvs =
        some (failsafeSave (failsafeDefaults .other)) := by
  have wellFormed :
      WellFormedV1
        (recordV1
          { outputId := 100, startupMode := 2, commLossMode := 1,
            manualRearm := 1, reserved := 0, safeValue := 1 }) :=
    recordV1_wellFormed (by decide) (by decide) (by decide)
  refine ⟨wellFormed, ?_, ?_⟩
  · rw [failsafeInit_v1 wellFormed, Migrated, listedV1_recordV1]
    intro migrated
    rcases migrated _ (List.mem_singleton_self _) with
      ⟨entry, found, isMapped⟩
    rw [failsafeFind_defaults .other (by decide)] at found
    rw [← Option.some.inj found] at isMapped
    exact absurd ((mapped_eq_factory _).mp isMapped).1 (by decide)
  · rw [failsafeInit_v1 wellFormed]
    rfl

end Endap.Failsafe
