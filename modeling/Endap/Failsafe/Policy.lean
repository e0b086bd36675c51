import Endap.Library.KeyedTable
import Endap.State.Nvs
import Endap.State.Store

/-!
# Fail-safe policies

Each output of the device has a policy and a latch.  A fault drives the
output to the value its policy chooses for the reason and, when the policy
recovers manually, sets the latch; while the latch is set, commands for the
output are refused until it is rearmed.

The table is searched for the first entry of an output.  Actions and recovery
modes are stored as bytes, as in the policy storage.
-/

namespace Endap.Failsafe

open Endap.Library
open Endap.State

def failsafeMaxOutputs : Nat := 16

/-- `FAILSAFE_ACTION_FORCE_OFF`. -/
def actionForceOff : UInt8 := 0

/-- `FAILSAFE_ACTION_FORCE_ON`. -/
def actionForceOn : UInt8 := 1

/-- `FAILSAFE_ACTION_HOLD_LAST`. -/
def actionHoldLast : UInt8 := 2

/-- `FAILSAFE_ACTION_RESTORE_SNAPSHOT`. -/
def actionRestoreSnapshot : UInt8 := 3

/-- `FAILSAFE_ACTION_SAFE_VALUE`. -/
def actionSafeValue : UInt8 := 4

/-- `FAILSAFE_ACTION_MAX`. -/
def actionMax : UInt8 := 5

/-- `FAILSAFE_RECOVERY_MANUAL`. -/
def recoveryManual : UInt8 := 1

/-- `FAILSAFE_RECOVERY_MAX`. -/
def recoveryMax : UInt8 := 2

inductive FailsafeReason where
  | none
  | boot
  | commLoss
  | runtimeFault
  | watchdog
  | nodeOffline
  | nodeRevoked
  | unauthorized
  | configInvalid
  | manualTest
deriving DecidableEq

def failsafeReasonName : FailsafeReason → String
  | .boot => "boot"
  | .commLoss => "comm_loss"
  | .runtimeFault => "runtime_fault"
  | .watchdog => "watchdog"
  | .nodeOffline => "node_offline"
  | .nodeRevoked => "node_revoked"
  | .unauthorized => "unauthorized"
  | .configInvalid => "config_invalid"
  | .manualTest => "manual_test"
  | .none => "none"

/-- `failsafe_policy_storage_t`. -/
structure FailsafePolicy where
  outputId : UInt16
  enabled : UInt8
  bootAction : UInt8
  commLossAction : UInt8
  runtimeFaultAction : UInt8
  recoveryMode : UInt8
  reserved : UInt8
  safeValue : Int32
deriving DecidableEq

/-- `failsafe_runtime_entry_t`. -/
structure FailsafeEntry where
  policy : FailsafePolicy
  active : UInt8
  lastReason : FailsafeReason
  lastAppliedValue : Int32

/-- The output of an entry, by which the table is searched. -/
def FailsafeEntry.outputId (entry : FailsafeEntry) : UInt16 :=
  entry.policy.outputId

/-- The static state of `failsafe.c`. -/
structure FailsafeTable where
  entries : KeyedTable FailsafeEntry failsafeMaxOutputs
  bootReason : FailsafeReason

def FailsafeActionValid (action : UInt8) : Prop := action < actionMax

instance (action : UInt8) : Decidable (FailsafeActionValid action) :=
  inferInstanceAs (Decidable (_ < _))

def FailsafeRecoveryValid (recovery : UInt8) : Prop := recovery < recoveryMax

instance (recovery : UInt8) : Decidable (FailsafeRecoveryValid recovery) :=
  inferInstanceAs (Decidable (_ < _))

def failsafeBinaryValue (value : Int32) : Int32 :=
  if value ≠ 0 then 1 else 0

def failsafeApplyAction
    (action : UInt8) (currentValue snapshotValue safeValue : Int32) :
    Int32 :=
  if action = actionForceOn then 1
  else if action = actionHoldLast then failsafeBinaryValue currentValue
  else if action = actionRestoreSnapshot then
    failsafeBinaryValue snapshotValue
  else if action = actionSafeValue then failsafeBinaryValue safeValue
  else 0

def failsafeActionForReason
    (entry : FailsafeEntry) (reason : FailsafeReason) : UInt8 :=
  match reason with
  | .boot => entry.policy.bootAction
  | .commLoss => entry.policy.commLossAction
  | .nodeOffline => entry.policy.commLossAction
  | .nodeRevoked => entry.policy.commLossAction
  | .unauthorized => entry.policy.commLossAction
  | .runtimeFault => entry.policy.runtimeFaultAction
  | .watchdog => entry.policy.runtimeFaultAction
  | .configInvalid => entry.policy.runtimeFaultAction
  | .manualTest => entry.policy.runtimeFaultAction
  | .none => actionHoldLast

def failsafeFind (failsafe : FailsafeTable) (outputId : UInt16) :
    Option FailsafeEntry :=
  failsafe.entries.find? FailsafeEntry.outputId outputId

/-- Change the entry that `failsafe_find` points to. -/
def FailsafeTable.update
    (failsafe : FailsafeTable) (outputId : UInt16)
    (change : FailsafeEntry → FailsafeEntry) : FailsafeTable :=
  { failsafe with
    entries := failsafe.entries.modify FailsafeEntry.outputId outputId change }

/-- The latch of an entry is set by a policy with manual recovery. -/
def FailsafeEntry.latches (entry : FailsafeEntry) : UInt8 :=
  if entry.policy.recoveryMode = recoveryManual then 1 else 0

/-! ## Policies -/

/-- The arguments of `failsafe_set_output_policy`. -/
structure PolicyRequest where
  outputId : UInt16
  enabled : Bool
  bootAction : UInt8
  commLossAction : UInt8
  runtimeFaultAction : UInt8
  safeValue : Int32
  recoveryMode : UInt8

/-- The policy that a request asks for, on top of the present one. -/
def PolicyRequest.applyTo
    (request : PolicyRequest) (policy : FailsafePolicy) : FailsafePolicy :=
  { policy with
    enabled := if request.enabled then 1 else 0
    bootAction := request.bootAction
    commLossAction := request.commLossAction
    runtimeFaultAction := request.runtimeFaultAction
    safeValue := failsafeBinaryValue request.safeValue
    recoveryMode := request.recoveryMode }

/-- The codes of a request are in range. -/
def PolicyRequest.Valid (request : PolicyRequest) : Prop :=
  FailsafeActionValid request.bootAction ∧
  FailsafeActionValid request.commLossAction ∧
  FailsafeActionValid request.runtimeFaultAction ∧
  FailsafeRecoveryValid request.recoveryMode

instance (request : PolicyRequest) : Decidable request.Valid :=
  inferInstanceAs (Decidable (_ ∧ _))

/-- `failsafe_set_output_policy`; the outcome is that of `failsafe_save`. -/
def failsafeSetOutputPolicy
    (failsafe : FailsafeTable) (request : PolicyRequest)
    (outcome : NvsOutcome) : Bool × FailsafeTable :=
  match failsafeFind failsafe request.outputId with
  | none => (false, failsafe)
  | some entry =>
      if ¬ request.Valid then (false, failsafe)
      else if request.applyTo entry.policy = entry.policy then
        (true, failsafe)
      else
        (outcome.succeeds,
          failsafe.update request.outputId fun stored =>
            if request.enabled then
              { stored with policy := request.applyTo stored.policy }
            else
              { stored with
                policy := request.applyTo stored.policy
                active := 0
                lastReason := .none })

/-! ## Boot, commands and faults -/

/-- What `failsafe_startup_value` returns. -/
structure StartupResult where
  value : Int32
  origin : String

/-- `failsafe_startup_value`; `none` when it returns false. -/
def failsafeStartupValue
    (failsafe : FailsafeTable) (outputId : UInt16) (restoredValue : Int32) :
    Option StartupResult × FailsafeTable :=
  match failsafeFind failsafe outputId with
  | none => (none, failsafe)
  | some entry =>
      if entry.policy.enabled = 0 then
        let value := failsafeBinaryValue restoredValue
        (some { value := value, origin := "snapshot" },
          failsafe.update outputId fun stored =>
            { stored with
              active := 0
              lastReason := .none
              lastAppliedValue := value })
      else
        let value :=
          failsafeBinaryValue
            (failsafeApplyAction
              (failsafeActionForReason entry failsafe.bootReason)
              restoredValue restoredValue entry.policy.safeValue)
        (some
            { value := value
              origin := failsafeReasonName failsafe.bootReason },
          failsafe.update outputId fun stored =>
            { stored with
              lastAppliedValue := value
              lastReason := failsafe.bootReason
              active := stored.latches })

/-- What `failsafe_guard_command` returns. -/
structure GuardResult where
  allowed : Bool
  effectiveValue : Option Int32
  reason : Option String

/-- The latch refuses commands. -/
def FailsafeEntry.Blocks (entry : FailsafeEntry) : Prop :=
  entry.policy.enabled ≠ 0 ∧ entry.active ≠ 0 ∧
  entry.policy.recoveryMode = recoveryManual

instance (entry : FailsafeEntry) : Decidable entry.Blocks :=
  inferInstanceAs (Decidable (_ ∧ _))

/-- `failsafe_guard_command`; the source of the command is not used. -/
def failsafeGuardCommand
    (failsafe : FailsafeTable) (outputId : UInt16) (requestedValue : Int32) :
    GuardResult × FailsafeTable :=
  match failsafeFind failsafe outputId with
  | none =>
      ({ allowed := false, effectiveValue := none, reason := none }, failsafe)
  | some entry =>
      if entry.Blocks then
        ({ allowed := false
           effectiveValue := some (failsafeBinaryValue requestedValue)
           reason := some (failsafeReasonName entry.lastReason) },
          failsafe)
      else
        ({ allowed := true
           effectiveValue := some (failsafeBinaryValue requestedValue)
           reason := some "command_allowed" },
          failsafe.update outputId fun stored =>
            { stored with
              lastAppliedValue := failsafeBinaryValue requestedValue })

/-- The value that `failsafe_apply_for_reason` chooses for an entry. -/
def FailsafeEntry.safeValueFor
    (entry : FailsafeEntry) (reason : FailsafeReason)
    (currentValue : Int32) : Int32 :=
  failsafeBinaryValue
    (failsafeApplyAction (failsafeActionForReason entry reason)
      currentValue currentValue entry.policy.safeValue)

/-- `failsafe_apply_for_reason`; the value is given when it returns true. -/
def failsafeApplyForReason
    (failsafe : FailsafeTable) (store : StateStore) (outputId : UInt16)
    (reason : FailsafeReason) : Option Int32 × FailsafeTable :=
  match failsafeFind failsafe outputId with
  | none => (none, failsafe)
  | some entry =>
      if entry.policy.enabled = 0 ∨ reason = .none then (none, failsafe)
      else
        let currentValue := stateValue store outputId
        (some (entry.safeValueFor reason currentValue),
          failsafe.update outputId fun stored =>
            { stored with
              lastAppliedValue := stored.safeValueFor reason currentValue
              lastReason := reason
              active := stored.latches })

/-- One iteration of `failsafe_apply_for_reason_all`. -/
def applyReasonStep (reason : FailsafeReason)
    (world : FailsafeTable × StateStore) (outputId : UInt16) :
    FailsafeTable × StateStore :=
  match failsafeApplyForReason world.1 world.2 outputId reason with
  | (none, failsafe) => (failsafe, world.2)
  | (some safeValue, failsafe) =>
      (failsafe, stateSetInt world.2 outputId safeValue)

/-- `failsafe_apply_for_reason_all`, without the count it returns. -/
def failsafeApplyForReasonAll
    (failsafe : FailsafeTable) (store : StateStore) (reason : FailsafeReason) :
    FailsafeTable × StateStore :=
  (failsafe.entries.keys FailsafeEntry.outputId).foldl
    (applyReasonStep reason) (failsafe, store)

/-- `failsafe_clear_manual_reset`, which `failsafe_rearm` calls. -/
def failsafeClearManualReset (failsafe : FailsafeTable) (outputId : UInt16) :
    Bool × FailsafeTable :=
  match failsafeFind failsafe outputId with
  | none => (false, failsafe)
  | some _ =>
      (true,
        failsafe.update outputId fun stored =>
          { stored with active := 0, lastReason := .none })

/-! ## The latch -/

/-- The policy of the output is enabled, manual, and latched. -/
def Latched (failsafe : FailsafeTable) (outputId : UInt16) : Prop :=
  ∃ entry, failsafeFind failsafe outputId = some entry ∧ entry.Blocks

instance (failsafe : FailsafeTable) (outputId : UInt16) :
    Decidable (Latched failsafe outputId) :=
  inferInstanceAs
    (Decidable (∃ entry ∈ failsafeFind failsafe outputId, entry.Blocks))

variable {outputId : UInt16}

theorem failsafeGuardCommand_latched
    {failsafe : FailsafeTable}
    (latched : Latched failsafe outputId) (requestedValue : Int32) :
    (failsafeGuardCommand failsafe outputId requestedValue).1.allowed = false ∧
    (failsafeGuardCommand failsafe outputId requestedValue).2 =
      failsafe := by
  rcases latched with ⟨entry, found, blocks⟩
  simp only [failsafeGuardCommand, found, if_pos blocks, and_self]

theorem failsafeFind_update_other
    (failsafe : FailsafeTable) {other : UInt16}
    (different : other ≠ outputId)
    {change : FailsafeEntry → FailsafeEntry}
    (sameOutput : ∀ entry, (change entry).outputId = entry.outputId) :
    failsafeFind (failsafe.update outputId change) other =
      failsafeFind failsafe other :=
  KeyedTable.find?_modify_of_ne _ different sameOutput _

theorem failsafeGuardCommand_find_other
    (failsafe : FailsafeTable) {other : UInt16}
    (different : other ≠ outputId) (requestedValue : Int32) :
    failsafeFind (failsafeGuardCommand failsafe outputId requestedValue).2
        other =
      failsafeFind failsafe other := by
  rw [failsafeGuardCommand]
  split
  · rfl
  · split
    · rfl
    · apply failsafeFind_update_other failsafe different
      intro entry
      rfl

theorem failsafeGuardCommand_keeps_latched
    {failsafe : FailsafeTable} {latchedId : UInt16}
    (latched : Latched failsafe latchedId)
    (outputId : UInt16) (requestedValue : Int32) :
    Latched (failsafeGuardCommand failsafe outputId requestedValue).2
      latchedId := by
  by_cases same : latchedId = outputId
  · subst same
    rw [(failsafeGuardCommand_latched latched requestedValue).2]
    exact latched
  · rw [Latched]
    rw [failsafeGuardCommand_find_other failsafe same requestedValue]
    exact latched

/-- One output, which every fault switches off and latches. -/
def FailsafeTable.switchOff (outputId : UInt16) (active : UInt8) :
    FailsafeTable where
  entries :=
    { entries :=
        [{ policy :=
            { outputId := outputId
              enabled := 1
              bootAction := actionForceOff
              commLossAction := actionForceOff
              runtimeFaultAction := actionForceOff
              recoveryMode := recoveryManual
              reserved := 0
              safeValue := 0 }
           active := active
           lastReason := .none
           lastAppliedValue := 0 }]
      fits := Nat.succ_le_succ (Nat.zero_le _) }
  bootReason := .none

end Endap.Failsafe
