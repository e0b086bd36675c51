import Endap.Device.Profile
import Endap.Failsafe.Policy

/-!
# Faults that hit every output

`failsafe_apply_for_reason_all` goes through the policies one by one.  Each
application reads and writes its own output only, so the result for an output
is that of applying the fault to it alone.

Losing the communication twice is the same as losing it once: the value that
an action chooses is the value it chooses again.
-/

namespace Endap.Failsafe

open Endap.Device
open Endap.Library
open Endap.State

/-- The policies of the table are those of different outputs of the device. -/
def FailsafeTable.OnDevice (failsafe : FailsafeTable) : Prop :=
  failsafe.entries.KeysWithin FailsafeEntry.outputId outputProfile

/-! ## One output -/

/-- An entry after a fault was applied to it. -/
def FailsafeEntry.faulted
    (entry : FailsafeEntry) (reason : FailsafeReason)
    (currentValue : Int32) : FailsafeEntry :=
  { entry with
    lastAppliedValue := entry.safeValueFor reason currentValue
    lastReason := reason
    active := entry.latches }

theorem faulted_outputId
    (reason : FailsafeReason) (currentValue : Int32)
    (entry : FailsafeEntry) :
    (entry.faulted reason currentValue).outputId = entry.outputId :=
  rfl

theorem failsafeFind_update_self
    (failsafe : FailsafeTable) (outputId : UInt16)
    {change : FailsafeEntry → FailsafeEntry}
    (sameOutput : ∀ entry, (change entry).outputId = entry.outputId) :
    failsafeFind (failsafe.update outputId change) outputId =
      (failsafeFind failsafe outputId).map change :=
  KeyedTable.find?_modify_self _ _ sameOutput _

variable {failsafe : FailsafeTable} {outputId : UInt16}
    {entry : FailsafeEntry}

theorem failsafeFind_outputId
    (found : failsafeFind failsafe outputId = some entry) :
    entry.outputId = outputId := by
  simpa using List.find?_some found

/-- Applying a fault to one output: nothing, or the output gets its safe value
and its entry the reason. -/
theorem applyReasonStep_cases
    (reason : FailsafeReason) (world : FailsafeTable × StateStore)
    (outputId : UInt16) :
    applyReasonStep reason world outputId = world ∨
    ∃ entry,
      failsafeFind world.1 outputId = some entry ∧
      entry.policy.enabled ≠ 0 ∧ reason ≠ .none ∧
      applyReasonStep reason world outputId =
        (world.1.update outputId fun stored =>
            stored.faulted reason (stateValue world.2 outputId),
          stateSetInt world.2 outputId
            (entry.safeValueFor reason
              (stateValue world.2 outputId))) := by
  cases found : failsafeFind world.1 outputId with
  | none =>
      refine Or.inl ?_
      simp only [applyReasonStep, failsafeApplyForReason, found]
  | some entry =>
      by_cases skipped : entry.policy.enabled = 0 ∨ reason = .none
      · refine Or.inl ?_
        simp only [applyReasonStep, failsafeApplyForReason, found,
          if_pos skipped]
      · rcases not_or.mp skipped with ⟨enabled, isReason⟩
        refine Or.inr ⟨entry, rfl, enabled, isReason, ?_⟩
        simp only [applyReasonStep, failsafeApplyForReason, found,
          if_neg skipped]
        rfl

/-- What the table and the store say about one output. -/
def outputView (world : FailsafeTable × StateStore) (outputId : UInt16) :
    Option FailsafeEntry × Int32 :=
  (failsafeFind world.1 outputId, stateValue world.2 outputId)

variable {other : UInt16}

theorem stateValue_stateSetInt_other
    (store : StateStore) {id : UInt16} (value : Int32)
    (different : other ≠ id) :
    stateValue (stateSetInt store id value) other =
      stateValue store other := by
  rw [stateValue, stateValue, stateGetInt, stateGetInt,
    stateSetInt_other store value different]

theorem stateValue_stateSetInt_same
    (store : StateStore) {id : UInt16} (valid : StateValidId id)
    (value : Int32) :
    stateValue (stateSetInt store id value) id = value := by
  rw [stateValue, stateGetInt, if_pos valid, stateSetInt_same store valid]
  rfl

theorem applyReasonStep_other
    (reason : FailsafeReason) (world : FailsafeTable × StateStore)
    (different : other ≠ outputId) :
    outputView (applyReasonStep reason world outputId) other =
      outputView world other := by
  rcases applyReasonStep_cases reason world outputId with
    same | ⟨entry, -, -, -, applied⟩
  · rw [same]
  · rw [applied, outputView, outputView]
    rw [failsafeFind_update_other world.1 different
        (faulted_outputId reason _),
      stateValue_stateSetInt_other world.2 _ different]

variable {reason : FailsafeReason}

theorem applyReasonStep_own
    (isReason : reason ≠ .none)
    {world : FailsafeTable × StateStore}
    (valid : StateValidId outputId)
    (found : failsafeFind world.1 outputId = some entry)
    (enabled : entry.policy.enabled ≠ 0) :
    outputView (applyReasonStep reason world outputId) outputId =
      (some (entry.faulted reason (stateValue world.2 outputId)),
        entry.safeValueFor reason (stateValue world.2 outputId)) := by
  have notSkipped : ¬ (entry.policy.enabled = 0 ∨ reason = .none) :=
    fun either => either.elim enabled isReason
  simp only [applyReasonStep, failsafeApplyForReason, found,
    if_neg notSkipped, outputView, stateValue_stateSetInt_same world.2 valid]
  have after :=
    failsafeFind_update_self world.1 outputId
      (faulted_outputId reason (stateValue world.2 outputId))
  rw [found] at after
  exact congrArg (fun entry => (entry, _)) after

/-! ## All outputs -/

theorem applyReasonStep_keys
    (reason : FailsafeReason) (world : FailsafeTable × StateStore)
    (outputId : UInt16) :
    (applyReasonStep reason world outputId).1.entries.keys
        FailsafeEntry.outputId =
      world.1.entries.keys FailsafeEntry.outputId := by
  rcases applyReasonStep_cases reason world outputId with
    same | ⟨entry, -, -, -, applied⟩
  · rw [same]
  · rw [applied]
    exact KeyedTable.keys_modify outputId fun _ isOutput => isOutput

theorem applyReason_foldl_keys
    (reason : FailsafeReason) (outputIds : List UInt16)
    (world : FailsafeTable × StateStore) :
    (outputIds.foldl (applyReasonStep reason) world).1.entries.keys
        FailsafeEntry.outputId =
      world.1.entries.keys FailsafeEntry.outputId := by
  induction outputIds generalizing world with
  | nil => rfl
  | cons outputId rest induction =>
      exact (induction _).trans (applyReasonStep_keys reason world outputId)

theorem applyReason_foldl_other
    (reason : FailsafeReason) (outputIds : List UInt16)
    (world : FailsafeTable × StateStore)
    (absent : other ∉ outputIds) :
    outputView (outputIds.foldl (applyReasonStep reason) world) other =
      outputView world other := by
  induction outputIds generalizing world with
  | nil => rfl
  | cons outputId rest induction =>
      rcases not_or.mp (mt List.mem_cons.mpr absent) with
        ⟨different, later⟩
      rw [List.foldl_cons, induction _ later]
      exact applyReasonStep_other reason world different

theorem applyReason_foldl_own
    (isReason : reason ≠ .none)
    {outputIds : List UInt16} (different : outputIds.Nodup)
    (world : FailsafeTable × StateStore)
    (member : outputId ∈ outputIds) (valid : StateValidId outputId)
    (found : failsafeFind world.1 outputId = some entry)
    (enabled : entry.policy.enabled ≠ 0) :
    outputView (outputIds.foldl (applyReasonStep reason) world) outputId =
      (some (entry.faulted reason (stateValue world.2 outputId)),
        entry.safeValueFor reason (stateValue world.2 outputId)) := by
  induction outputIds generalizing world with
  | nil => cases member
  | cons first rest induction =>
      rcases List.nodup_cons.mp different with ⟨absent, restDifferent⟩
      rw [List.foldl_cons]
      rcases List.mem_cons.mp member with rfl | later
      · rw [applyReason_foldl_other reason rest _ absent]
        exact applyReasonStep_own isReason valid found enabled
      · have notFirst : outputId ≠ first := by
          rintro rfl
          exact absent later
        have same := applyReasonStep_other reason world notFirst
        rcases Prod.mk.inj same with ⟨sameEntry, sameValue⟩
        rw [← sameValue]
        exact induction restDifferent _ later (sameEntry.trans found)

theorem failsafeApplyForReasonAll_own
    (isReason : reason ≠ .none)
    (onDevice : failsafe.OnDevice)
    (store : StateStore)
    (found : failsafeFind failsafe outputId = some entry)
    (enabled : entry.policy.enabled ≠ 0) :
    outputView (failsafeApplyForReasonAll failsafe store reason) outputId =
      (some (entry.faulted reason (stateValue store outputId)),
        entry.safeValueFor reason (stateValue store outputId)) := by
  have isKey := failsafeFind_outputId found
  have member : outputId ∈ failsafe.entries.keys FailsafeEntry.outputId := by
    rw [← isKey]
    exact List.mem_map_of_mem (List.mem_of_find?_eq_some found)
  exact applyReason_foldl_own isReason onDevice.different (failsafe, store)
    member (outputProfile_validId (onDevice.within member)) found enabled

theorem failsafeApplyForReasonAll_onDevice
    (onDevice : failsafe.OnDevice)
    (store : StateStore) (reason : FailsafeReason) :
    (failsafeApplyForReasonAll failsafe store reason).1.OnDevice := by
  have same :=
    applyReason_foldl_keys reason
      (failsafe.entries.keys FailsafeEntry.outputId) (failsafe, store)
  constructor
  · rw [failsafeApplyForReasonAll, same]
    exact onDevice.different
  · rw [failsafeApplyForReasonAll, same]
    exact onDevice.within

/-! ## Loss of communication -/

/-- The value of an output after its comm-loss action. -/
def FailsafeEntry.commLossValue (entry : FailsafeEntry) (value : Int32) :
    Int32 :=
  failsafeApplyAction entry.policy.commLossAction value value
    entry.policy.safeValue

theorem failsafeBinaryValue_idem (value : Int32) :
    failsafeBinaryValue (failsafeBinaryValue value) =
      failsafeBinaryValue value := by
  rw [failsafeBinaryValue, failsafeBinaryValue]
  split
  · rfl
  · rfl

theorem failsafeBinaryValue_applyAction
    (action : UInt8) (currentValue snapshotValue safeValue : Int32) :
    failsafeBinaryValue
        (failsafeApplyAction action currentValue snapshotValue safeValue) =
      failsafeApplyAction action currentValue snapshotValue safeValue := by
  rw [failsafeApplyAction]
  split
  · rfl
  · split
    · exact failsafeBinaryValue_idem _
    · split
      · exact failsafeBinaryValue_idem _
      · split
        · exact failsafeBinaryValue_idem _
        · rfl

theorem failsafeApplyAction_idem
    (action : UInt8) (value safeValue : Int32) :
    failsafeApplyAction action
        (failsafeApplyAction action value value safeValue)
        (failsafeApplyAction action value value safeValue) safeValue =
      failsafeApplyAction action value value safeValue := by
  rw [failsafeApplyAction, failsafeBinaryValue_applyAction]
  simp only [failsafeApplyAction]
  split
  · rfl
  · split
    · rfl
    · split
      · rfl
      · rfl

/-- The reasons that apply the comm-loss action. -/
def FailsafeReason.losesComm : FailsafeReason → Bool
  | .commLoss => true
  | .nodeOffline => true
  | _ => false

theorem safeValueFor_losesComm
    (loses : reason.losesComm = true)
    (entry : FailsafeEntry) (value : Int32) :
    entry.safeValueFor reason value = entry.commLossValue value := by
  have action :
      failsafeActionForReason entry reason = entry.policy.commLossAction := by
    cases reason <;> first | rfl | cases loses
  rw [FailsafeEntry.safeValueFor, action, failsafeBinaryValue_applyAction]
  rfl

end Endap.Failsafe
