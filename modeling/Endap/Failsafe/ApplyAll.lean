import Endap.Failsafe.Status

/-!
# A fault on the whole device

`failsafe_apply_for_reason_all` visits the outputs of the table one after the
other.  Each visit looks the entry up by its output, reads the state of the
output, writes it, and sets the latch; the function returns how many outputs
it drove.

The outputs of the table are different, so a visit influences no later one:
what the loop does is what it would do to each output alone.
-/

namespace Endap.Failsafe

open Endap.Device
open Endap.Library
open Endap.State

/-- One iteration of `failsafe_apply_for_reason_all`, with the outputs counted
so far. -/
def applyReasonCounted (reason : FailsafeReason)
    (world : Nat × FailsafeTable × StateStore) (outputId : UInt16) :
    Nat × FailsafeTable × StateStore :=
  match
      failsafeApplyForReason world.2.1 world.2.2 outputId reason with
  | (none, failsafe) => (world.1, failsafe, world.2.2)
  | (some safeValue, failsafe) =>
      (world.1 + 1, failsafe, stateSetInt world.2.2 outputId safeValue)

/-- `failsafe_apply_for_reason_all`, with the count it returns. -/
def failsafeApplyForReasonAllCounted
    (failsafe : FailsafeTable) (store : StateStore)
    (reason : FailsafeReason) : Nat × FailsafeTable × StateStore :=
  (failsafe.entries.keys FailsafeEntry.outputId).foldl
    (applyReasonCounted reason) (0, failsafe, store)

/-! ## Counting -/

variable {outputId : UInt16}

/-- A visit of an enabled output counts, a visit of another output does
not. -/
theorem applyReasonCounted_eq
    {reason : FailsafeReason} (isReason : reason ≠ .none)
    (count : Nat) (world : FailsafeTable × StateStore)
    {entry : FailsafeEntry}
    (found : failsafeFind world.1 outputId = some entry) :
    applyReasonCounted reason (count, world) outputId =
      (count + (if entry.policy.enabled ≠ 0 then 1 else 0),
        applyReasonStep reason world outputId) := by
  by_cases disabled : entry.policy.enabled = 0
  · simp only [applyReasonCounted, applyReasonStep, failsafeApplyForReason,
      found, disabled, true_or, if_true, ne_eq, not_true_eq_false, if_false,
      Nat.add_zero]
  · simp only [applyReasonCounted, applyReasonStep, failsafeApplyForReason,
      found, disabled, isReason, or_false, if_false, ne_eq,
      not_false_eq_true, if_true]

theorem applyReasonCounted_foldl
    {reason : FailsafeReason} (isReason : reason ≠ .none)
    {entries : List FailsafeEntry}
    (different : (entries.map FailsafeEntry.outputId).Nodup)
    (count : Nat) (world : FailsafeTable × StateStore)
    (found :
      ∀ entry ∈ entries, failsafeFind world.1 entry.outputId = some entry) :
    (entries.map FailsafeEntry.outputId).foldl
        (applyReasonCounted reason) (count, world) =
      (count + entries.countP fun entry => entry.policy.enabled ≠ 0,
        (entries.map FailsafeEntry.outputId).foldl
          (applyReasonStep reason) world) := by
  induction entries generalizing count world with
  | nil => rfl
  | cons first rest induction =>
      rw [List.map_cons, List.nodup_cons] at different
      have kept :
          ∀ entry ∈ rest,
            failsafeFind
                (applyReasonStep reason world first.outputId).1
                entry.outputId =
              some entry := by
        intro entry member
        have notFirst : entry.outputId ≠ first.outputId := by
          intro same
          exact different.1 (same ▸ List.mem_map_of_mem member)
        have view := applyReasonStep_other reason world notFirst
        exact (congrArg Prod.fst view).trans
          (found entry (List.mem_cons_of_mem _ member))
      rw [List.map_cons, List.foldl_cons, List.foldl_cons,
        applyReasonCounted_eq isReason count world
          (found first (List.mem_cons_self ..)),
        induction different.2 _ _ kept, List.countP_cons]
      congr 1
      simp only [decide_eq_true_eq]
      omega

/-- The loop does what it does without the count, and returns the number of
enabled entries. -/
theorem failsafeApplyForReasonAllCounted_eq
    {reason : FailsafeReason} (isReason : reason ≠ .none)
    {failsafe : FailsafeTable} (onDevice : failsafe.OnDevice)
    (store : StateStore) :
    failsafeApplyForReasonAllCounted failsafe store reason =
      (failsafe.entries.entries.countP
          fun entry => entry.policy.enabled ≠ 0,
        failsafeApplyForReasonAll failsafe store reason) := by
  have counted :=
    applyReasonCounted_foldl isReason onDevice.different 0
      (failsafe, store)
      fun entry member => KeyedTable.find?_of_mem onDevice.different member
  rw [Nat.zero_add] at counted
  exact counted

/-! ## Outputs that are not driven -/

theorem applyReason_foldl_kept
    (reason : FailsafeReason) (outputIds : List UInt16)
    (world : FailsafeTable × StateStore)
    (undriven :
      ∀ entry,
        failsafeFind world.1 outputId = some entry → entry.policy.enabled = 0) :
    outputView (outputIds.foldl (applyReasonStep reason) world) outputId =
      outputView world outputId := by
  induction outputIds generalizing world with
  | nil => rfl
  | cons first rest induction =>
      have view :
          outputView (applyReasonStep reason world first) outputId =
            outputView world outputId := by
        by_cases same : outputId = first
        · rcases applyReasonStep_cases reason world first with
            kept | ⟨entry, found, enabled, -, -⟩
          · rw [kept]
          · rw [← same] at found
            exact absurd (undriven entry found) enabled
        · exact applyReasonStep_other reason world same
      rw [List.foldl_cons, induction, view]
      intro entry found
      exact undriven entry ((congrArg Prod.fst view).symm.trans found)

theorem stateGetInt_congr
    {first second : StateStore} {id : UInt16}
    (same : stateValue first id = stateValue second id) :
    stateGetInt first id = stateGetInt second id := by
  rw [stateValue, stateValue, stateGetInt, stateGetInt] at same
  rw [stateGetInt, stateGetInt]
  split
  · next valid =>
      rw [if_pos valid, if_pos valid] at same
      exact congrArg some same
  · rfl

/-! ## Tables of a run -/

theorem update_keys
    (failsafe : FailsafeTable) (outputId : UInt16)
    {change : FailsafeEntry → FailsafeEntry}
    (sameOutput : ∀ entry, (change entry).outputId = entry.outputId) :
    (failsafe.update outputId change).entries.keys FailsafeEntry.outputId =
      failsafe.entries.keys FailsafeEntry.outputId :=
  KeyedTable.keys_modify outputId fun entry isOutput =>
    (sameOutput entry).trans isOutput

theorem call_keys (failsafe : FailsafeTable) (action : FailsafeCall) :
    (failsafe.call action).1.entries.keys FailsafeEntry.outputId =
      failsafe.entries.keys FailsafeEntry.outputId := by
  cases action with
  | setOutputPolicy request outcome =>
      rw [FailsafeTable.call]
      rcases failsafeSetOutputPolicy_cases failsafe request outcome with
        ⟨-, kept⟩ | ⟨-, -, changed⟩
      · rw [kept]
      · rw [changed]
        exact update_keys failsafe _ (change_outputId request)
  | applyForReason outputId reason store =>
      rw [FailsafeTable.call, failsafeApplyForReason]
      cases failsafeFind failsafe outputId with
      | none => rfl
      | some entry =>
          dsimp only
          split
          · rfl
          · exact update_keys failsafe _ fun _ => rfl
  | applyForReasonAll reason store =>
      exact applyReason_foldl_keys reason _ (failsafe, store)
  | startupValue outputId restoredValue =>
      rw [FailsafeTable.call, failsafeStartupValue]
      cases failsafeFind failsafe outputId with
      | none => rfl
      | some entry =>
          dsimp only
          split
          · exact update_keys failsafe _ fun _ => rfl
          · exact update_keys failsafe _ fun _ => rfl
  | guardCommand outputId requestedValue =>
      rw [FailsafeTable.call, failsafeGuardCommand]
      cases failsafeFind failsafe outputId with
      | none => rfl
      | some entry =>
          dsimp only
          split
          · rfl
          · exact update_keys failsafe _ fun _ => rfl
  | clearManualReset outputId =>
      rw [FailsafeTable.call, failsafeClearManualReset]
      cases failsafeFind failsafe outputId with
      | none => rfl
      | some entry => exact update_keys failsafe _ fun _ => rfl

/-- The entries are those of the outputs of the device, and the latch of a
disabled policy is open. -/
structure FailsafeTable.Orderly (failsafe : FailsafeTable) : Prop where
  keys : failsafe.entries.keys FailsafeEntry.outputId = outputProfile
  disabledOpen :
    ∀ outputId entry,
      failsafeFind failsafe outputId = some entry →
      entry.policy.enabled = 0 → entry.active = 0

theorem FailsafeTable.Orderly.onDevice
    {failsafe : FailsafeTable} (orderly : failsafe.Orderly) :
    failsafe.OnDevice where
  different := by
    rw [orderly.keys]
    exact outputProfile_nodup
  within := by
    rw [orderly.keys]
    exact List.Subset.refl _

theorem failsafeInit_orderly
    (reset : ResetReason) (nvs : Option (List UInt8))
    (outcome : NvsOutcome) :
    (failsafeInit reset nvs outcome).failsafe.Orderly := by
  rw [failsafeInit_failsafe]
  refine ⟨(failsafeLoad_complete reset nvs).keys, ?_⟩
  intro outputId entry found _
  rw [failsafeLoad_fresh reset nvs entry (List.mem_of_find?_eq_some found)]
  rfl

theorem failsafeFind_isSome_of_keys
    {first second : FailsafeTable}
    (same :
      first.entries.keys FailsafeEntry.outputId =
        second.entries.keys FailsafeEntry.outputId)
    {entry : FailsafeEntry}
    (found : failsafeFind first outputId = some entry) :
    ∃ other, failsafeFind second outputId = some other := by
  have member : outputId ∈ second.entries.keys FailsafeEntry.outputId := by
    rw [← same, ← failsafeFind_outputId found]
    exact List.mem_map_of_mem (List.mem_of_find?_eq_some found)
  rcases List.mem_map.mp member with ⟨other, inTable, isOutput⟩
  refine Option.isSome_iff_exists.mp (List.find?_isSome.mpr ?_)
  exact ⟨other, inTable, decide_eq_true isOutput⟩

theorem call_orderly
    (failsafe : FailsafeTable) (action : FailsafeCall)
    (orderly : failsafe.Orderly) :
    (failsafe.call action).1.Orderly where
  keys := (call_keys failsafe action).trans orderly.keys
  disabledOpen := by
    intro outputId after foundAfter disabled
    rcases failsafeFind_isSome_of_keys (call_keys failsafe action)
        foundAfter with
      ⟨entry, found⟩
    have wasOpen := orderly.disabledOpen outputId entry found
    rcases call_entryStep found action with ⟨stepped, foundStepped, step⟩
    rw [foundAfter] at foundStepped
    cases Option.some.inj foundStepped
    cases step with
    | unchanged policy active _ =>
        rw [policy] at disabled
        exact active.trans (wasOpen disabled)
    | faulted policy _ enabled _ =>
        rw [policy] at disabled
        exact absurd disabled enabled
    | cleared _ cleared => exact cleared
    | policyChanged request _ _ _ _ change =>
        rw [change, PolicyRequest.change] at disabled ⊢
        split at disabled
        · next enabled =>
            simp [PolicyRequest.applyTo, enabled] at disabled
        · next notEnabled =>
            rw [if_neg notEnabled]

/-! ## The whole device -/

/-- What a fault makes of the device: the table and the state table before,
and what the call returns. -/
structure AppliedExactly (failsafe : FailsafeTable) (store : StateStore)
    (reason : FailsafeReason)
    (result : Nat × FailsafeTable × StateStore) : Prop where
  driven :
    ∀ entry ∈ failsafe.entries.entries,
      entry.policy.enabled ≠ 0 →
      ∃ value,
        stateGetInt store entry.outputId = some value ∧
        stateGetInt result.2.2 entry.outputId =
          some
            (failsafeBinaryValue
              (failsafeApplyAction
                (failsafeActionForReason entry reason) value value
                entry.policy.safeValue))
  others :
    ∀ id,
      (∀ entry ∈ failsafe.entries.entries,
        entry.outputId = id → entry.policy.enabled = 0) →
        stateGetInt result.2.2 id = stateGetInt store id
  policies :
    result.2.1.entries.entries.map FailsafeEntry.policy =
      failsafe.entries.entries.map FailsafeEntry.policy
  latch :
    ∀ entry ∈ result.2.1.entries.entries,
      entry.active =
        if entry.policy.enabled ≠ 0 ∧
        entry.policy.recoveryMode = recoveryManual then 1
        else 0
  count :
    result.1 =
      failsafe.entries.entries.countP fun entry => entry.policy.enabled ≠ 0

theorem applyReason_foldl_policies
    (reason : FailsafeReason) (outputIds : List UInt16)
    (world : FailsafeTable × StateStore) :
    (outputIds.foldl (applyReasonStep reason)
        world).1.entries.entries.map FailsafeEntry.policy =
      world.1.entries.entries.map FailsafeEntry.policy := by
  induction outputIds generalizing world with
  | nil => rfl
  | cons first rest induction =>
      rw [List.foldl_cons, induction]
      rcases applyReasonStep_cases reason world first with
        kept | ⟨entry, -, -, -, applied⟩
      · rw [kept]
      · rw [applied]
        exact
          KeyedTable.modifyFirst_keys FailsafeEntry.policy _
            (fun stored =>
              stored.faulted reason (stateValue world.2 first))
            (fun _ _ => rfl) _

section

variable {failsafe : FailsafeTable} {store : StateStore}
  {reason : FailsafeReason}

theorem failsafeApplyForReasonAll_driven
    (isReason : reason ≠ .none) (onDevice : failsafe.OnDevice)
    (store : StateStore) {entry : FailsafeEntry} (member : entry ∈ failsafe.entries.entries)
    (enabled : entry.policy.enabled ≠ 0) :
    ∃ value,
      stateGetInt store entry.outputId = some value ∧
      stateGetInt (failsafeApplyForReasonAll failsafe store reason).2
          entry.outputId =
        some (entry.safeValueFor reason value) := by
  have valid : StateValidId entry.outputId :=
    outputProfile_validId (onDevice.within (List.mem_map_of_mem member))
  have found := KeyedTable.find?_of_mem onDevice.different member
  have before :
      stateGetInt store entry.outputId =
        some (stateValue store entry.outputId) := by
    rw [stateValue, stateGetInt, if_pos valid]
    rfl
  have view :=
    failsafeApplyForReasonAll_own isReason onDevice store found enabled
  have after := congrArg Prod.snd view
  refine ⟨_, before, ?_⟩
  rw [stateGetInt, if_pos valid]
  rw [outputView, stateValue, stateGetInt, if_pos valid] at after
  exact congrArg some after

theorem failsafeApplyForReasonAll_latch
    (isReason : reason ≠ .none) (orderly : failsafe.Orderly)
    {entry : FailsafeEntry}
    (member :
      entry ∈
        (failsafeApplyForReasonAll failsafe store reason).1.entries.entries) :
    entry.active =
      if entry.policy.enabled ≠ 0 ∧
      entry.policy.recoveryMode = recoveryManual then 1
      else 0 := by
  have onDevice := orderly.onDevice
  have foundAfter :=
    KeyedTable.find?_of_mem
      (failsafeApplyForReasonAll_onDevice onDevice store reason).different
      member
  rcases failsafeFind_isSome_of_keys
      (call_keys failsafe (.applyForReasonAll reason store)) foundAfter with
    ⟨old, found⟩
  by_cases enabled : old.policy.enabled = 0
  · have view :
        outputView (failsafeApplyForReasonAll failsafe store reason)
            entry.outputId =
          outputView (failsafe, store) entry.outputId := by
      apply applyReason_foldl_kept
      intro other isOther
      cases Option.some.inj (found.symm.trans isOther)
      exact enabled
    have same : some entry = some old :=
      (foundAfter.symm.trans (congrArg Prod.fst view)).trans found
    cases Option.some.inj same
    rw [if_neg fun both => both.1 enabled]
    exact orderly.disabledOpen _ _ found enabled
  · have view :=
      failsafeApplyForReasonAll_own isReason onDevice store found enabled
    have same := foundAfter.symm.trans (congrArg Prod.fst view)
    rw [Option.some.inj same, FailsafeEntry.faulted, FailsafeEntry.latches]
    simp only [ne_eq, enabled, not_false_eq_true, true_and]

end

/--
From every boot and after any calls on the table, a fault for any reason
drives every enabled output to what its policy makes of the value it had,
leaves every other state alone, latches exactly the enabled outputs that
recover manually, changes no policy, and returns the number of enabled
outputs.
-/
theorem fault_on_device_exact
    (reset : ResetReason) (nvs : Option (List UInt8))
    (outcome : NvsOutcome) (calls : List FailsafeCall)
    (store : StateStore) {reason : FailsafeReason}
    (isReason : reason ≠ .none) :
    AppliedExactly
      (Run.final FailsafeTable.call
        (failsafeInit reset nvs outcome).failsafe calls)
      store reason
      (failsafeApplyForReasonAllCounted
        (Run.final FailsafeTable.call
          (failsafeInit reset nvs outcome).failsafe calls)
        store reason) := by
  have orderly :=
    Run.final_invariant FailsafeTable.Orderly
      (failsafeInit_orderly reset nvs outcome) call_orderly calls
  have onDevice := orderly.onDevice
  rw [failsafeApplyForReasonAllCounted_eq isReason onDevice]
  refine
    { driven := ?_
      others := ?_
      policies := applyReason_foldl_policies reason _ (_, store)
      latch := ?_
      count := rfl }
  · intro entry member enabled
    rcases failsafeApplyForReasonAll_driven isReason onDevice store member
        enabled with
      ⟨value, before, after⟩
    refine ⟨value, before, after.trans ?_⟩
    rw [FailsafeEntry.safeValueFor]
  · intro id undriven
    apply stateGetInt_congr
    refine congrArg Prod.snd (applyReason_foldl_kept reason _ (_, store) ?_)
    intro entry found
    exact undriven entry (List.mem_of_find?_eq_some found)
      (failsafeFind_outputId found)
  · intro entry member
    exact failsafeApplyForReasonAll_latch isReason orderly member

/-- A device whose output 100 is held at boot and latched by faults loses its
communication. -/
theorem holdLatched_fault_exact :
    AppliedExactly
      (Run.final FailsafeTable.call
        (failsafeInit .other none .committed).failsafe
        [.setOutputPolicy holdLatched .committed])
      (stateSetInt stateInit 100 1) .commLoss
      (failsafeApplyForReasonAllCounted
        (Run.final FailsafeTable.call
          (failsafeInit .other none .committed).failsafe
          [.setOutputPolicy holdLatched .committed])
        (stateSetInt stateInit 100 1) .commLoss) :=
  fault_on_device_exact .other none .committed _ _ (by decide)

end Endap.Failsafe
