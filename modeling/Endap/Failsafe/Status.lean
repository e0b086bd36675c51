import Endap.Failsafe.Reboot

/-!
# The reported status and the guard

`failsafe_is_active` reports the latch of an output; `failsafe_guard_command`
refuses commands when the output is latched, its policy is enabled and
recovers manually.  The two agree as long as no policy change takes manual
recovery away from a latched output: such a change leaves the latch set, so
the output is reported as active while every command passes.

Disabling a policy clears the latch in the same function.
-/

namespace Endap.Failsafe

open Endap.Device
open Endap.Library
open Endap.State

def failsafeIsActive (failsafe : FailsafeTable) (outputId : UInt16) : Bool :=
  match failsafeFind failsafe outputId with
  | some entry => entry.active ≠ 0
  | none => false

/-- The calls on the table of policies.  Faults read the state table; the
outcome of a policy change is that of saving it. -/
inductive FailsafeCall where
  | setOutputPolicy (request : PolicyRequest) (outcome : NvsOutcome)
  | applyForReason (outputId : UInt16) (reason : FailsafeReason)
      (store : StateStore)
  | applyForReasonAll (reason : FailsafeReason) (store : StateStore)
  | startupValue (outputId : UInt16) (restoredValue : Int32)
  | guardCommand (outputId : UInt16) (requestedValue : Int32)
  | clearManualReset (outputId : UInt16)

/-- The table after a call. -/
def FailsafeTable.call (failsafe : FailsafeTable) :
    FailsafeCall → FailsafeTable × Unit
  | .setOutputPolicy request outcome =>
      ((failsafeSetOutputPolicy failsafe request outcome).2, ())
  | .applyForReason outputId reason store =>
      ((failsafeApplyForReason failsafe store outputId reason).2, ())
  | .applyForReasonAll reason store =>
      ((failsafeApplyForReasonAll failsafe store reason).1, ())
  | .startupValue outputId restoredValue =>
      ((failsafeStartupValue failsafe outputId restoredValue).2, ())
  | .guardCommand outputId requestedValue =>
      ((failsafeGuardCommand failsafe outputId requestedValue).2, ())
  | .clearManualReset outputId =>
      ((failsafeClearManualReset failsafe outputId).2, ())

/-- The call applies a fault or a boot action to the output. -/
def FailsafeCall.AppliesTo (outputId : UInt16) : FailsafeCall → Prop
  | .applyForReason applied _ _ => applied = outputId
  | .applyForReasonAll _ _ => True
  | .startupValue started _ => started = outputId
  | _ => False

/-- The call is a valid request that leaves a latched output enabled without
manual recovery. -/
def FailsafeCall.Unlatches (failsafe : FailsafeTable) : FailsafeCall → Prop
  | .setOutputPolicy request _ =>
      request.Valid ∧ request.enabled = true ∧
      request.recoveryMode ≠ recoveryManual ∧
      failsafeIsActive failsafe request.outputId = true
  | _ => False

/-! ## What a call does to one entry -/

/-- The entry of an output after a call. -/
inductive EntryStep (outputId : UInt16) (action : FailsafeCall)
    (entry : FailsafeEntry) : FailsafeEntry → Prop where
  | unchanged (after : FailsafeEntry)
      (policy : after.policy = entry.policy)
      (active : after.active = entry.active)
      (notRearmed : action ≠ .clearManualReset outputId) :
      EntryStep outputId action entry after
  | faulted (after : FailsafeEntry)
      (policy : after.policy = entry.policy)
      (active : after.active = entry.latches)
      (enabled : entry.policy.enabled ≠ 0)
      (applies : action.AppliesTo outputId) :
      EntryStep outputId action entry after
  | cleared (after : FailsafeEntry)
      (policy : after.policy = entry.policy)
      (active : after.active = 0) :
      EntryStep outputId action entry after
  | policyChanged (after : FailsafeEntry) (request : PolicyRequest)
      (outcome : NvsOutcome)
      (isRequest : action = .setOutputPolicy request outcome)
      (isOutput : request.outputId = outputId)
      (valid : request.Valid)
      (change : after = request.change entry) :
      EntryStep outputId action entry after

theorem failsafeFind_update
    (failsafe : FailsafeTable) (outputId wanted : UInt16)
    {change : FailsafeEntry → FailsafeEntry}
    (sameOutput : ∀ entry, (change entry).outputId = entry.outputId) :
    failsafeFind (failsafe.update outputId change) wanted =
      if wanted = outputId then (failsafeFind failsafe wanted).map change
      else failsafeFind failsafe wanted := by
  split
  · next same =>
      rw [same]
      exact failsafeFind_update_self failsafe outputId sameOutput
  · next different =>
      exact failsafeFind_update_other failsafe different sameOutput

theorem change_outputId
    (request : PolicyRequest) (stored : FailsafeEntry) :
    (request.change stored).outputId = stored.outputId := by
  rw [FailsafeEntry.outputId, change_policy]
  rfl

section

variable {failsafe : FailsafeTable} {outputId : UInt16}
  {entry : FailsafeEntry}

theorem update_entryStep
    (found : failsafeFind failsafe outputId = some entry)
    {target : UInt16} {change : FailsafeEntry → FailsafeEntry}
    (sameOutput : ∀ entry, (change entry).outputId = entry.outputId)
    {action : FailsafeCall}
    (own : outputId = target → EntryStep outputId action entry (change entry))
    (other : outputId ≠ target → EntryStep outputId action entry entry) :
    ∃ after,
      failsafeFind (failsafe.update target change) outputId = some after ∧
      EntryStep outputId action entry after := by
  rw [failsafeFind_update failsafe target outputId sameOutput, found]
  split
  · next same => exact ⟨_, rfl, own same⟩
  · next different => exact ⟨entry, rfl, other different⟩

theorem setOutputPolicy_entryStep
    (found : failsafeFind failsafe outputId = some entry)
    (request : PolicyRequest) (outcome : NvsOutcome) :
    ∃ after,
      failsafeFind
          (failsafe.call (.setOutputPolicy request outcome)).1 outputId =
        some after ∧
      EntryStep outputId (.setOutputPolicy request outcome) entry
        after := by
  have same :
      EntryStep outputId (.setOutputPolicy request outcome) entry entry :=
    .unchanged entry rfl rfl (by simp)
  rw [FailsafeTable.call]
  rcases failsafeSetOutputPolicy_cases failsafe request outcome with
    ⟨-, kept⟩ | ⟨-, valid, changed⟩
  · rw [kept]
    exact ⟨entry, found, same⟩
  · rw [changed]
    refine update_entryStep found (change_outputId request) ?_ fun _ => same
    intro isOutput
    exact .policyChanged _ request outcome rfl isOutput.symm valid rfl

/-- A fault on one output latches its entry or leaves the policy and the latch
of an entry alone. -/
theorem failsafeApplyForReason_entry
    (found : failsafeFind failsafe outputId = some entry)
    (applied : UInt16) (reason : FailsafeReason) (store : StateStore) :
    ∃ after,
      failsafeFind
          (failsafeApplyForReason failsafe store applied reason).2
          outputId =
        some after ∧
      after.policy = entry.policy ∧
      (after.active = entry.active ∨
      after.active = entry.latches ∧ entry.policy.enabled ≠ 0 ∧
      applied = outputId) := by
  rw [failsafeApplyForReason]
  cases hit : failsafeFind failsafe applied with
  | none => exact ⟨entry, found, rfl, Or.inl rfl⟩
  | some target =>
      by_cases skipped : target.policy.enabled = 0 ∨ reason = .none
      · simp only [if_pos skipped]
        exact ⟨entry, found, rfl, Or.inl rfl⟩
      · simp only [if_neg skipped]
        have after :=
          failsafeFind_update failsafe applied outputId
            (faulted_outputId reason (stateValue store applied))
        rw [found] at after
        split at after
        · next isOutput =>
            refine ⟨_, after, rfl, Or.inr ⟨rfl, ?_, isOutput.symm⟩⟩
            rw [← isOutput, found] at hit
            cases hit
            exact fun disabled => skipped (Or.inl disabled)
        · exact ⟨entry, after, rfl, Or.inl rfl⟩

end

theorem applyReasonStep_fst
    (reason : FailsafeReason) (world : FailsafeTable × StateStore)
    (outputId : UInt16) :
    (applyReasonStep reason world outputId).1 =
      (failsafeApplyForReason world.1 world.2 outputId reason).2 := by
  rw [applyReasonStep]
  split
  · next result => rw [result]
  · next result => rw [result]

/-- A fault on many outputs latches an entry or leaves its policy and its
latch alone. -/
theorem applyReason_foldl_entry
    (reason : FailsafeReason) (outputIds : List UInt16)
    {world : FailsafeTable × StateStore} {outputId : UInt16}
    {entry : FailsafeEntry}
    (found : failsafeFind world.1 outputId = some entry) :
    ∃ after,
      failsafeFind (outputIds.foldl (applyReasonStep reason) world).1 outputId =
        some after ∧
      after.policy = entry.policy ∧
      (after.active = entry.active ∨
      after.active = entry.latches ∧ entry.policy.enabled ≠ 0) := by
  induction outputIds generalizing world entry with
  | nil => exact ⟨entry, found, rfl, Or.inl rfl⟩
  | cons first rest induction =>
      rcases failsafeApplyForReason_entry found first reason world.2 with
        ⟨next, foundNext, samePolicy, latch⟩
      rw [← applyReasonStep_fst] at foundNext
      rcases induction foundNext with
        ⟨after, foundAfter, laterPolicy, laterLatch⟩
      have sameLatches : next.latches = entry.latches := by
        rw [FailsafeEntry.latches, samePolicy, FailsafeEntry.latches]
      refine ⟨after, foundAfter, laterPolicy.trans samePolicy, ?_⟩
      rcases laterLatch with kept | ⟨latched, enabled⟩
      · rcases latch with same | ⟨latched, enabled, -⟩
        · exact Or.inl (kept.trans same)
        · exact Or.inr ⟨kept.trans latched, enabled⟩
      · rw [samePolicy] at enabled
        exact Or.inr ⟨latched.trans sameLatches, enabled⟩

theorem startupValue_entryStep
    {failsafe : FailsafeTable} {outputId : UInt16} {entry : FailsafeEntry}
    (found : failsafeFind failsafe outputId = some entry)
    (started : UInt16) (restoredValue : Int32) :
    ∃ after,
      failsafeFind
            (failsafe.call (.startupValue started restoredValue)).1
            outputId =
          some after ∧
      EntryStep outputId (.startupValue started restoredValue) entry
        after := by
  have same :
      EntryStep outputId (.startupValue started restoredValue) entry
        entry :=
    .unchanged entry rfl rfl (by simp)
  rw [FailsafeTable.call, failsafeStartupValue]
  cases hit : failsafeFind failsafe started with
  | none => exact ⟨entry, found, same⟩
  | some target =>
      by_cases disabled : target.policy.enabled = 0
      · simp only [if_pos disabled]
        refine update_entryStep found (by intro; rfl) ?_ fun _ => same
        intro _
        exact .cleared _ rfl rfl
      · simp only [if_neg disabled]
        refine update_entryStep found (by intro; rfl) ?_ fun _ => same
        intro isOutput
        rw [← isOutput, found] at hit
        cases hit
        exact .faulted _ rfl rfl disabled isOutput.symm

theorem guardCommand_entryStep
    {failsafe : FailsafeTable} {outputId : UInt16} {entry : FailsafeEntry}
    (found : failsafeFind failsafe outputId = some entry)
    (commanded : UInt16) (requestedValue : Int32) :
    ∃ after,
      failsafeFind
            (failsafe.call (.guardCommand commanded requestedValue)).1
            outputId =
          some after ∧
      EntryStep outputId (.guardCommand commanded requestedValue) entry
        after := by
  have same :
      EntryStep outputId (.guardCommand commanded requestedValue) entry
        entry :=
    .unchanged entry rfl rfl (by simp)
  rw [FailsafeTable.call, failsafeGuardCommand]
  cases failsafeFind failsafe commanded with
  | none => exact ⟨entry, found, same⟩
  | some target =>
      by_cases blocks : target.Blocks
      · simp only [if_pos blocks]
        exact ⟨entry, found, same⟩
      · simp only [if_neg blocks]
        refine update_entryStep found (by intro; rfl) ?_ fun _ => same
        intro _
        exact .unchanged _ rfl rfl (by simp)

theorem clearManualReset_entryStep
    {failsafe : FailsafeTable} {outputId : UInt16} {entry : FailsafeEntry}
    (found : failsafeFind failsafe outputId = some entry)
    (rearmed : UInt16) :
    ∃ after,
      failsafeFind (failsafe.call (.clearManualReset rearmed)).1 outputId =
          some after ∧
      EntryStep outputId (.clearManualReset rearmed) entry after := by
  rw [FailsafeTable.call, failsafeClearManualReset]
  cases hit : failsafeFind failsafe rearmed with
  | none =>
      refine ⟨entry, found, .unchanged entry rfl rfl ?_⟩
      intro isRearmed
      cases isRearmed
      rw [found] at hit
      cases hit
  | some target =>
      refine update_entryStep found (by intro; rfl) ?_ ?_
      · intro _
        exact .cleared _ rfl rfl
      · intro different
        refine .unchanged entry rfl rfl ?_
        intro isRearmed
        cases isRearmed
        exact different rfl

theorem call_entryStep
    {failsafe : FailsafeTable} {outputId : UInt16} {entry : FailsafeEntry}
    (found : failsafeFind failsafe outputId = some entry)
    (action : FailsafeCall) :
    ∃ after,
      failsafeFind (failsafe.call action).1 outputId = some after ∧
      EntryStep outputId action entry after := by
  cases action with
  | setOutputPolicy request outcome =>
      exact setOutputPolicy_entryStep found request outcome
  | applyForReason applied reason store =>
      rcases failsafeApplyForReason_entry found applied reason store with
        ⟨after, foundAfter, policy, same | ⟨latched, enabled, isOutput⟩⟩
      · exact ⟨after, foundAfter, .unchanged after policy same (by simp)⟩
      · exact ⟨after, foundAfter,
          .faulted after policy latched enabled isOutput⟩
  | applyForReasonAll reason store =>
      rcases applyReason_foldl_entry reason
          (failsafe.entries.keys FailsafeEntry.outputId)
          (show failsafeFind (failsafe, store).1 outputId = _ from found)
        with
        ⟨after, foundAfter, policy, same | ⟨latched, enabled⟩⟩
      · exact ⟨after, foundAfter, .unchanged after policy same (by simp)⟩
      · exact ⟨after, foundAfter, .faulted after policy latched enabled trivial⟩
  | startupValue started restoredValue =>
      exact startupValue_entryStep found started restoredValue
  | guardCommand commanded requestedValue =>
      exact guardCommand_entryStep found commanded requestedValue
  | clearManualReset rearmed => exact clearManualReset_entryStep found rearmed

/-! ## Whole histories -/

/-- Every output of the device has an entry, and a latch that is set blocks
commands. -/
def LatchesBlock (failsafe : FailsafeTable) : Prop :=
  ∀ outputId ∈ outputProfile,
    ∃ entry,
      failsafeFind failsafe outputId = some entry ∧
      (entry.active ≠ 0 → entry.Blocks)

theorem failsafeInit_latchesBlock
    (reset : ResetReason) (nvs : Option (List UInt8))
    (outcome : NvsOutcome) :
    LatchesBlock (failsafeInit reset nvs outcome).failsafe := by
  intro outputId member
  rw [failsafeInit_failsafe]
  have complete := failsafeLoad_complete reset nvs
  have fresh := failsafeLoad_fresh reset nvs
  rw [← complete.keys] at member
  rcases List.mem_map.mp member with ⟨entry, inTable, rfl⟩
  refine
    ⟨entry, KeyedTable.find?_of_mem complete.onDevice.different inTable, ?_⟩
  rw [fresh entry inTable]
  intro active
  exact absurd rfl active

variable {action : FailsafeCall}

/-- A call that takes manual recovery from no latched output keeps latches
blocking. -/
theorem call_latchesBlock
    {failsafe : FailsafeTable} (blocks : LatchesBlock failsafe)
    (keeps : ¬ action.Unlatches failsafe) :
    LatchesBlock (failsafe.call action).1 := by
  intro outputId member
  rcases blocks outputId member with ⟨entry, found, latchBlocks⟩
  rcases call_entryStep found action with ⟨after, foundAfter, step⟩
  refine ⟨after, foundAfter, ?_⟩
  intro active
  cases step with
  | unchanged policy same _ =>
      rw [same] at active
      rw [FailsafeEntry.Blocks, policy, same]
      exact latchBlocks active
  | faulted policy latched enabled _ =>
      rw [latched, FailsafeEntry.latches] at active
      split at active
      · next manual =>
          rw [FailsafeEntry.Blocks, policy, latched, FailsafeEntry.latches,
            if_pos manual]
          exact ⟨enabled, active, manual⟩
      · exact absurd rfl active
  | cleared _ cleared => exact absurd cleared active
  | policyChanged request outcome isRequest isOutput valid change =>
      subst isRequest change
      rw [PolicyRequest.change] at active
      split at active
      · next enabled =>
          have latched : entry.active ≠ 0 := active
          have isActive :
              failsafeIsActive failsafe request.outputId = true := by
            rw [failsafeIsActive, isOutput, found]
            exact decide_eq_true latched
          have manual : request.recoveryMode = recoveryManual := by
            by_contra notManual
            exact keeps ⟨valid, enabled, notManual, isActive⟩
          rw [FailsafeEntry.Blocks, PolicyRequest.change, if_pos enabled]
          exact ⟨by simp [PolicyRequest.applyTo, enabled], latched, manual⟩
      · exact absurd rfl active

/-- The reported status is the behaviour of the guard, for every output. -/
def StatusMatchesGuard (failsafe : FailsafeTable) : Prop :=
  ∀ outputId ∈ outputProfile,
    failsafeIsActive failsafe outputId = true ↔
    ∀ requestedValue,
      (failsafeGuardCommand failsafe outputId requestedValue).1.allowed = false

theorem guard_refuses_iff
    {failsafe : FailsafeTable} {outputId : UInt16} {entry : FailsafeEntry}
    (found : failsafeFind failsafe outputId = some entry) :
    (∀ requestedValue,
        (failsafeGuardCommand failsafe outputId
          requestedValue).1.allowed = false) ↔
      entry.Blocks := by
  constructor
  · intro refuses
    by_contra free
    have allowed := refuses 0
    simp only [failsafeGuardCommand, found, if_neg free] at allowed
    cases allowed
  · intro blocks requestedValue
    exact (failsafeGuardCommand_latched ⟨entry, found, blocks⟩ requestedValue).1

theorem LatchesBlock.statusMatchesGuard
    {failsafe : FailsafeTable} (blocks : LatchesBlock failsafe) :
    StatusMatchesGuard failsafe := by
  intro outputId member
  rcases blocks outputId member with ⟨entry, found, latchBlocks⟩
  rw [guard_refuses_iff found, failsafeIsActive, found]
  constructor
  · intro active
    exact latchBlocks (of_decide_eq_true active)
  · intro blocked
    exact decide_eq_true blocked.2.1

/-- A fault or boot action was applied to the output under an enabled manual
policy, and since then the output stayed blocked and was not rearmed. -/
def BlockedSince (start : FailsafeTable) (calls : List FailsafeCall)
    (outputId : UInt16) : Prop :=
  ∃ earlier action later,
    calls = earlier ++ action :: later ∧ action.AppliesTo outputId ∧
    (∃ entry,
      failsafeFind (Run.final FailsafeTable.call start earlier) outputId =
        some entry ∧
      entry.policy.enabled ≠ 0 ∧
      entry.policy.recoveryMode = recoveryManual) ∧
    (∀ middle,
      middle <+: later →
      Latched
        (Run.final FailsafeTable.call start (earlier ++ action :: middle))
        outputId) ∧
    .clearManualReset outputId ∉ later

/-- Status and guard agree after the calls, and every blocked output has the
fault that blocked it. -/
structure StatusAgrees (start : FailsafeTable)
    (calls : List FailsafeCall) : Prop where
  status : StatusMatchesGuard (Run.final FailsafeTable.call start calls)
  cause :
    ∀ outputId ∈ outputProfile,
      (∀ requestedValue,
        (failsafeGuardCommand
          (Run.final FailsafeTable.call start calls) outputId
          requestedValue).1.allowed = false) →
        BlockedSince start calls outputId

theorem call_latches
    {failsafe : FailsafeTable} {outputId : UInt16} {entry : FailsafeEntry}
    (found : failsafeFind failsafe outputId = some entry)
    (latchBlocks : entry.active ≠ 0 → entry.Blocks)
    (latched : Latched (failsafe.call action).1 outputId) :
    (entry.Blocks ∧ action ≠ .clearManualReset outputId) ∨
    (action.AppliesTo outputId ∧ entry.policy.enabled ≠ 0 ∧
    entry.policy.recoveryMode = recoveryManual) := by
  rcases latched with ⟨after, foundAfter, enabledAfter, active, manualAfter⟩
  rcases call_entryStep found action with ⟨stepped, foundStepped, step⟩
  rw [foundAfter] at foundStepped
  cases Option.some.inj foundStepped
  cases step with
  | unchanged policy same notRearmed =>
      rw [same] at active
      exact Or.inl ⟨latchBlocks active, notRearmed⟩
  | faulted policy _ enabled applies =>
      rw [policy] at manualAfter
      exact Or.inr ⟨applies, enabled, manualAfter⟩
  | cleared _ cleared => exact absurd cleared active
  | policyChanged request outcome isRequest isOutput valid change =>
      subst isRequest change
      rw [PolicyRequest.change] at active
      split at active
      · exact Or.inl ⟨latchBlocks active, by simp⟩
      · exact absurd rfl active

theorem BlockedSince.extend
    {start : FailsafeTable} {calls : List FailsafeCall} {outputId : UInt16}
    (since : BlockedSince start calls outputId)
    (latched :
      Latched (Run.final FailsafeTable.call start (calls ++ [action])) outputId)
    (notRearmed : action ≠ .clearManualReset outputId) :
    BlockedSince start (calls ++ [action]) outputId := by
  rcases since with
    ⟨earlier, cause, later, rfl, applies, manual, stayed, kept⟩
  refine ⟨earlier, cause, later ++ [action], by simp, applies, manual, ?_, ?_⟩
  · intro middle isPrefix
    rcases List.prefix_concat_iff.mp isPrefix with whole | shorter
    · rw [whole]
      simpa using latched
    · exact stayed middle shorter
  · intro member
    rcases List.mem_append.mp member with earlierMember | isAction
    · exact kept earlierMember
    · exact notRearmed (List.mem_singleton.mp isAction).symm

/-- In a history in which no call takes manual recovery from a latched output,
every latch blocks and has its cause. -/
theorem run_latchesBlock
    {start : FailsafeTable} (blocks : LatchesBlock start)
    (unlatched : ∀ outputId, ¬ Latched start outputId)
    (calls : List FailsafeCall)
    (keeps :
      ∀ transition ∈ Run.history FailsafeTable.call start calls,
        ¬ transition.action.Unlatches transition.before) :
    LatchesBlock (Run.final FailsafeTable.call start calls) ∧
    ∀ outputId ∈ outputProfile,
      Latched (Run.final FailsafeTable.call start calls) outputId →
      BlockedSince start calls outputId := by
  induction calls using List.reverseRecOn with
  | nil => exact ⟨blocks, fun outputId _ latched => absurd latched (unlatched _)⟩
  | append_singleton earlier action induction =>
      rw [Run.history_snoc] at keeps
      rcases induction fun transition member =>
          keeps transition (List.mem_append_left _ member) with
        ⟨blocksBefore, causes⟩
      have keepsHere :=
        keeps _ (List.mem_append_right _ (List.mem_singleton_self _))
      rw [Run.final_snoc]
      refine ⟨call_latchesBlock blocksBefore keepsHere, ?_⟩
      intro outputId member latched
      rcases blocksBefore outputId member with ⟨entry, found, latchBlocks⟩
      rcases call_latches found latchBlocks latched with
        ⟨blocked, notRearmed⟩ | ⟨applies, enabled, manual⟩
      · refine (causes outputId member ⟨entry, found, blocked⟩).extend ?_
          notRearmed
        rw [Run.final_snoc]
        exact latched
      · refine
          ⟨earlier, action, [], rfl, applies,
            ⟨entry, found, enabled, manual⟩, ?_, List.not_mem_nil⟩
        intro middle isPrefix
        rw [List.prefix_nil.mp isPrefix, Run.final_snoc]
        exact latched

theorem failsafeInit_not_latched
    (reset : ResetReason) (nvs : Option (List UInt8))
    (outcome : NvsOutcome) (outputId : UInt16) :
    ¬ Latched (failsafeInit reset nvs outcome).failsafe outputId := by
  rw [failsafeInit_failsafe]
  rintro ⟨entry, found, -, active, -⟩
  rw [failsafeLoad_fresh reset nvs entry (List.mem_of_find?_eq_some found)]
    at active
  exact active rfl

/--
From every boot, in every history in which no valid request leaves a latched
output enabled without manual recovery, the reported status and the guard
agree, and every blocked output was blocked by a fault or boot action under a
manual policy that is still in force, without having been rearmed.
-/
theorem status_agrees
    (reset : ResetReason) (nvs : Option (List UInt8))
    (outcome : NvsOutcome) (calls : List FailsafeCall)
    (keeps :
      ∀ transition ∈
        Run.history FailsafeTable.call
          (failsafeInit reset nvs outcome).failsafe calls,
        ¬ transition.action.Unlatches transition.before) :
    StatusAgrees (failsafeInit reset nvs outcome).failsafe calls := by
  rcases run_latchesBlock (failsafeInit_latchesBlock reset nvs outcome)
      (failsafeInit_not_latched reset nvs outcome) calls keeps with
    ⟨blocks, causes⟩
  refine ⟨blocks.statusMatchesGuard, ?_⟩
  intro outputId member refuses
  rcases blocks outputId member with ⟨entry, found, -⟩
  exact causes outputId member
    ⟨entry, found, (guard_refuses_iff found).mp refuses⟩

def latchedByCommLoss : List FailsafeCall :=
  [.setOutputPolicy holdLatched .committed,
    .applyForReason 100 .commLoss stateInit]

/-- Status and guard agree while the policy stays manual. -/
theorem latchedByCommLoss_agrees :
    StatusAgrees (failsafeInit .other none .committed).failsafe
      latchedByCommLoss := by
  refine status_agrees .other none .committed latchedByCommLoss ?_
  intro transition member
  rcases List.mem_cons.mp member with rfl | member
  · rintro ⟨-, -, notManual, -⟩
    exact notManual rfl
  · rw [List.mem_singleton.mp member]
    exact fun unlatches => unlatches

/-- Taking manual recovery from the latched output leaves it reported as
active while its commands pass. -/
theorem automatic_recovery_leaves_status_active :
    ¬ StatusAgrees (failsafeInit .other none .committed).failsafe
      (latchedByCommLoss ++
        [.setOutputPolicy
          { holdLatched with recoveryMode := recoveryAuto }
          .committed]) := by
  intro agrees
  have refuses := (agrees.status 100 (by decide)).mp (by decide +kernel)
  exact absurd (refuses 0) (by decide +kernel)

end Endap.Failsafe
