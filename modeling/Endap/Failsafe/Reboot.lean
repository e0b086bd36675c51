import Endap.Failsafe.Storage

/-!
# Policies survive a reboot

A policy that was set successfully is in storage: either the record was
written after the change, or the change was none.  Booting from the record
gives every output the policy it had, with its latch cleared.

The record is compared with the table through loading.  What loading makes of
a record does not depend on the reason of the boot, and loading a record that
was just written lays every policy over the factory policy of its own output.
-/

namespace Endap.Failsafe

open Endap.Device
open Endap.Library
open Endap.State

/-! ## Setting policies -/

/-- The request asks for another policy than the present one. -/
def PolicyRequest.Changes
    (request : PolicyRequest) (failsafe : FailsafeTable) : Prop :=
  ∃ entry ∈ failsafeFind failsafe request.outputId,
    request.Valid ∧ request.applyTo entry.policy ≠ entry.policy

instance (request : PolicyRequest) (failsafe : FailsafeTable) :
    Decidable (request.Changes failsafe) :=
  inferInstanceAs (Decidable (∃ _ ∈ _, _))

/-- `failsafe_set_output_policy` with the record that `failsafe_save`
writes. -/
def FailsafeWorld.setOutputPolicy
    (world : FailsafeWorld) (request : PolicyRequest)
    (outcome : NvsOutcome) : FailsafeWorld × Bool :=
  let result := failsafeSetOutputPolicy world.failsafe request outcome
  ({ failsafe := result.2
     nvs :=
      if request.Changes world.failsafe then
        nvsWrite outcome world.nvs (some (failsafeSave result.2))
      else world.nvs },
    result.1)

/-- The arguments of `failsafe_set_policy`. -/
structure ModeRequest where
  outputId : UInt16
  startupMode : UInt8
  commLossMode : UInt8
  safeValue : Int32
  manualRearm : Bool

/-- The request that `failsafe_set_policy` passes on. -/
def ModeRequest.policyRequest
    (request : ModeRequest) (failsafe : FailsafeTable) : PolicyRequest where
  outputId := request.outputId
  enabled := true
  bootAction := request.startupMode
  commLossAction := request.commLossMode
  runtimeFaultAction :=
    match failsafeFind failsafe request.outputId with
    | some entry => entry.policy.runtimeFaultAction
    | none => actionForceOff
  safeValue := request.safeValue
  recoveryMode := if request.manualRearm then recoveryManual else recoveryAuto

/-- The calls that set policies, each with the outcome of its write. -/
inductive PolicyCall where
  | setOutputPolicy (request : PolicyRequest) (outcome : NvsOutcome)
  | setPolicy (request : ModeRequest) (outcome : NvsOutcome)

/-- One call and whether it reports success. -/
def FailsafeWorld.call (world : FailsafeWorld) :
    PolicyCall → FailsafeWorld × Bool
  | .setOutputPolicy request outcome =>
      world.setOutputPolicy request outcome
  | .setPolicy request outcome =>
      world.setOutputPolicy (request.policyRequest world.failsafe) outcome

/-- What a request makes of an entry. -/
def PolicyRequest.change
    (request : PolicyRequest) (stored : FailsafeEntry) : FailsafeEntry :=
  if request.enabled then
    { stored with policy := request.applyTo stored.policy }
  else
    { stored with
      policy := request.applyTo stored.policy
      active := 0
      lastReason := .none }

theorem change_policy (request : PolicyRequest) (stored : FailsafeEntry) :
    (request.change stored).policy = request.applyTo stored.policy := by
  rw [PolicyRequest.change]
  split
  · rfl
  · rfl

/-- A request changes nothing, or it is valid and changes the entry of its
output. -/
theorem failsafeSetOutputPolicy_cases
    (failsafe : FailsafeTable) (request : PolicyRequest)
    (outcome : NvsOutcome) :
    (¬ request.Changes failsafe ∧
        (failsafeSetOutputPolicy failsafe request outcome).2 = failsafe) ∨
      (request.Changes failsafe ∧ request.Valid ∧
      failsafeSetOutputPolicy failsafe request outcome =
        (outcome.succeeds,
          failsafe.update request.outputId request.change)) := by
  rw [failsafeSetOutputPolicy]
  cases found : failsafeFind failsafe request.outputId with
  | none =>
      refine Or.inl ⟨?_, rfl⟩
      rintro ⟨entry, isEntry, -⟩
      rw [found] at isEntry
      cases isEntry
  | some entry =>
      by_cases valid : request.Valid
      · by_cases same : request.applyTo entry.policy = entry.policy
        · refine Or.inl ⟨?_, by simp [valid, same]⟩
          rintro ⟨other, isOther, -, differs⟩
          rw [found] at isOther
          cases isOther
          exact differs same
        · refine Or.inr ⟨⟨entry, found, valid, same⟩, valid, ?_⟩
          simp only [valid, same, not_true_eq_false, if_false]
          rfl
      · refine Or.inl ⟨?_, by simp [valid]⟩
        rintro ⟨-, -, isValid, -⟩
        exact valid isValid

/-! ## Loading -/

/-- What loading one policy does: nothing, or it replaces the entry of a known
output by a valid policy. -/
theorem failsafeApplyLoadedPolicy_cases
    (failsafe : FailsafeTable) (policy : FailsafePolicy) :
    failsafeApplyLoadedPolicy failsafe policy = (false, failsafe) ∨
    (policy.Valid ∧
    failsafeApplyLoadedPolicy failsafe policy =
      (true,
        failsafe.update policy.outputId fun _ =>
          policy.normal.loaded)) := by
  rw [failsafeApplyLoadedPolicy]
  split
  · exact Or.inl rfl
  · split
    · exact Or.inl rfl
    · next valid =>
        have valid := Decidable.not_not.mp valid
        split
        · exact Or.inl rfl
        · exact Or.inr ⟨valid, rfl⟩

/-- Loading never depends on the reason of the boot. -/
def FailsafeTable.bootedFor
    (failsafe : FailsafeTable) (reason : FailsafeReason) : FailsafeTable :=
  { failsafe with bootReason := reason }

theorem failsafeApplyLoadedPolicy_bootedFor
    (failsafe : FailsafeTable) (reason : FailsafeReason)
    (policy : FailsafePolicy) :
    failsafeApplyLoadedPolicy (failsafe.bootedFor reason) policy =
      ((failsafeApplyLoadedPolicy failsafe policy).1,
        (failsafeApplyLoadedPolicy failsafe policy).2.bootedFor reason) := by
  have sameFind :
      failsafeFind (failsafe.bootedFor reason) policy.outputId =
        failsafeFind failsafe policy.outputId :=
    rfl
  rw [failsafeApplyLoadedPolicy, failsafeApplyLoadedPolicy, sameFind]
  split
  · rfl
  · split
    · rfl
    · split
      · rfl
      · rfl

theorem failsafeApplyLoadedPolicyV1_bootedFor
    (failsafe : FailsafeTable) (reason : FailsafeReason)
    (policy : FailsafePolicyV1) :
    failsafeApplyLoadedPolicyV1 (failsafe.bootedFor reason) policy =
      ((failsafeApplyLoadedPolicyV1 failsafe policy).1,
        (failsafeApplyLoadedPolicyV1 failsafe policy).2.bootedFor
          reason) := by
  rw [failsafeApplyLoadedPolicyV1, failsafeApplyLoadedPolicyV1]
  split
  · rfl
  · exact failsafeApplyLoadedPolicy_bootedFor failsafe reason _

section

variable {Policy : Type} {apply : FailsafeTable → Policy → Bool × FailsafeTable}

theorem applyLoaded_bootedFor
    {reason : FailsafeReason}
    (independent :
      ∀ failsafe policy,
        apply (failsafe.bootedFor reason) policy =
          ((apply failsafe policy).1,
            (apply failsafe policy).2.bootedFor reason))
    (policies : List Policy) (failsafe : FailsafeTable) :
    applyLoaded apply policies (failsafe.bootedFor reason) =
      ((applyLoaded apply policies failsafe).1,
        (applyLoaded apply policies failsafe).2.bootedFor reason) := by
  rw [applyLoaded, applyLoaded]
  generalize false = done
  induction policies generalizing done failsafe with
  | nil => rfl
  | cons policy rest induction =>
      rw [List.foldl_cons, List.foldl_cons, independent]
      exact induction _ _

theorem applyLoaded_invariant
    (invariant : FailsafeTable → Prop)
    (kept :
      ∀ failsafe policy,
        invariant failsafe → invariant (apply failsafe policy).2)
    (policies : List Policy) {failsafe : FailsafeTable}
    (holds : invariant failsafe) :
    invariant (applyLoaded apply policies failsafe).2 := by
  rw [applyLoaded]
  generalize false = done
  induction policies generalizing done failsafe with
  | nil => exact holds
  | cons policy rest induction =>
      exact induction (kept failsafe policy holds) _

end

theorem failsafeLoad_bootedFor
    (failsafe : FailsafeTable) (reason : FailsafeReason)
    (nvs : Option (List UInt8)) :
    failsafeLoad (failsafe.bootedFor reason) nvs =
      ((failsafeLoad failsafe nvs).1,
        (failsafeLoad failsafe nvs).2.bootedFor reason) := by
  cases nvs with
  | none => rfl
  | some bytes =>
      simp only [failsafeLoad, loadBlob]
      split
      · split
        · exact applyLoaded_bootedFor
            (fun failsafe policy =>
              failsafeApplyLoadedPolicy_bootedFor failsafe reason policy)
            _ failsafe
        · rfl
      · split
        · split
          · exact applyLoaded_bootedFor
              (fun failsafe policy =>
                failsafeApplyLoadedPolicyV1_bootedFor failsafe reason policy)
              _ failsafe
          · rfl
        · rfl

theorem failsafeLoad_entries
    (first second : ResetReason) (nvs : Option (List UInt8)) :
    (failsafeLoad (failsafeDefaults first) nvs).2.entries =
      (failsafeLoad (failsafeDefaults second) nvs).2.entries := by
  have same :
      failsafeDefaults first =
        (failsafeDefaults second).bootedFor (failsafeDetectBootReason first) :=
    rfl
  rw [same, failsafeLoad_bootedFor]
  rfl

variable {failsafe : FailsafeTable}

theorem failsafeLoad_invariant
    (invariant : FailsafeTable → Prop)
    (kept :
      ∀ failsafe policy,
        invariant failsafe →
        invariant (failsafeApplyLoadedPolicy failsafe policy).2)
    (holds : invariant failsafe)
    (nvs : Option (List UInt8)) :
    invariant (failsafeLoad failsafe nvs).2 := by
  have keptV1 :
      ∀ failsafe policy,
        invariant failsafe →
        invariant (failsafeApplyLoadedPolicyV1 failsafe policy).2 := by
    intro failsafe policy holds
    rw [failsafeApplyLoadedPolicyV1]
    split
    · exact holds
    · exact kept failsafe _ holds
  cases nvs with
  | none => exact holds
  | some bytes =>
      simp only [failsafeLoad, loadBlob]
      split
      · split
        · exact applyLoaded_invariant invariant kept _ holds
        · exact holds
      · split
        · split
          · exact applyLoaded_invariant invariant keptV1 _ holds
          · exact holds
        · exact holds

/-! ## Tables as the device keeps them -/

/-- A policy that loading takes over unchanged. -/
def FailsafePolicy.Storable (policy : FailsafePolicy) : Prop :=
  policy.Valid ∧ policy.normal = policy

/-- The table has one storable policy for each output of the device. -/
structure FailsafeTable.Complete (failsafe : FailsafeTable) : Prop where
  keys : failsafe.entries.keys FailsafeEntry.outputId = outputProfile
  storable : ∀ entry ∈ failsafe.entries.entries, entry.policy.Storable

theorem FailsafeTable.Complete.onDevice
    (complete : failsafe.Complete) :
    failsafe.OnDevice where
  different := by
    rw [complete.keys]
    exact outputProfile_nodup
  within := by
    rw [complete.keys]
    exact List.Subset.refl _

theorem update_complete
    (complete : failsafe.Complete)
    {outputId : UInt16} {change : FailsafeEntry → FailsafeEntry}
    (sameOutput :
      ∀ entry, entry.outputId = outputId → (change entry).outputId = outputId)
    (storable :
      ∀ entry ∈ failsafe.entries.entries,
        entry.outputId = outputId → (change entry).policy.Storable) :
    (failsafe.update outputId change).Complete where
  keys := (KeyedTable.keys_modify outputId sameOutput).trans complete.keys
  storable := by
    intro entry member
    rcases KeyedTable.mem_modifyFirst member with
      old | ⟨old, wasThere, isOutput, rfl⟩
    · exact complete.storable entry old
    · exact storable old wasThere (by simpa using isOutput)

theorem normal_storable {policy : FailsafePolicy} (valid : policy.Valid) :
    policy.normal.Storable := by
  refine ⟨valid, ?_⟩
  rw [FailsafePolicy.normal, FailsafePolicy.normal]
  simp only [failsafeBinaryValue_idem]
  by_cases disabled : policy.enabled = 0
  · simp [disabled]
  · simp [disabled]

theorem applyTo_storable
    {request : PolicyRequest} (valid : request.Valid)
    (policy : FailsafePolicy) : (request.applyTo policy).Storable := by
  refine ⟨valid, ?_⟩
  rw [FailsafePolicy.normal, PolicyRequest.applyTo]
  simp only [failsafeBinaryValue_idem]
  cases request.enabled <;> rfl

theorem failsafeDefaults_complete (reset : ResetReason) :
    (failsafeDefaults reset).Complete where
  keys := failsafeDefaults_keys reset
  storable := by
    intro entry member
    rw [failsafeDefaults_entries] at member
    rcases List.mem_map.mp member with ⟨outputId, -, rfl⟩
    have action : FailsafeActionValid actionForceOff := by decide
    have recovery : FailsafeRecoveryValid recoveryAuto := by decide
    exact ⟨⟨action, action, action, recovery⟩, rfl⟩

theorem failsafeApplyLoadedPolicy_complete
    (complete : failsafe.Complete)
    (policy : FailsafePolicy) :
    (failsafeApplyLoadedPolicy failsafe policy).2.Complete := by
  rcases failsafeApplyLoadedPolicy_cases failsafe policy with
    same | ⟨valid, applied⟩
  · rw [same]
    exact complete
  · rw [applied]
    exact update_complete complete (fun _ _ => rfl)
      (fun _ _ _ => normal_storable valid)

theorem failsafeLoad_complete
    (reset : ResetReason) (nvs : Option (List UInt8)) :
    (failsafeLoad (failsafeDefaults reset) nvs).2.Complete :=
  failsafeLoad_invariant FailsafeTable.Complete
    (fun _ policy complete =>
      failsafeApplyLoadedPolicy_complete complete policy)
    (failsafeDefaults_complete reset) nvs

/-- The latch is open and nothing was applied since the boot. -/
def FailsafeTable.Fresh (failsafe : FailsafeTable) : Prop :=
  ∀ entry ∈ failsafe.entries.entries, entry = entry.policy.loaded

theorem failsafeLoad_fresh
    (reset : ResetReason) (nvs : Option (List UInt8)) :
    (failsafeLoad (failsafeDefaults reset) nvs).2.Fresh := by
  refine failsafeLoad_invariant FailsafeTable.Fresh ?_ ?_ nvs
  · intro failsafe policy fresh
    rcases failsafeApplyLoadedPolicy_cases failsafe policy with
      same | ⟨-, applied⟩
    · rw [same]
      exact fresh
    · rw [applied]
      intro entry member
      rcases KeyedTable.mem_modifyFirst member with old | ⟨-, -, -, rfl⟩
      · exact fresh entry old
      · rfl
  · intro entry member
    rw [failsafeDefaults_entries] at member
    rcases List.mem_map.mp member with ⟨outputId, -, rfl⟩
    rfl

/-! ## Loading what was saved -/

theorem failsafeApplyLoadedPolicy_at
    {before after : List FailsafeEntry}
    {entry : FailsafeEntry} {policy : FailsafePolicy}
    (entries : failsafe.entries.entries = before ++ entry :: after)
    (isEntry : entry.outputId = policy.outputId)
    (notBefore : ∀ other ∈ before, other.outputId ≠ policy.outputId)
    (isOutput : policy.outputId ∈ outputProfile)
    (storable : policy.Storable) :
    (failsafeApplyLoadedPolicy failsafe policy).1 = true ∧
    (failsafeApplyLoadedPolicy failsafe policy).2.entries.entries =
      before ++ policy.loaded :: after := by
  have present : (failsafeFind failsafe policy.outputId).isSome := by
    rw [failsafeFind, KeyedTable.find?, entries, List.find?_isSome]
    exact ⟨entry, by simp, by simpa using isEntry⟩
  rcases Option.isSome_iff_exists.mp present with ⟨found, isFound⟩
  have applied :
      failsafeApplyLoadedPolicy failsafe policy =
        (true,
          failsafe.update policy.outputId fun _ => policy.loaded) := by
    rw [failsafeApplyLoadedPolicy, isFound]
    simp [deviceProfileIsValidOutput, isOutput, storable.1, storable.2]
  refine ⟨congrArg Prod.fst applied, ?_⟩
  rw [applied]
  show KeyedTable.modifyFirst _ _ failsafe.entries.entries = _
  rw [entries]
  refine KeyedTable.modifyFirst_around _ ?_ (by simpa using isEntry) after
  intro other member
  simpa using notBefore other member

theorem applyLoaded_all
    (policies : List FailsafePolicy) (before after : List FailsafeEntry)
    {done : Bool}
    (entries : failsafe.entries.entries = before ++ after)
    (sameOutputs :
      after.map FailsafeEntry.outputId = policies.map FailsafePolicy.outputId)
    (different :
      (before.map FailsafeEntry.outputId ++
        policies.map FailsafePolicy.outputId).Nodup)
    (outputs : ∀ policy ∈ policies, policy.outputId ∈ outputProfile)
    (storable : ∀ policy ∈ policies, policy.Storable) :
    (policies.foldl
        (fun done policy =>
          let applied := failsafeApplyLoadedPolicy done.2 policy
          (applied.1 || done.1, applied.2))
        (done, failsafe)).2.entries.entries =
      before ++ policies.map FailsafePolicy.loaded := by
  induction policies generalizing before after done failsafe with
  | nil =>
      rw [List.map_nil, List.map_eq_nil_iff] at sameOutputs
      rw [sameOutputs] at entries
      exact entries
  | cons policy rest induction =>
      cases after with
      | nil => cases sameOutputs
      | cons entry after =>
          rcases List.cons.inj sameOutputs with ⟨isEntry, sameRest⟩
          have notBefore :
              ∀ other ∈ before, other.outputId ≠ policy.outputId := by
            intro other member same
            refine (List.disjoint_of_nodup_append different)
              (List.mem_map_of_mem member) ?_
            rw [same]
            exact List.mem_cons_self ..
          have placed :=
            failsafeApplyLoadedPolicy_at entries isEntry notBefore
              (outputs policy (List.mem_cons_self ..))
              (storable policy (List.mem_cons_self ..))
          have moved :
              ((before ++ [policy.loaded]).map FailsafeEntry.outputId ++
                rest.map FailsafePolicy.outputId).Nodup := by
            simpa [FailsafePolicy.loaded, FailsafeEntry.outputId] using
              different
          rw [List.foldl_cons, induction (before ++ [policy.loaded]) after
            (by simpa using placed.2) sameRest moved
            (fun other member =>
              outputs other (List.mem_cons_of_mem _ member))
            (fun other member =>
              storable other (List.mem_cons_of_mem _ member))]
          simp

theorem outputProfile_length : outputProfile.length = failsafeMaxOutputs := rfl

theorem FailsafeTable.Complete.length
    (complete : failsafe.Complete) :
    failsafe.entries.entries.length = failsafeMaxOutputs := by
  have lengths := congrArg List.length complete.keys
  rw [KeyedTable.keys, List.length_map] at lengths
  exact lengths.trans outputProfile_length

theorem listed_failsafeBlobOf
    (complete : failsafe.Complete) :
    (failsafeBlobOf failsafe).listed =
      failsafe.entries.entries.map FailsafeEntry.policy := by
  have length :
      (failsafe.entries.entries.map FailsafeEntry.policy).length =
        failsafeMaxOutputs := by
    rw [List.length_map, complete.length]
  have count :
      (failsafeBlobOf failsafe).count.toNat =
        (failsafe.entries.entries.map FailsafeEntry.policy).length := by
    rw [length]
    show (UInt16.ofNat failsafe.entries.entries.length).toNat = _
    rw [complete.length]
    rfl
  have copied :
      (failsafeBlobOf failsafe).policies = fun index =>
        (failsafe.entries.entries.map
          FailsafeEntry.policy)[index.val]?.getD FailsafePolicy.zero := by
    funext index
    rw [List.getElem?_map]
    rfl
  rw [FailsafeBlob.listed, count, copied]
  exact Layout.take_ofFn_getD _ _ (Nat.le_of_eq length)

theorem failsafeLoad_failsafeSave
    (complete : failsafe.Complete)
    (reset : ResetReason) :
    (failsafeLoad (failsafeDefaults reset)
        (some (failsafeSave failsafe))).2.entries.entries =
      failsafe.entries.entries.map fun entry => entry.policy.loaded := by
  have read :
      (failsafeBlobLayout failsafePolicyLayout).read (failsafeSave failsafe) =
        failsafeBlobOf failsafe :=
    Layout.read_stamp _ _ _
  have size :
      (failsafeSave failsafe).length =
        (failsafeBlobLayout failsafePolicyLayout).stampedSize :=
    Layout.stamp_length _ _ _
  have accepted :
      BlobAccepted failsafePolicyLayout failsafeVersion
        (failsafeSave failsafe) := by
    rw [BlobAccepted, read]
    refine ⟨rfl, rfl, ?_, Layout.intact_stamp _ _ _⟩
    show (UInt16.ofNat failsafe.entries.entries.length).toNat ≤ _
    rw [complete.length]
    exact Nat.le_refl _
  have keys := complete.keys
  rw [KeyedTable.keys] at keys
  have outputs :
      (failsafe.entries.entries.map FailsafeEntry.policy).map
          FailsafePolicy.outputId =
        outputProfile := by
    rw [List.map_map]
    exact keys
  simp only [failsafeLoad, size, if_true, loadBlob, if_pos accepted, read,
    listed_failsafeBlobOf complete, applyLoaded]
  rw [applyLoaded_all _ [] (failsafeDefaults reset).entries.entries]
  · rw [List.nil_append, List.map_map]
    rfl
  · rfl
  · rw [outputs]
    exact failsafeDefaults_keys reset
  · rw [outputs]
    exact outputProfile_nodup
  · intro policy member
    rw [← outputs]
    exact List.mem_map_of_mem member
  · intro policy member
    rcases List.mem_map.mp member with ⟨entry, inTable, rfl⟩
    exact complete.storable entry inTable

/-! ## Histories of policy changes -/

/-- The record in storage stands for the policies of the table. -/
structure Stored (world : FailsafeWorld) : Prop where
  complete : world.failsafe.Complete
  reload :
    ∀ reset,
      (failsafeLoad (failsafeDefaults reset) world.nvs).2.entries.entries =
        world.failsafe.entries.entries.map fun entry =>
          entry.policy.loaded

theorem failsafeInit_failsafe
    (reset : ResetReason) (nvs : Option (List UInt8))
    (outcome : NvsOutcome) :
    (failsafeInit reset nvs outcome).failsafe =
      (failsafeLoad (failsafeDefaults reset) nvs).2 := by
  rw [failsafeInit]
  split
  · rfl
  · rfl

/-- Storage holds the record it held before the boot, or the one that the boot
wrote. -/
theorem failsafeInit_nvs
    (reset : ResetReason) (nvs : Option (List UInt8))
    (outcome : NvsOutcome) :
    (failsafeInit reset nvs outcome).nvs = nvs ∨
    (failsafeInit reset nvs outcome).nvs =
      some
        (failsafeSave (failsafeInit reset nvs outcome).failsafe) := by
  rw [failsafeInit]
  split
  · exact Or.inl rfl
  · simp only [nvsWrite]
    split
    · exact Or.inr rfl
    · exact Or.inl rfl

theorem failsafeInit_stored
    (reset : ResetReason) (nvs : Option (List UInt8))
    (outcome : NvsOutcome) :
    Stored (failsafeInit reset nvs outcome) := by
  have complete : (failsafeInit reset nvs outcome).failsafe.Complete := by
    rw [failsafeInit_failsafe]
    exact failsafeLoad_complete reset nvs
  refine ⟨complete, ?_⟩
  intro again
  rcases failsafeInit_nvs reset nvs outcome with kept | written
  · have fresh := failsafeLoad_fresh reset nvs
    rw [kept, failsafeInit_failsafe, failsafeLoad_entries again reset]
    refine (List.map_id _).symm.trans (List.map_congr_left ?_)
    intro entry member
    exact fresh entry member
  · rw [written]
    exact failsafeLoad_failsafeSave complete again

theorem setOutputPolicy_stored
    {world : FailsafeWorld} (stored : Stored world)
    {request : PolicyRequest} {outcome : NvsOutcome}
    (success : (world.setOutputPolicy request outcome).2 = true) :
    Stored (world.setOutputPolicy request outcome).1 := by
  rw [FailsafeWorld.setOutputPolicy] at success ⊢
  rcases failsafeSetOutputPolicy_cases world.failsafe request outcome with
    ⟨unchanged, same⟩ | ⟨changes, valid, applied⟩
  · simp only [same, if_neg unchanged]
    exact stored
  · rw [applied] at success
    have complete :
        (world.failsafe.update request.outputId
          request.change).Complete := by
      refine update_complete stored.complete ?_ ?_
      · intro entry isOutput
        rw [FailsafeEntry.outputId, change_policy]
        exact isOutput
      · intro entry _ _
        rw [change_policy]
        exact applyTo_storable valid _
    simp only [applied, if_pos changes, nvsWrite_of_succeeds success]
    constructor
    · exact complete
    · intro reset
      dsimp only
      exact failsafeLoad_failsafeSave complete reset

theorem call_stored
    {world : FailsafeWorld} (stored : Stored world) {action : PolicyCall}
    (success : (world.call action).2 = true) :
    Stored (world.call action).1 := by
  cases action with
  | _ =>
      exact setOutputPolicy_stored stored success

theorem run_stored
    {start : FailsafeWorld} (stored : Stored start)
    (calls : List PolicyCall)
    (success :
      ∀ transition ∈ Run.history FailsafeWorld.call start calls,
        transition.output = true) :
    Stored (Run.final FailsafeWorld.call start calls) := by
  induction calls using List.reverseRecOn with
  | nil => exact stored
  | append_singleton earlier action induction =>
      rw [Run.history_snoc] at success
      rw [Run.final_snoc]
      refine call_stored (induction ?_) ?_
      · intro transition member
        exact success transition (List.mem_append_left _ member)
      · exact success _ (List.mem_append_right _ (List.mem_singleton_self _))

/--
Booting again after any successful changes of policy, from any record and
whatever the reasons of the two boots, gives every output the policy it had,
with its latch open.
-/
theorem policies_survive_reboot
    (firstReset secondReset : ResetReason) (nvs : Option (List UInt8))
    (firstOutcome secondOutcome : NvsOutcome) (calls : List PolicyCall)
    (success :
      ∀ transition ∈
        Run.history FailsafeWorld.call
          (failsafeInit firstReset nvs firstOutcome) calls,
        transition.output = true)
    (outputId : UInt16) :
    failsafeFind
        (failsafeInit secondReset
          (Run.final FailsafeWorld.call
            (failsafeInit firstReset nvs firstOutcome) calls).nvs
          secondOutcome).failsafe
        outputId =
      (failsafeFind
        (Run.final FailsafeWorld.call
          (failsafeInit firstReset nvs firstOutcome) calls).failsafe
        outputId).map fun entry => entry.policy.loaded := by
  have stored :=
    run_stored (failsafeInit_stored firstReset nvs firstOutcome) calls success
  rw [failsafeInit_failsafe, failsafeFind, KeyedTable.find?,
    stored.reload secondReset, List.find?_map]
  rfl

def holdLatched : PolicyRequest where
  outputId := 100
  enabled := true
  bootAction := actionHoldLast
  commLossAction := actionForceOff
  runtimeFaultAction := actionSafeValue
  safeValue := 7
  recoveryMode := recoveryManual

/-- The policy is there after a watchdog reset of a device that had none. -/
theorem holdLatched_survives :
    (failsafeFind
        (failsafeInit .watchdog
          (Run.final FailsafeWorld.call
            (failsafeInit .other none .writeFailed)
            [.setOutputPolicy holdLatched .committed]).nvs
          .openFailed).failsafe
        100).map FailsafeEntry.policy =
      some
        { outputId := 100, enabled := 1, bootAction := actionHoldLast,
          commLossAction := actionForceOff,
          runtimeFaultAction := actionSafeValue,
          recoveryMode := recoveryManual, reserved := 0,
          safeValue := 1 } := by
  rw [policies_survive_reboot .other .watchdog none .writeFailed .openFailed
    [.setOutputPolicy holdLatched .committed] (by simp [Run.history]; decide)
    100]
  decide

/-! ## Rejected changes -/

/-- What a policy change touches of an entry. -/
def FailsafeEntry.setting (entry : FailsafeEntry) :
    FailsafePolicy × UInt8 × FailsafeReason :=
  (entry.policy, entry.active, entry.lastReason)

/-- A call that returns false leaves every entry's policy, latch and last
reason as they were. -/
def RejectedUnchanged
    (failsafe : FailsafeTable) (result : Bool × FailsafeTable) : Prop :=
  result.1 = false →
  result.2.entries.entries.map FailsafeEntry.setting =
    failsafe.entries.entries.map FailsafeEntry.setting

/--
A rejected policy change leaves the table alone exactly if the change was not
rejected by storage.  The live entry is changed before it is saved, and a
change that cannot be saved is not taken back.
-/
theorem rejected_change_unchanged_iff
    (failsafe : FailsafeTable) (request : PolicyRequest)
    (outcome : NvsOutcome) :
    RejectedUnchanged failsafe
        (failsafeSetOutputPolicy failsafe request outcome) ↔
    (request.Changes failsafe → outcome.succeeds = true) := by
  rcases failsafeSetOutputPolicy_cases failsafe request outcome with
    ⟨unchanged, kept⟩ | ⟨changes, -, changed⟩
  · constructor
    · intro _ changes
      exact absurd changes unchanged
    · intro _ _
      rw [kept]
  · rw [changed]
    constructor
    · intro unchanged _
      by_contra failed
      rcases changes with ⟨entry, found, -, differs⟩
      have same :=
        KeyedTable.modifyFirst_map_eq FailsafeEntry.setting found
          (unchanged (Bool.eq_false_iff.mpr failed))
      have samePolicy := congrArg Prod.fst same
      exact differs ((change_policy request entry).symm.trans samePolicy)
    · intro saved failed
      exact absurd (saved changes) (Bool.eq_false_iff.mp failed)

/-- Output 100 has the policy that was asked for, although the namespace could
not be opened and the request was answered with false. -/
theorem holdLatched_rejected_changes :
    ¬ RejectedUnchanged (failsafeInit .other none .committed).failsafe
      (failsafeSetOutputPolicy
        (failsafeInit .other none .committed).failsafe holdLatched
        .openFailed) := by
  intro unchanged
  exact absurd (unchanged (by decide +kernel)) (by decide +kernel)

end Endap.Failsafe
