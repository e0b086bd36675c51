import Endap.Registry.Admissions
import Endap.Registry.Reload
import Mathlib.Data.List.Nodup

/-!
# The life of a node in the registry

A node is admitted by requests only.  Discovery never touches an admission,
and no state is lost but by revoking the node or by a replacement that it
takes part in: the old node leaves the table, and the new node takes the
state of the old one, whatever state it had.

The registry may start from an empty storage or from a record that it wrote
itself, before any number of reboots and failed writes.
-/

namespace Endap.Registry

open Endap.Cluster
open Endap.Library
open Endap.State

/-! ## What a call does to admissions -/

/-- The calls of discovery. -/
def RegistryAction.IsDiscovery : RegistryAction → Prop
  | .process .. => True
  | .noteTransport .. => True
  | .adopt .. => False
  | .configure .. => False
  | .activate .. => False
  | .revoke .. => False
  | .replace .. => False

/-- The requests that admit a node. -/
def RegistryAction.Admits (nodeId : UInt32) : RegistryAction → Prop
  | .process .. => False
  | .noteTransport .. => False
  | .adopt _ target _ => target = nodeId
  | .configure _ target _ _ _ => target = nodeId
  | .activate _ target _ => target = nodeId
  | .revoke .. => False
  | .replace _ newId _ => newId = nodeId

/-- The requests that may take a state from a node. -/
def RegistryAction.Lowers (nodeId : UInt32) : RegistryAction → Prop
  | .process .. => False
  | .noteTransport .. => False
  | .adopt .. => False
  | .configure .. => False
  | .activate .. => False
  | .revoke target _ => target = nodeId
  | .replace oldId newId _ => oldId = nodeId ∨ newId = nodeId

/-- The write of a replacement succeeds. -/
def RegistryAction.ReplaceWrites : RegistryAction → Prop
  | .process .. => True
  | .noteTransport .. => True
  | .adopt .. => True
  | .configure .. => True
  | .activate .. => True
  | .revoke .. => True
  | .replace _ _ outcome => outcome.succeeds = true

/-- The rule by which a request changes the admission of its node. -/
inductive Rule :
    RegistryAction → UInt32 → Admission → Admission → Prop where
  | adopt (snapshot : List TrackedNode) (nodeId : UInt32)
      (outcome : NvsOutcome) (was : Admission) :
      Rule (.adopt snapshot nodeId outcome) nodeId was
        { was with
          registryState :=
            if was.registryState < stateAdopted then stateAdopted
            else was.registryState }
  | configure (snapshot : List TrackedNode) (nodeId : UInt32)
      (profile templateName : List UInt8) (outcome : NvsOutcome)
      (was : Admission) :
      Rule (.configure snapshot nodeId profile templateName outcome) nodeId
        was
        { registryState :=
            if stateActive ≤ was.registryState then stateActive
            else stateConfigured
          profile := registryCopyText profile
          templateName := registryCopyText templateName }
  | activate (snapshot : List TrackedNode) (nodeId : UInt32)
      (outcome : NvsOutcome) (was : Admission)
      (allowed : stateAdopted ≤ was.registryState) :
      Rule (.activate snapshot nodeId outcome) nodeId was
        { was with registryState := stateActive }
  | revoke (nodeId : UInt32) (outcome : NvsOutcome) (was : Admission) :
      Rule (.revoke nodeId outcome) nodeId was
        { registryState := stateDiscovered
          profile := Function.update was.profile 0 0
          templateName := Function.update was.templateName 0 0 }

/-- Everything that a call may do to the admissions of a table. -/
inductive Effect (before after : List RegistryEntry) :
    RegistryAction → Bool → Prop where
  | discovery {action : RegistryAction} (result : Bool)
      (discovers : action.IsDiscovery) (passive : Passive before after) :
      Effect before after action result
  | refused {action : RegistryAction} (passive : Passive before after) :
      Effect before after action false
  | changed {action : RegistryAction} {nodeId : UInt32}
      {was now : Admission} (rule : Rule action nodeId was now)
      (change : Changed before after nodeId was now) :
      Effect before after action true
  | replaced {oldId newId : UInt32} {outcome : NvsOutcome}
      (oldKnown : oldId ≠ 0) (newKnown : newId ≠ 0)
      (replacement : Replaced before after oldId newId) :
      Effect before after (.replace oldId newId outcome) outcome.succeeds

theorem Effect.orderly
    {before after : List RegistryEntry} {action : RegistryAction}
    {result : Bool} (effect : Effect before after action result) :
    Orderly after := by
  cases effect with
  | discovery _ _ passive => exact passive.orderly
  | refused passive => exact passive.orderly
  | changed _ change => exact change.orderly
  | replaced _ _ replacement => exact replacement.orderly

theorem adopted_bounded
    (entry : RegistryEntry) (small : entry.registryState ≤ stateActive) :
    (adopted entry).registryState ≤ stateActive := by
  simp only [adopted]
  split
  · decide
  · exact small

theorem configured_bounded
    (profile templateName : List UInt8) (entry : RegistryEntry)
    (_ : entry.registryState ≤ stateActive) :
    (configured profile templateName entry).registryState ≤
      stateActive := by
  simp only [configured]
  split
  · decide
  · decide

theorem revoked_bounded (entry : RegistryEntry) :
    (revoked entry).registryState ≤ stateActive := by
  show stateDiscovered ≤ stateActive
  decide

variable {world : RegistryWorld}

theorem adopt_effect
    (orderly : Orderly world.entries)
    (snapshot : List TrackedNode) (nodeId : UInt32) (outcome : NvsOutcome) :
    Effect world.entries (world.adopt snapshot nodeId outcome).2.entries
      (.adopt snapshot nodeId outcome)
      (world.adopt snapshot nodeId outcome).1 := by
  rcases changeNode_effect orderly snapshot nodeId (fun _ => true) adopted
      (fun _ => rfl) adopted_bounded outcome with
    ⟨success, entry, -, changed⟩ | ⟨refused, passive⟩
  · rw [RegistryWorld.adopt, success]
    exact .changed (.adopt snapshot nodeId outcome entry.admission) changed
  · rw [RegistryWorld.adopt, refused]
    exact .refused passive

theorem configure_effect
    (orderly : Orderly world.entries)
    (snapshot : List TrackedNode) (nodeId : UInt32)
    (profile templateName : List UInt8) (outcome : NvsOutcome) :
    Effect world.entries
      (world.configure snapshot nodeId profile templateName outcome).2.entries
      (.configure snapshot nodeId profile templateName outcome)
      (world.configure snapshot nodeId profile templateName outcome).1 := by
  rw [RegistryWorld.configure]
  split
  · exact .refused (Passive.refl orderly)
  · rcases changeNode_effect orderly snapshot nodeId (fun _ => true)
        (configured profile templateName) (fun _ => rfl)
        (configured_bounded profile templateName) outcome with
      ⟨success, entry, -, changed⟩ | ⟨refused, passive⟩
    · rw [success]
      exact
        .changed
          (.configure snapshot nodeId profile templateName outcome
            entry.admission)
          changed
    · rw [refused]
      exact .refused passive

theorem activate_effect
    (orderly : Orderly world.entries)
    (snapshot : List TrackedNode) (nodeId : UInt32) (outcome : NvsOutcome) :
    Effect world.entries (world.activate snapshot nodeId outcome).2.entries
      (.activate snapshot nodeId outcome)
      (world.activate snapshot nodeId outcome).1 := by
  rcases changeNode_effect orderly snapshot nodeId
      (fun entry => decide (stateAdopted ≤ entry.registryState))
      (fun entry => { entry with registryState := stateActive })
      (fun _ => rfl) (fun _ _ => UInt8.le_refl stateActive) outcome with
    ⟨success, entry, permitted, changed⟩ | ⟨refused, passive⟩
  · rw [RegistryWorld.activate, success]
    exact
      .changed
        (.activate snapshot nodeId outcome entry.admission
          (of_decide_eq_true permitted))
        changed
  · rw [RegistryWorld.activate, refused]
    exact .refused passive

theorem revoke_effect
    (orderly : Orderly world.entries)
    (nodeId : UInt32) (outcome : NvsOutcome) :
    Effect world.entries (world.revoke nodeId outcome).2.entries
      (.revoke nodeId outcome) (world.revoke nodeId outcome).1 := by
  rcases revoke_cases world nodeId outcome with
    refused | ⟨known, index, entry, found, isResult⟩
  · rw [refused]
    exact .refused (Passive.refl orderly)
  · have isNode : (revoked entry).nodeId = nodeId :=
      (Slots.find?_some found).2
    rcases commitChange_effect (Passive.refl orderly) known found isNode
        (revoked_bounded entry) isResult with
      ⟨success, changed⟩ | ⟨refused, passive⟩
    · rw [success]
      exact .changed (.revoke nodeId outcome entry.admission) changed
    · rw [refused]
      exact .refused passive

theorem step_effect
    (orderly : Orderly world.entries)
    (action : RegistryAction) :
    Effect world.entries (world.step action).1.entries action
      (world.step action).2 := by
  cases action with
  | process nowMs snapshot selfNode =>
      exact
        .discovery _ trivial (process_passive orderly nowMs snapshot selfNode)
  | noteTransport nodeId transport sourceIp =>
      exact
        .discovery _ trivial
          (noteTransport_passive orderly nodeId transport sourceIp)
  | adopt snapshot nodeId outcome =>
      exact adopt_effect orderly snapshot nodeId outcome
  | configure snapshot nodeId profile templateName outcome =>
      exact
        configure_effect orderly snapshot nodeId profile templateName outcome
  | activate snapshot nodeId outcome =>
      exact activate_effect orderly snapshot nodeId outcome
  | revoke nodeId outcome => exact revoke_effect orderly nodeId outcome
  | replace oldId newId outcome =>
      rcases replace_effect orderly oldId newId outcome with
        refused | ⟨⟨oldKnown, newKnown⟩, result, replaced⟩
      · simp only [RegistryWorld.step, refused]
        exact .refused (Passive.refl orderly)
      · simp only [RegistryWorld.step, Prod.fst_swap, Prod.snd_swap, result]
        exact .replaced oldKnown newKnown replaced

/-! ## States -/

theorem Passive.getState
    {before after : List RegistryEntry} (passive : Passive before after)
    (nodeId : UInt32) :
    Registry.getState after nodeId = Registry.getState before nodeId := by
  by_cases known : nodeId = 0
  · rw [Registry.getState, Registry.getState, if_pos known, if_pos known]
  · rw [getState_eq after known, getState_eq before known]
    rcases passive.admissions nodeId known with same | ⟨missing, blank⟩
    · rw [same]
    · rw [missing, blank]
      rfl

variable {nodeId other : UInt32} {was now : Admission}

theorem Changed.getState_other
    {before after : List RegistryEntry}
    (change : Changed before after nodeId was now)
    (different : other ≠ nodeId) :
    getState after other = getState before other := by
  by_cases known : other = 0
  · rw [getState, getState, if_pos known, if_pos known]
  · rw [getState_eq after known, getState_eq before known]
    rcases change.others other known different with same | ⟨missing, blank⟩
    · rw [same]
    · rw [missing, blank]
      rfl

theorem Changed.getState_own
    {before after : List RegistryEntry}
    (change : Changed before after nodeId was now) :
    getState before nodeId = was.registryState ∧
    getState after nodeId = now.registryState := by
  rw [getState_eq after change.known, getState_eq before change.known,
    change.now]
  refine ⟨?_, rfl⟩
  rcases change.was with present | ⟨missing, blank⟩
  · rw [present]
    rfl
  · rw [missing, blank]
    rfl

theorem Replaced.getState_other
    {before after : List RegistryEntry} {oldId newId : UInt32}
    (replacement : Replaced before after oldId newId)
    (notOld : other ≠ oldId) (notNew : other ≠ newId) :
    getState after other = getState before other := by
  by_cases known : other = 0
  · rw [getState, getState, if_pos known, if_pos known]
  · rw [getState_eq after known, getState_eq before known,
      replacement.others other known notOld notNew]

theorem Rule.raises
    {action : RegistryAction}
    (rule : Rule action nodeId was now)
    (bounded : was.registryState ≤ stateActive) :
    was.registryState ≤ now.registryState ∧ action.Admits nodeId ∨
    now.registryState = stateDiscovered ∧ action.Lowers nodeId := by
  cases rule with
  | adopt snapshot outcome =>
      refine Or.inl ⟨?_, rfl⟩
      dsimp only
      split
      · next below => exact UInt8.le_of_lt below
      · exact UInt8.le_refl _
  | configure snapshot profile templateName outcome =>
      refine Or.inl ⟨?_, rfl⟩
      dsimp only
      split
      · exact bounded
      · next below =>
          rw [UInt8.le_iff_toNat_le] at below ⊢
          have active : stateActive.toNat = 3 := rfl
          have configured : stateConfigured.toNat = 2 := rfl
          omega
  | activate snapshot outcome allowed => exact Or.inl ⟨bounded, rfl⟩
  | revoke outcome => exact Or.inr ⟨rfl, rfl⟩

/-! ## The life of a node -/

/-- The ids in use are different. -/
def DistinctIds (entries : List RegistryEntry) : Prop :=
  ((inUse entries).map RegistryEntry.nodeId).Nodup

variable {entries : List RegistryEntry}

theorem Orderly.distinctIds
    (orderly : Orderly entries) :
    DistinctIds entries := by
  rw [DistinctIds, List.nodup_iff_count_le_one]
  intro nodeId
  by_cases known : nodeId = 0
  · have absent : nodeId ∉ (inUse entries).map RegistryEntry.nodeId := by
      intro member
      rcases List.mem_map.mp member with ⟨entry, used, isNode⟩
      have nonzero := (List.mem_filter.mp used).2
      rw [isNode, known] at nonzero
      simp at nonzero
    rw [List.count_eq_zero_of_not_mem absent]
    exact Nat.zero_le _
  · have single := orderly.distinct nodeId known
    refine Nat.le_trans ?_ single
    have counted :
        List.count nodeId ((inUse entries).map RegistryEntry.nodeId) =
          ((inUse entries).filter
            (fun entry => entry.nodeId = nodeId)).length := by
      rw [List.count, List.countP_map, List.countP_eq_length_filter]
      rfl
    rw [counted]
    exact List.Sublist.length_le ((List.filter_sublist).filter _)

/-- What a call may do to the nodes of the registry. -/
structure Lifecycle
    (transition :
      Run.Transition RegistryWorld RegistryAction Bool) : Prop where
  distinct : DistinctIds transition.after.entries
  discovery :
    transition.action.IsDiscovery →
    ∀ nodeId, nodeId ≠ 0 →
    admissionOf transition.after.entries nodeId =
        admissionOf transition.before.entries nodeId ∨
    admissionOf transition.before.entries nodeId = none ∧
    admissionOf transition.after.entries nodeId = some Admission.blank
  gains :
    ∀ nodeId,
      getState transition.after.entries nodeId ≠
          getState transition.before.entries nodeId →
        stateDiscovered < getState transition.after.entries nodeId →
        transition.output = true ∧ transition.action.Admits nodeId
  activation :
    ∀ snapshot nodeId outcome,
      transition.action = .activate snapshot nodeId outcome →
      transition.output = true →
      stateAdopted ≤ getState transition.before.entries nodeId
  keeps :
    ∀ nodeId,
      getState transition.after.entries nodeId <
          getState transition.before.entries nodeId →
        transition.output = true ∧ transition.action.Lowers nodeId

theorem getState_bounded
    (orderly : Orderly entries)
    (nodeId : UInt32) : getState entries nodeId ≤ stateActive := by
  rw [getState]
  split
  · decide
  · split
    · decide
    · next index entry found =>
        have holds := (Slots.find?_some found).1
        exact orderly.bounded entry (List.mem_of_getElem? holds)

theorem Changed.own_of_ne
    {before after : List RegistryEntry}
    (change : Changed before after nodeId was now)
    (differs : getState after other ≠ getState before other) :
    other = nodeId := by
  by_contra different
  exact differs (change.getState_other different)

/-- A node whose state differs after a change was admitted by the request or
lost its state to it. -/
theorem Changed.moves
    {before after : List RegistryEntry} {action : RegistryAction}
    (change : Changed before after nodeId was now)
    (rule : Rule action nodeId was now) (orderly : Orderly before)
    (differs : getState after other ≠ getState before other) :
    getState before other ≤ getState after other ∧ action.Admits other ∨
    getState after other = stateDiscovered ∧ action.Lowers other := by
  have states := change.getState_own
  have bounded := getState_bounded orderly nodeId
  rw [states.1] at bounded
  rw [change.own_of_ne differs, states.1, states.2]
  exact rule.raises bounded

section

variable {before after : List RegistryEntry} {action : RegistryAction}
    {result : Bool}

theorem Effect.discovers
    (effect : Effect before after action result)
    (discovers : action.IsDiscovery) : Passive before after := by
  cases effect with
  | discovery _ _ passive => exact passive
  | refused passive => exact passive
  | changed rule change =>
      cases rule with
      | _ => exact discovers.elim
  | replaced => exact discovers.elim

variable {nodeId : UInt32}

/-- A node whose state differs and that is admitted now was admitted by the
request. -/
theorem Effect.gains
    (effect : Effect before after action result) (orderly : Orderly before)
    (writes : action.ReplaceWrites)
    (differs : getState after nodeId ≠ getState before nodeId)
    (admitted : stateDiscovered < getState after nodeId) :
    result = true ∧ action.Admits nodeId := by
  cases effect with
  | discovery _ _ passive => exact absurd (passive.getState nodeId) differs
  | refused passive => exact absurd (passive.getState nodeId) differs
  | changed rule change =>
      rcases change.moves rule orderly differs with ⟨-, admits⟩ | ⟨lost, -⟩
      · exact ⟨rfl, admits⟩
      · rw [lost] at admitted
        exact absurd admitted (UInt8.lt_irrefl _)
  | @replaced oldId newId outcome oldKnown newKnown replacement =>
      refine ⟨writes, ?_⟩
      show newId = nodeId
      by_contra notNew
      by_cases isOld : nodeId = oldId
      · rw [isOld, getState_eq after oldKnown, replacement.old] at admitted
        exact absurd admitted (UInt8.lt_irrefl _)
      · exact differs (replacement.getState_other isOld (Ne.symm notNew))

theorem Effect.activation
    {snapshot : List TrackedNode} {outcome : NvsOutcome}
    (effect : Effect before after (.activate snapshot nodeId outcome) true) :
    stateAdopted ≤ getState before nodeId := by
  cases effect with
  | discovery _ discovers _ => exact discovers.elim
  | changed rule change =>
      cases rule with
      | activate _ _ _ was allowed =>
          rw [change.getState_own.1]
          exact allowed

/-- A node that loses its state takes part in a revocation or a
replacement. -/
theorem Effect.lowers
    (effect : Effect before after action result) (orderly : Orderly before)
    (writes : action.ReplaceWrites)
    (lowered : getState after nodeId < getState before nodeId) :
    result = true ∧ action.Lowers nodeId := by
  have differs : getState after nodeId ≠ getState before nodeId :=
    UInt8.ne_of_lt lowered
  cases effect with
  | discovery _ _ passive => exact absurd (passive.getState nodeId) differs
  | refused passive => exact absurd (passive.getState nodeId) differs
  | changed rule change =>
      rcases change.moves rule orderly differs with
        ⟨raised, -⟩ | ⟨-, lowers⟩
      · exact absurd lowered (UInt8.not_lt.mpr raised)
      · exact ⟨rfl, lowers⟩
  | @replaced oldId newId outcome oldKnown newKnown replacement =>
      refine ⟨writes, ?_⟩
      show oldId = nodeId ∨ newId = nodeId
      by_contra neither
      rw [not_or] at neither
      exact
        differs
          (replacement.getState_other (Ne.symm neither.1) (Ne.symm neither.2))

end

theorem step_lifecycle
    (orderly : Orderly world.entries)
    {action : RegistryAction} (writes : action.ReplaceWrites) :
    Lifecycle (Run.call RegistryWorld.step world action) := by
  have effect := step_effect orderly action
  refine ⟨effect.orderly.distinctIds, ?_, ?_, ?_, ?_⟩
  · intro discovers nodeId known
    exact (effect.discovers discovers).admissions nodeId known
  · intro nodeId differs admitted
    exact effect.gains orderly writes differs admitted
  · intro snapshot nodeId outcome isActivate success
    have isAction : action = .activate snapshot nodeId outcome := isActivate
    have returned : (world.step action).2 = true := success
    rw [returned, isAction] at effect
    exact effect.activation
  · intro nodeId lowered
    exact effect.lowers orderly writes lowered

/-! ## Records that the registry wrote -/

/-- Storage is empty or holds the record of an orderly table. -/
def StoredOrderly (nvs : Option (List UInt8)) : Prop :=
  nvs = none ∨
  ∃ entries, Orderly entries ∧ entries.length ≤ registryMaxNodes ∧
  nvs = some (saveBlob entries)

theorem zero_orderly_slots
    (count : Nat) (known : nodeId ≠ 0) :
    slotsOf (List.replicate count RegistryEntry.zero) nodeId = [] := by
  rw [slotsOf, Slots.holding, List.filter_eq_nil_iff]
  intro entry member
  have isZero : RegistryEntry.zero.nodeId = 0 := rfl
  rw [List.eq_of_mem_replicate member, isZero]
  simpa using known.symm

theorem tableOf_orderly
    {loaded : List RegistryEntry} (orderly : Orderly loaded) :
    Orderly (tableOf loaded) := by
  have taken : Orderly (loaded.take registryMaxNodes) := by
    constructor
    · intro nodeId known
      refine Nat.le_trans ?_ (orderly.distinct nodeId known)
      exact List.Sublist.length_le ((List.take_sublist _ _).filter _)
    · intro entry member
      exact orderly.bounded entry (List.mem_of_mem_take member)
  have reset := resetRuntime_orderly taken
  rw [tableOf]
  constructor
  · intro nodeId known
    rw [slotsOf, Slots.holding, List.filter_append, List.length_append]
    have none := zero_orderly_slots (registryMaxNodes - loaded.length) known
    rw [slotsOf, Slots.holding] at none
    rw [none]
    exact reset.distinct nodeId known
  · intro entry member
    rcases List.mem_append.mp member with inTable | free
    · exact reset.bounded entry inTable
    · rw [List.eq_of_mem_replicate free]
      decide

theorem persistedEntries_orderly
    (orderly : Orderly entries) :
    Orderly (persistedEntries entries) := by
  refine resetRuntime_orderly ⟨?_, ?_⟩
  · intro nodeId known
    refine Nat.le_trans ?_ (orderly.distinct nodeId known)
    exact
      List.Sublist.length_le
        (((List.take_sublist _ _).trans List.filter_sublist).filter _)
  · intro entry member
    exact
      orderly.bounded entry
        (List.mem_of_mem_filter (List.mem_of_mem_take member))

theorem init_orderly
    {nvs : Option (List UInt8)} (stored : StoredOrderly nvs) :
    Orderly (nodeRegistryInit nvs).entries := by
  rw [nodeRegistryInit_entries]
  apply tableOf_orderly
  rcases stored with rfl | ⟨entries, orderly, -, rfl⟩
  · exact ⟨fun _ _ => Nat.zero_le _, fun _ member => by cases member⟩
  · rw [loadBlob_saveBlob]
    exact persistedEntries_orderly orderly

theorem commitChange_stored
    (orderly : Orderly world.entries)
    (stored : StoredOrderly world.nvs) (nodeId : UInt32)
    (previous : RegistryEntry) (outcome : NvsOutcome) :
    StoredOrderly (world.commitChange nodeId previous outcome).2.nvs := by
  have saved : StoredOrderly (world.save outcome).nvs := by
    simp only [RegistryWorld.save, nvsWrite]
    split
    · exact Or.inr ⟨world.entries, orderly, Nat.le_of_eq world.fits, rfl⟩
    · exact stored
  rw [RegistryWorld.commitChange]
  split
  · exact saved
  · rw [RegistryWorld.restoreEntry]
    split
    · exact saved
    · split
      · exact saved
      · exact saved

theorem changeNode_stored
    (orderly : Orderly world.entries)
    (stored : StoredOrderly world.nvs) (snapshot : List TrackedNode)
    (nodeId : UInt32) (allowed : RegistryEntry → Bool)
    (change : RegistryEntry → RegistryEntry)
    (keepsNode : ∀ entry, (change entry).nodeId = entry.nodeId)
    (bounded :
      ∀ entry, entry.registryState ≤ stateActive →
      (change entry).registryState ≤ stateActive)
    (outcome : NvsOutcome) :
    StoredOrderly
      (world.changeNode snapshot nodeId allowed change outcome).2.nvs := by
  rcases changeNode_cases world snapshot nodeId allowed change outcome with
    refused | ⟨known, located, isLocated, rest⟩
  · rw [refused]
    exact stored
  · have kept := located_passive orderly isLocated
    have storedThere : StoredOrderly located.nvs := by
      rw [kept.2]
      exact stored
    rcases rest with refused | ⟨index, entry, found, -, isResult⟩
    · rw [refused]
      exact storedThere
    · rcases Slots.find?_some found with ⟨holds, isNode⟩
      have small := kept.1.orderly.bounded entry (List.mem_of_getElem? holds)
      have written :=
        set_found kept.1.orderly known found
          ((keepsNode entry).trans isNode) (bounded entry small)
      rw [isResult]
      exact
        @commitChange_stored (located.setEntry index (change entry))
          written.orderly storedThere nodeId entry outcome

theorem observeNode_nvs
    (selfNode : UInt32) (world : RegistryWorld) (target : TrackedNode) :
    (observeNode selfNode world target).nvs = world.nvs := by
  rw [observeNode]
  split
  · rfl
  · split
    · rfl
    · rfl

theorem process_nvs
    (world : RegistryWorld) (nowMs : UInt32) (snapshot : List TrackedNode)
    (selfNode : UInt32) :
    (world.process nowMs snapshot selfNode).nvs = world.nvs := by
  have observed :
      ∀ start : RegistryWorld,
        (snapshot.foldl (observeNode selfNode) start).nvs = start.nvs := by
    intro start
    refine
      List.foldlRecOn
        (motive := fun reached => reached.nvs = start.nvs) snapshot
        (observeNode selfNode) rfl ?_
    intro reached same target _
    exact (observeNode_nvs selfNode reached target).trans same
  rw [RegistryWorld.process]
  split
  · rfl
  · split
    · rfl
    · rw [observeSelf]
      split
      · exact observed _
      · split
        · exact observed _
        · exact observed _

theorem noteTransport_nvs
    (world : RegistryWorld) (nodeId : UInt32) (transport : UInt8)
    (sourceIp : UInt32) :
    (world.noteTransport nodeId transport sourceIp).2.nvs = world.nvs := by
  rw [RegistryWorld.noteTransport]
  split
  · rfl
  · split
    · rfl
    · rfl

theorem step_stored
    (orderly : Orderly world.entries)
    (stored : StoredOrderly world.nvs) (action : RegistryAction) :
    StoredOrderly (world.step action).1.nvs := by
  cases action with
  | process nowMs snapshot selfNode =>
      have same := process_nvs world nowMs snapshot selfNode
      exact same ▸ stored
  | noteTransport nodeId transport sourceIp =>
      have same := noteTransport_nvs world nodeId transport sourceIp
      exact same ▸ stored
  | adopt snapshot nodeId outcome =>
      exact
        changeNode_stored orderly stored snapshot nodeId (fun _ => true)
          adopted (fun _ => rfl) adopted_bounded outcome
  | configure snapshot nodeId profile templateName outcome =>
      simp only [RegistryWorld.step, RegistryWorld.configure]
      split
      · exact stored
      · exact
          changeNode_stored orderly stored snapshot nodeId (fun _ => true)
            (configured profile templateName) (fun _ => rfl)
            (configured_bounded profile templateName) outcome
  | activate snapshot nodeId outcome =>
      exact
        changeNode_stored orderly stored snapshot nodeId
          (fun entry => decide (stateAdopted ≤ entry.registryState))
          (fun entry => { entry with registryState := stateActive })
          (fun _ => rfl) (fun _ _ => UInt8.le_refl stateActive) outcome
  | revoke nodeId outcome =>
      simp only [RegistryWorld.step]
      rcases revoke_cases world nodeId outcome with
        refused | ⟨known, index, entry, found, isResult⟩
      · rw [refused]
        exact stored
      · have isNode : (revoked entry).nodeId = nodeId :=
          (Slots.find?_some found).2
        have written :=
          set_found orderly known found isNode (revoked_bounded entry)
        rw [isResult]
        exact
          @commitChange_stored (world.setEntry index (revoked entry))
            written.orderly stored nodeId entry outcome
  | replace oldId newId outcome =>
      simp only [RegistryWorld.step]
      rcases replace_cases world oldId newId outcome with
        refused | ⟨⟨oldKnown, newKnown, different⟩, oldIndex, old,
          newIndex, entry, found, isSlot, isResult⟩
      · rw [refused]
        exact stored
      · have written :=
          replace_written orderly oldKnown newKnown different found isSlot
        rw [isResult]
        exact
          @commitChange_stored
            ((world.setEntry newIndex
              (replacing newId old entry)).setEntry oldIndex
              { old with nodeId := 0 })
            written.orderly stored oldId old outcome

/-- A call, or a reboot from the record in storage. -/
inductive PoweredAction where
  | call (action : RegistryAction)
  | reboot

/-- One step of a device that may be switched off. -/
def RegistryWorld.powered (world : RegistryWorld) :
    PoweredAction → RegistryWorld × Bool
  | .call action => world.step action
  | .reboot => (nodeRegistryInit world.nvs, true)

/-- What storage may hold on a device that started with an empty one. -/
def SelfWritten (nvs : Option (List UInt8)) : Prop :=
  ∃ actions,
    (Run.final RegistryWorld.powered (nodeRegistryInit none) actions).nvs = nvs

theorem powered_orderly
    {start : RegistryWorld} (orderly : Orderly start.entries)
    (stored : StoredOrderly start.nvs) (actions : List PoweredAction) :
    StoredOrderly (Run.final RegistryWorld.powered start actions).nvs := by
  induction actions generalizing start with
  | nil => exact stored
  | cons action rest induction =>
      cases action with
      | call action =>
          exact
            induction (step_effect orderly action).orderly
              (step_stored orderly stored action)
      | reboot => exact induction (init_orderly stored) stored

theorem selfWritten_stored
    {nvs : Option (List UInt8)} (written : SelfWritten nvs) :
    StoredOrderly nvs := by
  rcases written with ⟨actions, rfl⟩
  have empty : StoredOrderly none := Or.inl rfl
  exact powered_orderly (init_orderly empty) empty actions

/-! ## Runs -/

/--
In every run from an empty storage or from a record that the registry wrote
itself, in which the writes of replacements succeed, the ids in the table stay
different and every call obeys the life of a node: discovery leaves admissions
alone, only a successful request on a node admits it, and only a successful
revocation of the node, or a replacement that it takes part in, lowers its
state.
-/
theorem registry_lifecycle
    {nvs : Option (List UInt8)} (written : SelfWritten nvs)
    (actions : List RegistryAction)
    (writes : ∀ action ∈ actions, action.ReplaceWrites) :
    DistinctIds
        (Run.final RegistryWorld.step (nodeRegistryInit nvs) actions).entries ∧
    ∀ transition ∈
        Run.history RegistryWorld.step (nodeRegistryInit nvs) actions,
      Lifecycle transition := by
  have started := init_orderly (selfWritten_stored written)
  generalize nodeRegistryInit nvs = start at started
  induction actions generalizing start with
  | nil => exact ⟨started.distinctIds, fun _ member => by cases member⟩
  | cons action rest induction =>
      have here :=
        step_lifecycle started (writes action (List.mem_cons_self ..))
      have later :=
        induction
          (fun other member => writes other (List.mem_cons_of_mem _ member))
          _ (step_effect started action).orderly
      refine ⟨later.1, ?_⟩
      intro transition member
      rcases List.mem_cons.mp member with rfl | inRest
      · exact here
      · exact later.2 transition inRest

def fiveAndSeven : List RegistryAction :=
  [.noteTransport 5 1 0, .noteTransport 7 1 0, .adopt [] 7 .committed,
    .activate [] 7 .committed]

/-- Activating node 7 found it adopted. -/
theorem seven_was_adopted :
    stateAdopted ≤
      getState
        (Run.final RegistryWorld.step (nodeRegistryInit none)
          (fiveAndSeven.take 3)).entries
        7 := by
  have writes : ∀ action ∈ fiveAndSeven, action.ReplaceWrites := by
    intro action member
    simp only [fiveAndSeven, List.mem_cons, List.not_mem_nil, or_false]
      at member
    rcases member with rfl | rfl | rfl | rfl
    · trivial
    · trivial
    · trivial
    · trivial
  have life :=
    (registry_lifecycle ⟨[], rfl⟩ fiveAndSeven writes).2
      (Run.call RegistryWorld.step
        (Run.final RegistryWorld.step (nodeRegistryInit none)
          (fiveAndSeven.take 3))
        (.activate [] 7 .committed))
      (Run.call_mem_history _ _ (fiveAndSeven.take 3) _ [])
  exact life.activation [] 7 .committed rfl (by decide +kernel)

/--
Node 7 is active, it is not revoked and not the old node of a replacement, and
yet a replacement of node 5 by node 7 makes it a discovered one.
-/
theorem replacement_lowers_new_node :
    getState
          (Run.final RegistryWorld.step (nodeRegistryInit none)
            fiveAndSeven).entries
          7 =
        stateActive ∧
    (Run.call RegistryWorld.step
        (Run.final RegistryWorld.step (nodeRegistryInit none) fiveAndSeven)
        (.replace 5 7 .committed)).output =
      true ∧
    getState
        (Run.final RegistryWorld.step (nodeRegistryInit none)
          (fiveAndSeven ++ [.replace 5 7 .committed])).entries
        7 =
      stateDiscovered := by
  decide +kernel

end Endap.Registry
