import Endap.Registry.Operations

/-!
# Admissions

What the registry says about the admission of a node is its state and its
texts.  Discovery is passive: it leaves every admission as it is and gives a
new node a blank one.  A request changes the admission of its own node by its
own rule, or is passive when it is refused or cannot be written.

A table is orderly when no node has two entries.  Every operation keeps it so,
a replacement included whose write fails.
-/

namespace Endap.Registry

open Endap.Cluster
open Endap.Library
open Endap.State

/-! ## Admissions of a table -/

/-- The part of an entry that admits its node. -/
structure Admission where
  registryState : UInt8
  profile : RegistryText
  templateName : RegistryText

/-- The admission that an entry stands for. -/
def RegistryEntry.admission (entry : RegistryEntry) : Admission where
  registryState := entry.registryState
  profile := entry.profile
  templateName := entry.templateName

/-- The admission of a node that was only discovered. -/
def Admission.blank : Admission where
  registryState := stateDiscovered
  profile := fun _ => 0
  templateName := fun _ => 0

/-- The entries of a node. -/
def slotsOf (entries : List RegistryEntry) (nodeId : UInt32) :
    List RegistryEntry :=
  Slots.holding RegistryEntry.nodeId nodeId entries

/-- The admission of a node, if it is known. -/
def admissionOf (entries : List RegistryEntry) (nodeId : UInt32) :
    Option Admission :=
  (slotsOf entries nodeId).head?.map RegistryEntry.admission

/-- No node has two entries, and every state is one of the four. -/
structure Orderly (entries : List RegistryEntry) : Prop where
  distinct : ∀ nodeId, nodeId ≠ 0 → (slotsOf entries nodeId).length ≤ 1
  bounded : ∀ entry ∈ entries, entry.registryState ≤ stateActive

theorem findLocked_admission
    {entries : List RegistryEntry} {nodeId : UInt32} {index : Nat}
    {entry : RegistryEntry}
    (found : findLocked entries nodeId = some (index, entry)) :
    admissionOf entries nodeId = some entry.admission := by
  have first :
      (findLocked entries nodeId).map Prod.snd =
        (slotsOf entries nodeId).head? :=
    Slots.find?_slot
  rw [admissionOf, ← first, found]
  rfl

theorem findLocked_none
    {entries : List RegistryEntry} {nodeId : UInt32}
    (missing : findLocked entries nodeId = none) :
    admissionOf entries nodeId = none := by
  have none : slotsOf entries nodeId = [] := Slots.find?_none missing
  rw [admissionOf, none]
  rfl

theorem getState_eq
    (entries : List RegistryEntry) {nodeId : UInt32} (known : nodeId ≠ 0) :
    getState entries nodeId =
      ((admissionOf entries nodeId).map
        Admission.registryState).getD stateDiscovered := by
  rw [getState, if_neg known]
  cases found : findLocked entries nodeId with
  | none => rw [findLocked_none found]; rfl
  | some slot => rw [findLocked_admission found]; rfl

theorem admissionOf_of_slotsOf
    {before after : List RegistryEntry} {nodeId : UInt32}
    (same : slotsOf after nodeId = slotsOf before nodeId) :
    admissionOf after nodeId = admissionOf before nodeId := by
  rw [admissionOf, admissionOf, same]

/-! ## Writing one entry -/

/-- What writing the entry of a node does to a table. -/
structure Written (before after : List RegistryEntry) (entry : RegistryEntry) :
    Prop where
  orderly : Orderly after
  own : slotsOf after entry.nodeId = [entry]
  others :
    ∀ nodeId, nodeId ≠ 0 → nodeId ≠ entry.nodeId →
    slotsOf after nodeId = slotsOf before nodeId

/-- A slot takes the entry of a node: it was free and the node unknown, or it
held the node already. -/
theorem set_written
    {entries : List RegistryEntry} (orderly : Orderly entries)
    {index : Nat} {old new : RegistryEntry}
    (holds : entries[index]? = some old) (known : new.nodeId ≠ 0)
    (bounded : new.registryState ≤ stateActive)
    (alone :
      old.nodeId = new.nodeId ∨
      old.nodeId = 0 ∧ slotsOf entries new.nodeId = []) :
    Written entries (entries.set index new) new := by
  have own : slotsOf (entries.set index new) new.nodeId = [new] := by
    refine Slots.holding_set_own holds rfl ?_
    rcases alone with same | ⟨-, unknown⟩
    · exact Or.inr ⟨same, orderly.distinct _ known⟩
    · exact Or.inl unknown
  have others :
      ∀ nodeId, nodeId ≠ 0 → nodeId ≠ new.nodeId →
      slotsOf (entries.set index new) nodeId = slotsOf entries nodeId := by
    intro nodeId isKnown different
    refine Slots.holding_set_other holds ?_ different.symm
    rcases alone with same | ⟨free, -⟩
    · rw [same]
      exact different.symm
    · rw [free]
      exact isKnown.symm
  refine ⟨⟨?_, ?_⟩, own, others⟩
  · intro nodeId isKnown
    by_cases same : nodeId = new.nodeId
    · rw [same, own]
      exact Nat.le_refl _
    · rw [others nodeId isKnown same]
      exact orderly.distinct nodeId isKnown
  · intro entry member
    rcases List.mem_or_eq_of_mem_set member with inTable | rfl
    · exact orderly.bounded entry inTable
    · exact bounded

theorem Written.admission
    {before after : List RegistryEntry} {entry : RegistryEntry}
    (written : Written before after entry) :
    admissionOf after entry.nodeId = some entry.admission := by
  rw [admissionOf, written.own]
  rfl

theorem set_found
    {entries : List RegistryEntry} (orderly : Orderly entries)
    {nodeId : UInt32} (known : nodeId ≠ 0) {index : Nat}
    {entry new : RegistryEntry}
    (found : findLocked entries nodeId = some (index, entry))
    (sameNode : new.nodeId = nodeId)
    (bounded : new.registryState ≤ stateActive) :
    Written entries (entries.set index new) new := by
  rcases Slots.find?_some found with ⟨holds, isNode⟩
  refine set_written orderly holds ?_ bounded (Or.inl ?_)
  · rw [sameNode]
    exact known
  · exact isNode.trans sameNode.symm

/-! ## Passive changes -/

/-- Known nodes keep their admission, and a new node has a blank one. -/
structure Passive (before after : List RegistryEntry) : Prop where
  orderly : Orderly after
  admissions :
    ∀ nodeId, nodeId ≠ 0 →
    admissionOf after nodeId = admissionOf before nodeId ∨
    admissionOf before nodeId = none ∧
    admissionOf after nodeId = some Admission.blank

theorem Passive.refl
    {entries : List RegistryEntry} (orderly : Orderly entries) :
    Passive entries entries :=
  ⟨orderly, fun _ _ => Or.inl rfl⟩

theorem Passive.trans
    {first second third : List RegistryEntry}
    (earlier : Passive first second) (later : Passive second third) :
    Passive first third := by
  refine ⟨later.orderly, ?_⟩
  intro nodeId known
  rcases later.admissions nodeId known with same | ⟨missing, blank⟩
  · rw [same]
    exact earlier.admissions nodeId known
  · rcases earlier.admissions nodeId known with same | ⟨-, wasBlank⟩
    · rw [same] at missing
      exact Or.inr ⟨missing, blank⟩
    · rw [missing] at wasBlank
      cases wasBlank

theorem Written.passive
    {before after : List RegistryEntry} {entry : RegistryEntry}
    (written : Written before after entry)
    (unchanged :
      admissionOf before entry.nodeId = some entry.admission ∨
      admissionOf before entry.nodeId = none ∧
      entry.admission = Admission.blank) :
    Passive before after := by
  refine ⟨written.orderly, ?_⟩
  intro nodeId known
  by_cases own : nodeId = entry.nodeId
  · rw [own, written.admission]
    rcases unchanged with same | ⟨missing, blank⟩
    · exact Or.inl same.symm
    · exact Or.inr ⟨missing, congrArg some blank⟩
  · exact Or.inl (admissionOf_of_slotsOf (written.others nodeId known own))

theorem findOrCreate_passive
    {entries : List RegistryEntry} (orderly : Orderly entries)
    {nodeId : UInt32} (known : nodeId ≠ 0) {index : Nat}
    {entry new : RegistryEntry}
    (located : findOrCreate entries nodeId = some (index, entry))
    (sameNode : new.nodeId = entry.nodeId)
    (sameAdmission : new.admission = entry.admission) :
    Passive entries (entries.set index new) := by
  have sameState : new.registryState = entry.registryState :=
    congrArg Admission.registryState sameAdmission
  rw [findOrCreate] at located
  cases found : findLocked entries nodeId with
  | some slot =>
      simp only [found, Option.some.injEq] at located
      subst located
      rcases Slots.find?_some found with ⟨holds, isNode⟩
      have bounded : new.registryState ≤ stateActive := by
        rw [sameState]
        exact orderly.bounded _ (List.mem_of_getElem? holds)
      have written :=
        set_found orderly known found (sameNode.trans isNode) bounded
      refine written.passive (Or.inl ?_)
      rw [sameNode, isNode, sameAdmission]
      exact findLocked_admission found
  | none =>
      have unknown : slotsOf entries nodeId = [] := Slots.find?_none found
      cases free : allocateLocked entries with
      | none =>
          simp only [found, free] at located
          cases located
      | some slot =>
          simp only [found, free, Option.some.injEq, Prod.mk.injEq] at located
          rcases located with ⟨rfl, rfl⟩
          rcases Slots.find?_some free with ⟨holds, isFree⟩
          have isNode : new.nodeId = nodeId := sameNode
          have bounded : new.registryState ≤ stateActive := by
            rw [sameState]
            show stateDiscovered ≤ stateActive
            decide
          have written : Written entries (entries.set slot.1 new) new := by
            refine set_written orderly holds ?_ bounded ?_
            · rw [isNode]
              exact known
            · rw [isNode]
              exact Or.inr ⟨isFree, unknown⟩
          refine written.passive (Or.inr ⟨?_, sameAdmission⟩)
          rw [isNode]
          exact findLocked_none found

/-! ## Discovery -/

theorem findOrCreate_of_found
    {entries : List RegistryEntry} {nodeId : UInt32}
    {slot : Nat × RegistryEntry}
    (found : findLocked entries nodeId = some slot) :
    findOrCreate entries nodeId = some slot := by
  rw [findOrCreate, found]

theorem resetRuntime_admission (entry : RegistryEntry) :
    (resetRuntime entry).admission = entry.admission := by
  rw [resetRuntime]
  split
  · rfl
  · rfl

theorem slotsOf_resetRuntime
    (entries : List RegistryEntry) (nodeId : UInt32) :
    slotsOf (entries.map resetRuntime) nodeId =
      (slotsOf entries nodeId).map resetRuntime := by
  rw [slotsOf, slotsOf, Slots.holding, Slots.holding, List.filter_map]
  simp only [Function.comp_def, resetRuntime_nodeId]

theorem resetRuntime_orderly
    {entries : List RegistryEntry} (orderly : Orderly entries) :
    Orderly (entries.map resetRuntime) := by
  constructor
  · intro nodeId known
    rw [slotsOf_resetRuntime, List.length_map]
    exact orderly.distinct nodeId known
  · intro entry member
    rcases List.mem_map.mp member with ⟨source, inTable, rfl⟩
    have same :=
      congrArg Admission.registryState (resetRuntime_admission source)
    exact Eq.trans_le same (orderly.bounded source inTable)

theorem resetRuntime_passive
    {entries : List RegistryEntry} (orderly : Orderly entries) :
    Passive entries (entries.map resetRuntime) := by
  refine ⟨resetRuntime_orderly orderly, ?_⟩
  intro nodeId _
  refine Or.inl ?_
  rw [admissionOf, admissionOf, slotsOf_resetRuntime, List.head?_map,
    Option.map_map]
  congr 1
  exact funext resetRuntime_admission

theorem observeNode_passive
    (selfNode : UInt32) {world : RegistryWorld}
    (orderly : Orderly world.entries) (target : TrackedNode) :
    Passive world.entries (observeNode selfNode world target).entries := by
  rw [observeNode]
  split
  · exact Passive.refl orderly
  · next observable =>
      split
      · exact Passive.refl orderly
      · next index entry located =>
          refine findOrCreate_passive orderly ?_ located rfl rfl
          exact fun isZero => observable (Or.inl isZero)

theorem observeNodes_passive
    (selfNode : UInt32) (snapshot : List TrackedNode)
    {world : RegistryWorld} (orderly : Orderly world.entries) :
    Passive world.entries
      (snapshot.foldl (observeNode selfNode) world).entries := by
  induction snapshot generalizing world with
  | nil => exact Passive.refl orderly
  | cons target snapshot induction =>
      have here := observeNode_passive selfNode orderly target
      exact here.trans (induction here.orderly)

theorem observeSelf_passive
    (selfNode : UInt32) {world : RegistryWorld}
    (orderly : Orderly world.entries) :
    Passive world.entries (observeSelf selfNode world).entries := by
  rw [observeSelf]
  split
  · exact Passive.refl orderly
  · next known =>
      split
      · exact Passive.refl orderly
      · next index entry found =>
          exact
            findOrCreate_passive orderly known (findOrCreate_of_found found)
              rfl rfl

theorem process_passive
    {world : RegistryWorld} (orderly : Orderly world.entries)
    (nowMs : UInt32) (snapshot : List TrackedNode) (selfNode : UInt32) :
    Passive world.entries
      (world.process nowMs snapshot selfNode).entries := by
  rw [RegistryWorld.process]
  split
  · exact Passive.refl orderly
  · split
    · exact Passive.refl orderly
    · have reset := resetRuntime_passive orderly
      have observed :=
        @observeNodes_passive selfNode snapshot
          { world with
            entries := world.entries.map resetRuntime
            lastSyncMs := nowMs
            fits := by rw [List.length_map, world.fits] } reset.orderly
      exact
        (reset.trans observed).trans
          (observeSelf_passive selfNode observed.orderly)

theorem noteTransport_passive
    {world : RegistryWorld} (orderly : Orderly world.entries)
    (nodeId : UInt32) (transport : UInt8) (sourceIp : UInt32) :
    Passive world.entries
      (world.noteTransport nodeId transport sourceIp).2.entries := by
  rw [RegistryWorld.noteTransport]
  split
  · exact Passive.refl orderly
  · next known =>
      split
      · exact Passive.refl orderly
      · next index entry located =>
          exact findOrCreate_passive orderly known located rfl rfl

theorem located_passive
    {world located : RegistryWorld} (orderly : Orderly world.entries)
    {snapshot : List TrackedNode} {nodeId : UInt32}
    (isLocated : world.located snapshot nodeId = some located) :
    Passive world.entries located.entries ∧ located.nvs = world.nvs := by
  rw [RegistryWorld.located] at isLocated
  split at isLocated
  · cases isLocated
    exact ⟨Passive.refl orderly, rfl⟩
  · rw [RegistryWorld.seedEntryFromCluster] at isLocated
    split at isLocated
    · cases isLocated
    · next known =>
        split at isLocated
        · cases isLocated
        · next target isTarget =>
            split at isLocated
            · cases isLocated
            · next index entry created =>
                cases isLocated
                exact ⟨findOrCreate_passive orderly known created rfl rfl, rfl⟩

/-! ## Requests -/

/-- A request changed the admission of one node. -/
structure Changed (before after : List RegistryEntry) (nodeId : UInt32)
    (was now : Admission) : Prop where
  orderly : Orderly after
  known : nodeId ≠ 0
  was :
    admissionOf before nodeId = some was ∨
    admissionOf before nodeId = none ∧ was = Admission.blank
  now : admissionOf after nodeId = some now
  others :
    ∀ other, other ≠ 0 → other ≠ nodeId →
    admissionOf after other = admissionOf before other ∨
    admissionOf before other = none ∧
    admissionOf after other = some Admission.blank

theorem set_changed
    {before entries : List RegistryEntry} (passive : Passive before entries)
    {nodeId : UInt32} (known : nodeId ≠ 0) {index : Nat}
    {entry new : RegistryEntry}
    (found : findLocked entries nodeId = some (index, entry))
    (sameNode : new.nodeId = nodeId)
    (bounded : new.registryState ≤ stateActive) :
    Changed before (entries.set index new) nodeId entry.admission
      new.admission := by
  have written := set_found passive.orderly known found sameNode bounded
  have admission := findLocked_admission found
  refine ⟨written.orderly, known, ?_, ?_, ?_⟩
  · rcases passive.admissions nodeId known with same | ⟨missing, blank⟩
    · exact Or.inl (same.symm.trans admission)
    · rw [admission] at blank
      exact Or.inr ⟨missing, Option.some.inj blank⟩
  · rw [← sameNode]
    exact written.admission
  · intro other isKnown different
    rw [← sameNode] at different
    rw [admissionOf_of_slotsOf (written.others other isKnown different)]
    exact passive.admissions other isKnown

theorem restoreEntry_passive
    {world : RegistryWorld} (orderly : Orderly world.entries)
    {nodeId : UInt32} (known : nodeId ≠ 0) {index : Nat}
    {entry new : RegistryEntry}
    (found : findLocked world.entries nodeId = some (index, entry))
    (sameNode : new.nodeId = nodeId)
    (bounded : new.registryState ≤ stateActive) (outcome : NvsOutcome) :
    Passive world.entries
      (((world.setEntry index new).save outcome).restoreEntry nodeId
        entry).entries := by
  rcases Slots.find?_some found with ⟨holds, isNode⟩
  have changed := set_found orderly known found sameNode bounded
  have present := changed.admission
  rw [sameNode] at present
  rw [RegistryWorld.restoreEntry, if_neg known]
  cases again :
      findLocked ((world.setEntry index new).save outcome).entries nodeId with
  | none =>
      have missing := findLocked_none again
      exact absurd (present.symm.trans missing) (by simp)
  | some slot =>
      have restored :=
        set_found changed.orderly known again isNode
          (orderly.bounded entry (List.mem_of_getElem? holds))
      refine ⟨restored.orderly, ?_⟩
      intro other isKnown
      refine Or.inl ?_
      by_cases own : other = nodeId
      · rw [own, findLocked_admission found, ← isNode]
        exact restored.admission
      · have notEntry : other ≠ entry.nodeId := by
          rw [isNode]
          exact own
        have notNew : other ≠ new.nodeId := by
          rw [sameNode]
          exact own
        refine
          (admissionOf_of_slotsOf
            (restored.others other isKnown notEntry)).trans ?_
        exact admissionOf_of_slotsOf (changed.others other isKnown notNew)

theorem commitChange_effect
    {before : List RegistryEntry} {world : RegistryWorld}
    (passive : Passive before world.entries)
    {nodeId : UInt32} (known : nodeId ≠ 0) {index : Nat}
    {entry new : RegistryEntry}
    (found : findLocked world.entries nodeId = some (index, entry))
    (sameNode : new.nodeId = nodeId)
    (bounded : new.registryState ≤ stateActive) {outcome : NvsOutcome}
    {result : Bool × RegistryWorld}
    (isResult :
      result = (world.setEntry index new).commitChange nodeId entry outcome) :
    result.1 = true ∧
        Changed before result.2.entries nodeId entry.admission new.admission ∨
      result.1 = false ∧ Passive before result.2.entries := by
  rw [isResult, RegistryWorld.commitChange]
  split
  · exact Or.inl ⟨rfl, set_changed passive known found sameNode bounded⟩
  · have restored :=
      restoreEntry_passive passive.orderly known found sameNode bounded outcome
    exact Or.inr ⟨rfl, passive.trans restored⟩

theorem changeNode_effect
    {world : RegistryWorld} (orderly : Orderly world.entries)
    (snapshot : List TrackedNode) (nodeId : UInt32)
    (allowed : RegistryEntry → Bool) (change : RegistryEntry → RegistryEntry)
    (keepsNode : ∀ entry, (change entry).nodeId = entry.nodeId)
    (bounded :
      ∀ entry, entry.registryState ≤ stateActive →
      (change entry).registryState ≤ stateActive)
    (outcome : NvsOutcome) :
    ((world.changeNode snapshot nodeId allowed change outcome).1 = true ∧
        ∃ entry, allowed entry = true ∧
        Changed world.entries
          (world.changeNode snapshot nodeId allowed change outcome).2.entries
          nodeId entry.admission (change entry).admission) ∨
      (world.changeNode snapshot nodeId allowed change outcome).1 = false ∧
      Passive world.entries
        (world.changeNode snapshot nodeId allowed change
          outcome).2.entries := by
  rcases changeNode_cases world snapshot nodeId allowed change outcome with
    refused | ⟨known, located, isLocated, refused |
      ⟨index, entry, found, permitted, isResult⟩⟩
  · rw [refused]
    exact Or.inr ⟨rfl, Passive.refl orderly⟩
  · rw [refused]
    exact Or.inr ⟨rfl, (located_passive orderly isLocated).1⟩
  · have passive := (located_passive orderly isLocated).1
    rcases Slots.find?_some found with ⟨holds, isNode⟩
    have effect :=
      commitChange_effect passive known found
        ((keepsNode entry).trans isNode)
        (bounded entry
          (passive.orderly.bounded entry (List.mem_of_getElem? holds)))
        isResult
    rcases effect with ⟨success, changed⟩ | refused
    · exact Or.inl ⟨success, entry, permitted, changed⟩
    · exact Or.inr refused

/-! ## Replacements -/

/-- A node took over the admission of another. -/
structure Replaced (before after : List RegistryEntry)
    (oldId newId : UInt32) : Prop where
  orderly : Orderly after
  old : admissionOf after oldId = none
  new :
    ∃ was, admissionOf before oldId = some was ∧
    admissionOf after newId =
      some
        { registryState := was.registryState
          profile := registryCopyText (List.ofFn was.profile)
          templateName := registryCopyText (List.ofFn was.templateName) }
  others :
    ∀ other, other ≠ 0 → other ≠ oldId → other ≠ newId →
    admissionOf after other = admissionOf before other

theorem replacementSlot_some
    {entries : List RegistryEntry} {newId : UInt32} {index : Nat}
    {entry : RegistryEntry}
    (isSlot : replacementSlot entries newId = some (index, entry)) :
    entries[index]? = some entry ∧
    (entry.nodeId = newId ∨
    entry.nodeId = 0 ∧ slotsOf entries newId = []) := by
  rw [replacementSlot] at isSlot
  cases found : findLocked entries newId with
  | some slot =>
      rw [found] at isSlot
      have same : slot = (index, entry) := Option.some.inj isSlot
      rw [same] at found
      rcases Slots.find?_some found with ⟨holds, isNode⟩
      exact ⟨holds, Or.inl isNode⟩
  | none =>
      rw [found] at isSlot
      have free : allocateLocked entries = some (index, entry) := isSlot
      rcases Slots.find?_some free with ⟨holds, isFree⟩
      exact ⟨holds, Or.inr ⟨isFree, Slots.find?_none found⟩⟩

theorem set_freed
    {entries : List RegistryEntry} (orderly : Orderly entries)
    {index : Nat} {old : RegistryEntry}
    (holds : entries[index]? = some old) {oldId : UInt32}
    (isOld : old.nodeId = oldId) (oldKnown : oldId ≠ 0) :
    Orderly (entries.set index { old with nodeId := 0 }) ∧
    slotsOf (entries.set index { old with nodeId := 0 }) oldId = [] ∧
    ∀ other, other ≠ 0 → other ≠ oldId →
    slotsOf (entries.set index { old with nodeId := 0 }) other =
      slotsOf entries other := by
  have removed :
      slotsOf (entries.set index { old with nodeId := 0 }) oldId = [] :=
    Slots.holding_set_removed holds isOld oldKnown.symm
      (orderly.distinct oldId oldKnown)
  have kept :
      ∀ other, other ≠ 0 → other ≠ oldId →
      slotsOf (entries.set index { old with nodeId := 0 }) other =
        slotsOf entries other := by
    intro other known notOld
    refine Slots.holding_set_other holds ?_ known.symm
    rw [isOld]
    exact notOld.symm
  refine ⟨⟨?_, ?_⟩, removed, kept⟩
  · intro nodeId known
    by_cases isOldId : nodeId = oldId
    · rw [isOldId, removed]
      exact Nat.zero_le _
    · rw [kept nodeId known isOldId]
      exact orderly.distinct nodeId known
  · intro slot member
    rcases List.mem_or_eq_of_mem_set member with inTable | rfl
    · exact orderly.bounded slot inTable
    · exact orderly.bounded old (List.mem_of_getElem? holds)

theorem replace_written
    {entries : List RegistryEntry} (orderly : Orderly entries)
    {oldId newId : UInt32} (oldKnown : oldId ≠ 0) (newKnown : newId ≠ 0)
    (different : oldId ≠ newId) {oldIndex newIndex : Nat}
    {old entry : RegistryEntry}
    (found : findLocked entries oldId = some (oldIndex, old))
    (isSlot : replacementSlot entries newId = some (newIndex, entry)) :
    Replaced entries
      ((entries.set newIndex (replacing newId old entry)).set oldIndex
        { old with nodeId := 0 })
      oldId newId := by
  rcases Slots.find?_some found with ⟨oldHolds, isOld⟩
  rcases replacementSlot_some isSlot with ⟨newHolds, isNew⟩
  have written :
      Written entries (entries.set newIndex (replacing newId old entry))
        (replacing newId old entry) :=
    set_written orderly newHolds newKnown
      (orderly.bounded old (List.mem_of_getElem? oldHolds)) isNew
  have apart : newIndex ≠ oldIndex := by
    rintro rfl
    have same : entry = old := by
      rw [newHolds] at oldHolds
      exact Option.some.inj oldHolds
    rw [same, isOld] at isNew
    rcases isNew with sameId | ⟨isZero, -⟩
    · exact different sameId
    · exact oldKnown isZero
  have stillHolds :
      (entries.set newIndex (replacing newId old entry))[oldIndex]? =
        some old := by
    rw [List.getElem?_set_ne apart]
    exact oldHolds
  rcases set_freed written.orderly stillHolds isOld oldKnown with
    ⟨freed, removed, kept⟩
  refine ⟨freed, ?_, ?_, ?_⟩
  · rw [admissionOf, removed]
    rfl
  · refine ⟨old.admission, findLocked_admission found, ?_⟩
    rw [admissionOf_of_slotsOf (kept newId newKnown different.symm)]
    exact written.admission
  · intro other known notOld notNew
    rw [admissionOf_of_slotsOf (kept other known notOld)]
    exact admissionOf_of_slotsOf (written.others other known notNew)

theorem commitChange_replaced
    {world : RegistryWorld} (orderly : Orderly world.entries)
    {oldId newId : UInt32} (oldKnown : oldId ≠ 0) (newKnown : newId ≠ 0)
    (different : oldId ≠ newId) {oldIndex newIndex : Nat}
    {old entry : RegistryEntry}
    (found : findLocked world.entries oldId = some (oldIndex, old))
    (isSlot : replacementSlot world.entries newId = some (newIndex, entry))
    {outcome : NvsOutcome} {result : Bool × RegistryWorld}
    (isResult :
      result =
        ((world.setEntry newIndex (replacing newId old entry)).setEntry
          oldIndex { old with nodeId := 0 }).commitChange oldId old
          outcome) :
    result.1 = outcome.succeeds ∧
    Replaced world.entries result.2.entries oldId newId := by
  have written :=
    replace_written orderly oldKnown newKnown different found isSlot
  rw [isResult, RegistryWorld.commitChange]
  split
  · next succeeds => exact ⟨succeeds.symm, written⟩
  · next fails =>
      refine ⟨(Bool.eq_false_iff.mpr fails).symm, ?_⟩
      rw [RegistryWorld.restoreEntry, if_neg oldKnown]
      split
      · exact written
      · next index slot again =>
          have present := findLocked_admission again
          exact absurd (written.old.symm.trans present) (by simp)

theorem replace_effect
    {world : RegistryWorld} (orderly : Orderly world.entries)
    (oldId newId : UInt32) (outcome : NvsOutcome) :
    world.replace oldId newId outcome = (false, world) ∨
    (oldId ≠ 0 ∧ newId ≠ 0) ∧
    (world.replace oldId newId outcome).1 = outcome.succeeds ∧
    Replaced world.entries
      (world.replace oldId newId outcome).2.entries oldId newId := by
  rcases replace_cases world oldId newId outcome with
    refused | ⟨⟨oldKnown, newKnown, different⟩, oldIndex, old, newIndex,
      entry, found, isSlot, isResult⟩
  · exact Or.inl refused
  · exact
      Or.inr
        ⟨⟨oldKnown, newKnown⟩,
          commitChange_replaced orderly oldKnown newKnown different found
            isSlot isResult⟩

end Endap.Registry
