import Endap.Installation.Map
import Endap.Library.Addressing
import Endap.Library.Run

/-!
# Commands by identifier

An output is commanded by the identifier of its entry, and the first entry
with the identifier is taken.  Nothing in the map keeps identifiers apart:
the templates give every node the same local codes, a copy of a node loses
the global codes, and an update accepts any code.

The module says, function by function, when the identifiers stay apart, and
that in a run every entry is found under its own identifier exactly as long
as all of them did.
-/

namespace Endap.Installation

open Endap.Library
open Endap.Library.Run
open Endap.State

/-- Every entry with an identifier is the one found under it, and an output is
commanded at its own node and channel. -/
structure ResourcesAddressed (entries : List InstallationEntry) : Prop where
  found :
    ∀ (index : Nat) (entry : InstallationEntry),
      entries[index]? = some entry →
      resourceId entry ≠ [] →
      installationMapFindByResourceId entries (resourceId entry) =
        some (index, entry)
  commanded :
    ∀ entry ∈ entries,
      resourceId entry ≠ [] → entry.kind = 1 →
      commandTarget entries (resourceId entry) =
        some (entry.nodeId, entry.channelId)

/-- No two entries share an identifier. -/
abbrev DistinctResources (entries : List InstallationEntry) : Prop :=
  Addressing.Distinct resourceId [] entries

theorem resourcesAddressed_iff (entries : List InstallationEntry) :
    ResourcesAddressed entries ↔ DistinctResources entries := by
  rw [DistinctResources, Addressing.distinct_iff_found]
  constructor
  · intro addressed index entry holds solid
    have found := addressed.found index entry holds solid
    rwa [installationMapFindByResourceId, if_neg solid] at found
  · intro found
    have search :
        ∀ (index : Nat) (entry : InstallationEntry),
          entries[index]? = some entry →
          resourceId entry ≠ [] →
          installationMapFindByResourceId entries (resourceId entry) =
            some (index, entry) := by
      intro index entry holds solid
      rw [installationMapFindByResourceId, if_neg solid]
      exact found index entry holds solid
    refine ⟨search, ?_⟩
    intro entry member solid isOutput
    rcases List.mem_iff_getElem?.mp member with ⟨index, holds⟩
    rw [commandTarget, search index entry holds solid]
    exact if_neg (not_not.mpr isOutput)

/-! ## When a function keeps identifiers apart -/

/-- No entry but the one that is updated has the identifier that the
arguments give. -/
def UpsertApart
    (entries : List InstallationEntry) (arguments : UpsertArguments) :
    Prop :=
  arguments.removes = false →
  (arguments.target? entries = none → entries.length < maxEntries) →
  resourceId arguments.entry ≠ [] →
  ∀ (other : Nat) (entry : InstallationEntry),
    entries[other]? = some entry →
    arguments.target? entries ≠ some other →
    resourceId entry ≠ resourceId arguments.entry

/-- No two of the entries that are copied share a local code, and none of
these codes is the identifier of an entry. -/
def CopyApart (entries : List InstallationEntry) (oldId : UInt32) : Prop :=
  Addressing.Distinct InstallationEntry.localCode []
      (copiedEntries entries oldId) ∧
  ∀ copied ∈ copiedEntries entries oldId,
    copied.localCode ≠ [] →
    ∀ entry ∈ entries, resourceId entry ≠ copied.localCode

/-- No two entries that a load takes from the blob share an identifier. -/
def StoredApart : Option InstallationBlob → Prop
  | none => True
  | some (.current entries) =>
      entries.length ≤ maxEntries → DistinctResources entries
  | some (.legacy entries) =>
      DistinctResources ((entries.take maxEntries).map migrateEntry)
  | some .other => True

/-- The step keeps identifiers apart. -/
def KeepsApart (world : InstallationWorld) : InstallationAction → Prop
  | .load readable _ => readable = true → StoredApart world.flash
  | .saveHandler request _ =>
      ∀ arguments,
        request.arguments? = some arguments →
        UpsertApart world.entries arguments
  | .template nodeId channel _ =>
      nodeId ≠ 0 → UpsertApart world.entries (channel.arguments nodeId)
  | .save _ => True
  | .replaceNode _ _ _ => True
  | .cloneNode oldId _ _ => CopyApart world.entries oldId

/-! ## Each function -/

theorem distinctResources_nil : DistinctResources [] := List.Pairwise.nil

theorem target?_inside
    {entries : List InstallationEntry} {arguments : UpsertArguments}
    {index : Nat} (target : arguments.target? entries = some index) :
    ∃ entry, entries[index]? = some entry := by
  have inside : index < entries.length :=
    (List.findIdx?_eq_some_iff_findIdx_eq.mp target).1
  exact ⟨entries[index], List.getElem?_eq_getElem inside⟩

variable {world : InstallationWorld}

theorem installationMapUpsert_distinct
    (distinct : DistinctResources world.entries)
    (arguments : UpsertArguments) (outcome : NvsOutcome) :
    DistinctResources
        (installationMapUpsert world arguments outcome).1.entries ↔
    UpsertApart world.entries arguments := by
  unfold installationMapUpsert UpsertApart
  by_cases removes : arguments.removes = true
  · -- A removal leaves a part of the entries.
    rw [if_pos removes]
    refine iff_of_true ?_ fun keeps => ?_
    · cases arguments.target? world.entries with
      | none => exact distinct
      | some index => exact distinct.sublist (List.eraseIdx_sublist ..)
    · rw [removes] at keeps
      cases keeps
  · have updates : arguments.removes = false := by simpa using removes
    rw [if_neg removes]
    cases target : arguments.target? world.entries with
    | none =>
        dsimp only
        by_cases full : world.entries.length ≥ maxEntries
        · rw [if_pos full]
          refine iff_of_true distinct fun _ room => ?_
          exact absurd (room rfl) (Nat.not_lt.mpr full)
        · rw [if_neg full]
          refine (distinct.append_iff [arguments.entry]).trans ?_
          constructor
          · rintro ⟨_, apart⟩ _ _ solid other entry holds _
            exact
              apart _ (List.mem_singleton_self _) solid entry
                (List.mem_of_getElem? holds)
          · intro apart
            refine ⟨List.pairwise_singleton .., ?_⟩
            intro added isAdded solid entry member
            rw [List.mem_singleton] at isAdded
            subst isAdded
            rcases List.mem_iff_getElem?.mp member with ⟨other, holds⟩
            exact
              apart updates (fun _ => Nat.not_le.mp full) solid other entry
                holds nofun
    | some index =>
        rcases target?_inside target with ⟨old, holdsOld⟩
        refine (distinct.set_iff holdsOld arguments.entry).trans ?_
        constructor
        · intro apart _ _ solid other entry holds different
          exact
            apart solid other entry holds fun same =>
              different (congrArg some same.symm)
        · intro apart solid other entry holds different
          exact
            apart updates nofun solid other entry holds fun same =>
              different (Option.some.inj same).symm

theorem resourceId_moveEntry
    (oldId newId : UInt32) (entry : InstallationEntry) :
    resourceId (moveEntry oldId newId entry) = resourceId entry := by
  unfold moveEntry
  split <;> rfl

theorem installationMapReplaceNode_distinct
    (distinct : DistinctResources world.entries) (oldId newId : UInt32)
    (outcome : NvsOutcome) :
    DistinctResources
      (installationMapReplaceNode world oldId newId outcome).1.entries := by
  unfold installationMapReplaceNode
  split
  · exact
      (Addressing.distinct_map_iff (resourceId_moveEntry oldId newId)).mpr
        distinct
  · exact distinct

theorem resourceId_copyEntry (newId : UInt32) (entry : InstallationEntry) :
    resourceId (copyEntry newId entry) = entry.localCode :=
  if_neg (not_not.mpr rfl)

theorem installationMapCloneNode_distinct
    (distinct : DistinctResources world.entries) (oldId newId : UInt32)
    (outcome : NvsOutcome) :
    DistinctResources
        (installationMapCloneNode world oldId newId outcome).1.entries ↔
    CopyApart world.entries oldId := by
  unfold installationMapCloneNode CopyApart
  split
  · refine
      (distinct.append_iff
        ((copiedEntries world.entries oldId).map (copyEntry newId))).trans ?_
    simp only [Addressing.Distinct, List.pairwise_map, List.forall_mem_map,
      resourceId_copyEntry]
  · rename_i empty
    rw [not_not.mp empty]
    refine iff_of_true distinct ⟨List.Pairwise.nil, ?_⟩
    intro copied member
    cases member

theorem installationMapLoad_distinct
    (world : InstallationWorld) (readable : Bool) (outcome : NvsOutcome) :
    DistinctResources (installationMapLoad world readable outcome).1.entries ↔
    (readable = true → StoredApart world.flash) := by
  unfold installationMapLoad
  by_cases isReadable : readable = true
  · rw [if_pos isReadable, forall_prop_of_true isReadable]
    unfold StoredApart
    cases world.flash with
    | none => exact iff_of_true distinctResources_nil trivial
    | some blob =>
        cases blob with
        | current entries =>
            dsimp only
            by_cases fits : entries.length ≤ maxEntries
            · rw [if_pos fits, forall_prop_of_true fits]
            · rw [if_neg fits, forall_prop_of_false fits]
              exact iff_of_true distinctResources_nil trivial
        | legacy entries => exact Iff.rfl
        | other => exact iff_of_true distinctResources_nil trivial
  · rw [if_neg isReadable, forall_prop_of_false isReadable]
    exact iff_of_true distinctResources_nil trivial

theorem installationStep_distinct
    (world : InstallationWorld) (action : InstallationAction)
    (distinct : DistinctResources world.entries) :
    DistinctResources (installationStep world action).1.entries ↔
    KeepsApart world action := by
  cases action with
  | load readable outcome => exact installationMapLoad_distinct ..
  | saveHandler request outcome =>
      rw [installationStep, KeepsApart]
      cases request.arguments? with
      | none => exact iff_of_true distinct fun _ missing => by cases missing
      | some arguments =>
          refine
            (installationMapUpsert_distinct distinct arguments outcome).trans ?_
          constructor
          · rintro apart _ ⟨⟩
            exact apart
          · intro apart
            exact apart arguments rfl
  | template nodeId channel outcome =>
      rw [installationStep, KeepsApart]
      by_cases refused : nodeId = 0
      · rw [if_pos refused]
        exact iff_of_true distinct fun accepted => absurd refused accepted
      · rw [if_neg refused, forall_prop_of_true refused]
        exact installationMapUpsert_distinct distinct _ outcome
  | save outcome => exact iff_of_true distinct trivial
  | replaceNode oldId newId outcome =>
      exact
        iff_of_true
          (installationMapReplaceNode_distinct distinct oldId newId outcome)
          trivial
  | cloneNode oldId newId outcome =>
      exact installationMapCloneNode_distinct distinct oldId newId outcome

/-! ## Every run -/

/--
From a start with any blob in the flash: after every step each entry is found
and commanded under its identifier, exactly if every step kept identifiers
apart.
-/
theorem resources_addressed_along_runs
    (flash : Option InstallationBlob) (actions : List InstallationAction) :
    (∀ made ∈ history installationStep ⟨[], flash⟩ actions,
        ResourcesAddressed made.after.entries) ↔
      ∀ made ∈ history installationStep ⟨[], flash⟩ actions,
        KeepsApart made.before made.action := by
  have start : DistinctResources (InstallationWorld.mk [] flash).entries :=
    distinctResources_nil
  simp only [resourcesAddressed_iff]
  exact
    history_invariant_iff
      (fun world => DistinctResources world.entries) KeepsApart
      installationStep_distinct start actions

def twoRelayNodes : List InstallationAction :=
  .load true .committed ::
    (nodesTemplateApplyHandler 2 (CText.bytes "relay-node") .committed ++
      nodesTemplateApplyHandler 3 (CText.bytes "relay-node") .committed)

/-- The first relay of the second node is commanded at the first node. -/
theorem relay_of_other_node_commanded :
    (∃ entry ∈ (final installationStep ⟨[], none⟩ twoRelayNodes).entries,
        resourceId entry = CText.bytes "Q0" ∧ entry.kind = 1 ∧
        (entry.nodeId, entry.channelId) = (3, 0)) ∧
      commandTarget
          (final installationStep ⟨[], none⟩ twoRelayNodes).entries
          (CText.bytes "Q0") = some (2, 0) ∧
      ¬ ∀ made ∈ history installationStep ⟨[], none⟩ twoRelayNodes,
        ResourcesAddressed made.after.entries := by
  have target :
      commandTarget
          (final installationStep ⟨[], none⟩ twoRelayNodes).entries
          (CText.bytes "Q0") = some (2, 0) := by
    decide +kernel
  have present :
      ∃ entry ∈ (final installationStep ⟨[], none⟩ twoRelayNodes).entries,
        resourceId entry = CText.bytes "Q0" ∧ entry.kind = 1 ∧
        (entry.nodeId, entry.channelId) = (3, 0) := by
    decide +kernel
  refine ⟨present, target, ?_⟩
  intro addressed
  have last :=
    addressed _
      (call_mem_history installationStep ⟨[], none⟩
        (twoRelayNodes.dropLast) (.save .committed) [])
  rcases present with ⟨entry, member, isId, isOutput, place⟩
  have own :=
    last.commanded entry member (by rw [isId]; decide +kernel) isOutput
  rw [isId, place] at own
  exact absurd (target.symm.trans own) (by decide)

end Endap.Installation
