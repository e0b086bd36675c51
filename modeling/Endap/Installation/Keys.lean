import Endap.Installation.Map
import Endap.Library.Addressing
import Endap.Library.Run
import Mathlib.Data.List.Nodup

/-!
# The installation map as a keyed store

An entry is stored under its node, kind, channel and local code.  An update
looks for the key first, but an empty local code stands for any code in the
search and for itself when the entry is written, and a code that is too long
is compared as it was given and stored cut.  The replacement and the copy of a
node do not look for the keys that the other node has already.

The module says, function by function, when the map stays a keyed store, and
that in a run it does exactly as long as every call was one of those.
-/

namespace Endap.Installation

open Endap.Library
open Endap.Library.Run
open Endap.State

/-- What an entry is stored under. -/
def entryKey (entry : InstallationEntry) :
    UInt32 × UInt8 × UInt16 × List UInt8 :=
  (entry.nodeId, entry.kind, entry.channelId, entry.localCode)

/-- The nodes of a replacement or of a copy. -/
structure NodePair where
  oldId : UInt32
  newId : UInt32
  oldNonzero : oldId ≠ 0
  newNonzero : newId ≠ 0
  different : oldId ≠ newId

/-- A call that changes the map. -/
inductive MapCall where
  | upsert (arguments : UpsertArguments) (outcome : NvsOutcome)
  | replaceNode (nodes : NodePair) (outcome : NvsOutcome)
  | cloneNode (nodes : NodePair) (outcome : NvsOutcome)

/-- One call, with its result. -/
def mapCall (world : InstallationWorld) :
    MapCall → InstallationWorld × Bool
  | .upsert arguments outcome => installationMapUpsert world arguments outcome
  | .replaceNode nodes outcome =>
      installationMapReplaceNode world nodes.oldId nodes.newId outcome
  | .cloneNode nodes outcome =>
      installationMapCloneNode world nodes.oldId nodes.newId outcome

/-- No two entries have the same key. -/
def DistinctKeys (entries : List InstallationEntry) : Prop :=
  (entries.map entryKey).Nodup

/-- The entries under other keys than that of the update. -/
def otherEntries
    (arguments : UpsertArguments) (entries : List InstallationEntry) :
    List InstallationEntry :=
  entries.filter fun entry => entryKey entry ≠ entryKey arguments.entry

/-- The map is a keyed store after a call, and an update has changed nothing
under other keys than its own. -/
structure KeyedStore
    (made : Transition InstallationWorld MapCall Bool) : Prop where
  fits : made.after.entries.length ≤ maxEntries
  distinct : DistinctKeys made.after.entries
  own :
    ∀ arguments outcome,
      made.action = .upsert arguments outcome →
      otherEntries arguments made.after.entries =
        otherEntries arguments made.before.entries

/-! ## When a call keeps the store keyed -/

/-- The entry has the node, kind and channel of the update. -/
def UpsertArguments.sameChannel
    (arguments : UpsertArguments) (entry : InstallationEntry) : Bool :=
  entry.nodeId = arguments.nodeId ∧ entry.kind = arguments.kind ∧
  entry.channelId = arguments.channelId

/-- An update without a local code meets, first of its channel, an entry
without one; and one whose local code is cut adds no key twice. -/
structure UpsertKeyed
    (entries : List InstallationEntry) (arguments : UpsertArguments) :
    Prop where
  empty :
    arguments.localCode = [] →
    ∀ entry,
      entries.find? arguments.sameChannel = some entry → entry.localCode = []
  cut :
    11 < arguments.localCode.length →
    arguments.removes = false → entries.length < maxEntries →
    ∀ entry ∈ entries, entryKey entry ≠ entryKey arguments.entry

/-- No entry of the node that moves is on the other node already. -/
def ReplaceKeyed (entries : List InstallationEntry) (nodes : NodePair) : Prop :=
  ∀ old ∈ entries,
    old.nodeId = nodes.oldId →
    ∀ new ∈ entries,
      new.nodeId = nodes.newId →
      (old.kind, old.channelId, old.localCode) ≠
        (new.kind, new.channelId, new.localCode)

/-- No entry that is copied is on the other node already. -/
def CopyKeyed (entries : List InstallationEntry) (nodes : NodePair) : Prop :=
  ∀ copied ∈ copiedEntries entries nodes.oldId,
    ∀ new ∈ entries,
      new.nodeId = nodes.newId →
      (copied.kind, copied.channelId, copied.localCode) ≠
        (new.kind, new.channelId, new.localCode)

/-- The call keeps the store keyed. -/
def KeepsKeys (world : InstallationWorld) : MapCall → Prop
  | .upsert arguments _ => UpsertKeyed world.entries arguments
  | .replaceNode nodes _ => ReplaceKeyed world.entries nodes
  | .cloneNode nodes _ => CopyKeyed world.entries nodes

/-- What holds of the entries between calls: every local code fits its
field. -/
structure WellKeyed (world : InstallationWorld) : Prop where
  fits : world.entries.length ≤ maxEntries
  short : ∀ entry ∈ world.entries, entry.localCode.length ≤ 11
  distinct : DistinctKeys world.entries

/-! ## The search of an update -/

variable {entries : List InstallationEntry} {arguments : UpsertArguments}
    {entry : InstallationEntry}

theorem target?_none
    (missing : arguments.target? entries = none)
    (member : entry ∈ entries)
    (same : arguments.sameChannel entry = true) :
    arguments.localCode ≠ [] ∧ entry.localCode ≠ arguments.localCode := by
  have unmatched := List.findIdx?_eq_none_iff.mp missing entry member
  simp only [UpsertArguments.sameChannel, Bool.decide_and,
    Bool.and_eq_true, decide_eq_true_eq] at same
  simpa [same] using unmatched

variable {index : Nat}

theorem target?_some
    (target : arguments.target? entries = some index) :
    ∃ entry,
      entries[index]? = some entry ∧
      arguments.sameChannel entry = true ∧
      (arguments.localCode = [] ∨
      entry.localCode = arguments.localCode) := by
  have found := List.findIdx?_eq_some_iff_getElem.mp target
  rcases found with ⟨inside, matched, _⟩
  refine ⟨entries[index], List.getElem?_eq_getElem inside, ?_⟩
  simpa [UpsertArguments.sameChannel, and_assoc] using matched

theorem target?_first
    (empty : arguments.localCode = []) :
    (arguments.target? entries).bind (entries[·]?) =
      entries.find? arguments.sameChannel := by
  rw [List.find?_eq_bind_findIdx?_getElem?]
  congr 1
  rw [UpsertArguments.target?, installationMapFind]
  congr 1
  funext entry
  simp [UpsertArguments.sameChannel, empty]

theorem entryKey_eq_iff
    :
    entryKey entry = entryKey arguments.entry ↔
    arguments.sameChannel entry = true ∧
    entry.localCode = arguments.localCode.take 11 := by
  simp [entryKey, UpsertArguments.entry, UpsertArguments.sameChannel, and_assoc]

variable {world : InstallationWorld}

/-- The entry found has the key of the update exactly if the update keeps the
store keyed. -/
theorem found_key_iff
    (keyed : WellKeyed world)
    (target : arguments.target? world.entries = some index)
    (holds : world.entries[index]? = some entry) :
    entryKey entry = entryKey arguments.entry ↔
    UpsertKeyed world.entries arguments := by
  have short := keyed.short entry (List.mem_of_getElem? holds)
  rcases target?_some target with ⟨found, isFound, same, code⟩
  cases holds.symm.trans isFound
  rw [entryKey_eq_iff]
  by_cases empty : arguments.localCode = []
  · have first := @target?_first world.entries arguments empty
    rw [target, Option.bind_some, holds] at first
    rw [empty, List.take_nil]
    constructor
    · rintro ⟨_, noCode⟩
      refine ⟨fun _ other isFirst => ?_, fun long => ?_⟩
      · cases first.trans isFirst
        exact noCode
      · rw [empty] at long
        cases long
    · intro updates
      exact ⟨same, updates.empty empty entry first.symm⟩
  · have isCode := code.resolve_left empty
    refine iff_of_true ⟨same, ?_⟩ ⟨fun noCode => absurd noCode empty, ?_⟩
    · rw [← isCode, List.take_of_length_le short]
    · intro long
      rw [← isCode] at long
      exact absurd short (Nat.not_le.mpr long)

theorem missing_key
    (missing : arguments.target? entries = none)
    (uncut : arguments.localCode.length ≤ 11)
    (member : entry ∈ entries) :
    entryKey entry ≠ entryKey arguments.entry := by
  intro sameKey
  rcases entryKey_eq_iff.mp sameKey with ⟨same, code⟩
  rw [List.take_of_length_le uncut] at code
  exact (target?_none missing member same).2 code

theorem upsertKeyed_of_missing
    (missing : arguments.target? entries = none)
    (apart :
      arguments.removes = false → entries.length < maxEntries →
      ∀ entry ∈ entries, entryKey entry ≠ entryKey arguments.entry) :
    UpsertKeyed entries arguments := by
  refine ⟨fun empty entry isFirst => ?_, fun _ => apart⟩
  have same := List.find?_some isFirst
  have member := List.mem_of_find?_eq_some isFirst
  exact absurd empty (target?_none missing member same).1

/-! ## Each function -/

theorem otherEntries_own (arguments : UpsertArguments) :
    decide (entryKey arguments.entry ≠ entryKey arguments.entry) = false :=
  decide_eq_false (not_not.mpr rfl)

theorem distinctKeys_append_iff
    (distinct : DistinctKeys entries)
    (entry : InstallationEntry) :
    DistinctKeys (entries ++ [entry]) ↔
    ∀ other ∈ entries, entryKey other ≠ entryKey entry := by
  rw [DistinctKeys, List.map_append, List.map_singleton, List.nodup_append]
  constructor
  · rintro ⟨_, _, apart⟩ other member
    exact apart _ (List.mem_map_of_mem member) _ (List.mem_singleton_self _)
  · intro apart
    refine ⟨distinct, List.nodup_singleton _, ?_⟩
    intro key isKey added isAdded
    rcases List.mem_map.mp isKey with ⟨other, member, rfl⟩
    rw [List.mem_singleton.mp isAdded]
    exact apart other member

theorem distinctKeys_set
    (distinct : DistinctKeys entries)
    {old new : InstallationEntry}
    (holds : entries[index]? = some old)
    (sameKey : entryKey old = entryKey new) :
    DistinctKeys (entries.set index new) := by
  have sameKeys :
      (entries.set index new).map entryKey = entries.map entryKey := by
    rcases List.getElem?_eq_some_iff.mp holds with ⟨inside, rfl⟩
    have unmoved :=
      @List.set_getElem_self _ (entries.map entryKey) index (by simpa)
    rwa [List.getElem_map, sameKey, ← List.map_set] at unmoved
  rw [DistinctKeys, sameKeys]
  exact distinct

theorem installationMapUpsert_missing
    (keyed : WellKeyed world)
    (target : arguments.target? world.entries = none)
    (outcome : NvsOutcome) :
    DistinctKeys
          (installationMapUpsert world arguments outcome).1.entries ∧
        otherEntries arguments
            (installationMapUpsert world arguments outcome).1.entries =
          otherEntries arguments world.entries ↔
      UpsertKeyed world.entries arguments := by
  unfold installationMapUpsert
  rw [target]
  by_cases removes : arguments.removes = true
  · rw [if_pos removes]
    refine
      iff_of_true ⟨keyed.distinct, rfl⟩
        (upsertKeyed_of_missing target fun keeps => ?_)
    rw [removes] at keeps
    cases keeps
  · rw [if_neg removes]
    dsimp only
    by_cases full : world.entries.length ≥ maxEntries
    · rw [if_pos full]
      refine
        iff_of_true ⟨keyed.distinct, rfl⟩
          (upsertKeyed_of_missing target fun _ room => ?_)
      exact absurd full (Nat.not_le.mpr room)
    · rw [if_neg full]
      have sameOthers :
          otherEntries arguments (world.entries ++ [arguments.entry]) =
            otherEntries arguments world.entries := by
        simp [otherEntries]
      refine
        (and_iff_left sameOthers).trans
          ((distinctKeys_append_iff keyed.distinct _).trans ?_)
      constructor
      · intro apart
        exact upsertKeyed_of_missing target fun _ _ => apart
      · intro updates other member
        by_cases uncut : arguments.localCode.length ≤ 11
        · exact missing_key target uncut member
        · exact
            updates.cut (Nat.not_le.mp uncut) (by simpa using removes)
              (Nat.not_le.mp full) other member

theorem installationMapUpsert_found
    (keyed : WellKeyed world)
    (target : arguments.target? world.entries = some index)
    (outcome : NvsOutcome) :
    DistinctKeys
          (installationMapUpsert world arguments outcome).1.entries ∧
        otherEntries arguments
            (installationMapUpsert world arguments outcome).1.entries =
          otherEntries arguments world.entries ↔
      UpsertKeyed world.entries arguments := by
  have notOwn := otherEntries_own arguments
  rcases target?_some target with ⟨old, holds, _, _⟩
  rw [← found_key_iff keyed target holds]
  have chosen :
      decide (entryKey old ≠ entryKey arguments.entry) = false ↔
      entryKey old = entryKey arguments.entry := by
    simp
  unfold installationMapUpsert
  rw [target]
  by_cases removes : arguments.removes = true
  · rw [if_pos removes]
    have fewer : DistinctKeys (world.entries.eraseIdx index) :=
      List.Nodup.sublist
        ((List.eraseIdx_sublist world.entries index).map entryKey)
        keyed.distinct
    refine (and_iff_right fewer).trans ?_
    exact (Addressing.filter_eraseIdx_iff _ holds).trans chosen
  · rw [if_neg removes]
    constructor
    · rintro ⟨_, sameOthers⟩
      exact chosen.mp ((Addressing.filter_set_iff _ holds notOwn).mp sameOthers)
    · intro sameKey
      refine ⟨distinctKeys_set keyed.distinct holds sameKey, ?_⟩
      exact (Addressing.filter_set_iff _ holds notOwn).mpr (chosen.mpr sameKey)

theorem installationMapUpsert_keyed
    (keyed : WellKeyed world)
    (arguments : UpsertArguments) (outcome : NvsOutcome) :
    DistinctKeys
          (installationMapUpsert world arguments outcome).1.entries ∧
        otherEntries arguments
            (installationMapUpsert world arguments outcome).1.entries =
          otherEntries arguments world.entries ↔
      UpsertKeyed world.entries arguments := by
  cases target : arguments.target? world.entries with
  | none => exact installationMapUpsert_missing keyed target outcome
  | some index => exact installationMapUpsert_found keyed target outcome

/-- The key of an entry that moves. -/
def moveKey (nodes : NodePair) :
    UInt32 × UInt8 × UInt16 × List UInt8 → UInt32 × UInt8 × UInt16 × List UInt8
  | (nodeId, rest) =>
      (if nodeId = nodes.oldId then nodes.newId else nodeId, rest)

theorem entryKey_moveEntry
    (nodes : NodePair) (entry : InstallationEntry) :
    entryKey (moveEntry nodes.oldId nodes.newId entry) =
      moveKey nodes (entryKey entry) := by
  rw [moveEntry, entryKey, entryKey, moveKey]
  by_cases moves : entry.nodeId = nodes.oldId
  · rw [if_pos moves, if_pos moves]
  · rw [if_neg moves, if_neg moves]

/-- What a replacement leaves has distinct keys exactly if the nodes had no
entry in common. -/
theorem replaceNode_keyed
    (distinct : DistinctKeys entries)
    (nodes : NodePair) :
    DistinctKeys (entries.map (moveEntry nodes.oldId nodes.newId)) ↔
    ReplaceKeyed entries nodes := by
  have moved :
      (entries.map (moveEntry nodes.oldId nodes.newId)).map entryKey =
        (entries.map entryKey).map (moveKey nodes) := by
    rw [List.map_map, List.map_map]
    exact List.map_congr_left fun entry _ => entryKey_moveEntry nodes entry
  rw [DistinctKeys, moved, List.nodup_map_iff_inj_on distinct]
  constructor
  · intro injective old inOld isOld new inNew isNew same
    have sameKey :=
      injective (entryKey old) (List.mem_map_of_mem inOld) (entryKey new)
        (List.mem_map_of_mem inNew)
        (by
          have other : nodes.newId ≠ nodes.oldId := nodes.different.symm
          rw [entryKey, entryKey, moveKey, moveKey, isOld, isNew,
            if_pos rfl, if_neg other, same])
    refine nodes.different ?_
    rw [← isOld, ← isNew]
    exact congrArg Prod.fst sameKey
  · intro apart first isFirst second isSecond same
    rcases List.mem_map.mp isFirst with ⟨one, inOne, rfl⟩
    rcases List.mem_map.mp isSecond with ⟨two, inTwo, rfl⟩
    rcases Prod.mk.inj same with ⟨sameNode, sameRest⟩
    refine Prod.ext ?_ sameRest
    change one.nodeId = two.nodeId
    -- Two entries meet only if one moves onto the other.
    by_cases oneMoves : one.nodeId = nodes.oldId
    · by_cases twoMoves : two.nodeId = nodes.oldId
      · rw [oneMoves, twoMoves]
      · rw [if_pos oneMoves, if_neg twoMoves] at sameNode
        exact absurd sameRest (apart one inOne oneMoves two inTwo sameNode.symm)
    · by_cases twoMoves : two.nodeId = nodes.oldId
      · rw [if_neg oneMoves, if_pos twoMoves] at sameNode
        exact absurd sameRest.symm (apart two inTwo twoMoves one inOne sameNode)
      · rwa [if_neg oneMoves, if_neg twoMoves] at sameNode

theorem installationMapReplaceNode_keyed
    (keyed : WellKeyed world)
    (nodes : NodePair) (outcome : NvsOutcome) :
    DistinctKeys
        (installationMapReplaceNode world nodes.oldId nodes.newId
          outcome).1.entries ↔
    ReplaceKeyed world.entries nodes := by
  unfold installationMapReplaceNode
  split
  · exact replaceNode_keyed keyed.distinct nodes
  · rename_i absent
    refine iff_of_true keyed.distinct ?_
    intro old member isOld
    refine absurd (List.any_eq_true.mpr ⟨old, member, ?_⟩) absent
    exact decide_eq_true isOld

theorem mem_copiedEntries
    {oldId : UInt32}
    {copied : InstallationEntry}
    (member : copied ∈ copiedEntries entries oldId) :
    copied ∈ entries ∧ copied.nodeId = oldId := by
  have inside := List.mem_filter.mp (List.mem_of_mem_take member)
  exact ⟨inside.1, of_decide_eq_true inside.2⟩

theorem copies_distinct
    (distinct : DistinctKeys entries)
    (oldId newId : UInt32) :
    DistinctKeys
      ((copiedEntries entries oldId).map (copyEntry newId)) := by
  have fewer : ((copiedEntries entries oldId).map entryKey).Nodup :=
    List.Nodup.sublist
      (((List.take_sublist _ _).trans List.filter_sublist).map entryKey)
      distinct
  have copied :
      ((copiedEntries entries oldId).map (copyEntry newId)).map entryKey =
        ((copiedEntries entries oldId).map entryKey).map
          fun key => (newId, key.2) := by
    rw [List.map_map, List.map_map]
    rfl
  rw [DistinctKeys, copied, List.nodup_map_iff_inj_on fewer]
  intro first isFirst second isSecond same
  rcases List.mem_map.mp isFirst with ⟨one, inOne, rfl⟩
  rcases List.mem_map.mp isSecond with ⟨two, inTwo, rfl⟩
  refine Prod.ext ?_ (Prod.mk.inj same).2
  exact (mem_copiedEntries inOne).2.trans (mem_copiedEntries inTwo).2.symm

theorem installationMapCloneNode_keyed
    (keyed : WellKeyed world)
    (nodes : NodePair) (outcome : NvsOutcome) :
    DistinctKeys
        (installationMapCloneNode world nodes.oldId nodes.newId
          outcome).1.entries ↔
    CopyKeyed world.entries nodes := by
  unfold installationMapCloneNode
  split
  · have copies :=
      copies_distinct keyed.distinct nodes.oldId nodes.newId
    change
      DistinctKeys
          (world.entries ++
            (copiedEntries world.entries nodes.oldId).map
              (copyEntry nodes.newId)) ↔ _
    rw [DistinctKeys, List.map_append, List.nodup_append]
    constructor
    · rintro ⟨_, _, apart⟩ copied inCopied new inNew isNew same
      refine
        apart (entryKey new) (List.mem_map_of_mem inNew)
          (entryKey (copyEntry nodes.newId copied))
          (List.mem_map_of_mem (List.mem_map_of_mem inCopied)) ?_
      exact Prod.ext isNew same.symm
    · intro apart
      refine ⟨keyed.distinct, copies, ?_⟩
      intro key isKey added isAdded same
      rcases List.mem_map.mp isKey with ⟨new, inNew, rfl⟩
      rcases List.mem_map.mp isAdded with ⟨copy, isCopy, rfl⟩
      rcases List.mem_map.mp isCopy with ⟨copied, inCopied, rfl⟩
      rcases Prod.mk.inj same with ⟨isNew, sameRest⟩
      exact apart copied inCopied new inNew isNew sameRest.symm
  · rename_i nothing
    refine iff_of_true keyed.distinct ?_
    intro copied member
    rw [not_not.mp nothing] at member
    cases member

/-! ## Every run -/

/-- The entries fit into the array, and their local codes into their
fields. -/
structure Bounded (entries : List InstallationEntry) : Prop where
  fits : entries.length ≤ maxEntries
  short : ∀ entry ∈ entries, entry.localCode.length ≤ 11

theorem WellKeyed.bounded
    (keyed : WellKeyed world) :
    Bounded world.entries :=
  ⟨keyed.fits, keyed.short⟩

theorem Bounded.append
    (bounded : Bounded entries)
    {added : List InstallationEntry}
    (room : added.length ≤ maxEntries - entries.length)
    (short : ∀ entry ∈ added, entry.localCode.length ≤ 11) :
    Bounded (entries ++ added) := by
  have fits := bounded.fits
  constructor
  · rw [List.length_append]
    omega
  · intro entry member
    rcases List.mem_append.mp member with earlier | isAdded
    · exact bounded.short entry earlier
    · exact short entry isAdded

theorem installationMapUpsert_bounded
    (bounded : Bounded world.entries)
    (arguments : UpsertArguments) (outcome : NvsOutcome) :
    Bounded (installationMapUpsert world arguments outcome).1.entries := by
  have cut : arguments.entry.localCode.length ≤ 11 := List.length_take_le ..
  rw [installationMapUpsert]
  split
  · split
    · exact bounded
    · constructor
      · exact (List.eraseIdx_sublist ..).length_le.trans bounded.fits
      · intro entry member
        exact bounded.short entry (List.mem_of_mem_eraseIdx member)
  · split
    · split
      · exact bounded
      · rename_i room
        apply bounded.append
        · exact Nat.sub_pos_of_lt (Nat.not_le.mp room)
        · intro entry member
          rw [List.mem_singleton.mp member]
          exact cut
    · constructor
      · exact (List.length_set ..).le.trans bounded.fits
      · intro entry member
        rcases List.mem_or_eq_of_mem_set member with earlier | rfl
        · exact bounded.short entry earlier
        · exact cut

/-- A call keeps the count within the table and every local code within its
field. -/
theorem mapCall_bounded
    (keyed : WellKeyed world) (call : MapCall) :
    Bounded (mapCall world call).1.entries := by
  have bounded := keyed.bounded
  cases call with
  | upsert arguments outcome =>
      exact installationMapUpsert_bounded bounded arguments outcome
  | replaceNode nodes outcome =>
      rw [mapCall, installationMapReplaceNode]
      split
      · refine ⟨(List.length_map ..).le.trans bounded.fits, ?_⟩
        intro entry member
        rcases List.mem_map.mp member with ⟨before, inside, rfl⟩
        have same :
            (moveEntry nodes.oldId nodes.newId before).localCode =
              before.localCode := by
          unfold moveEntry
          split <;> rfl
        rw [same]
        exact bounded.short before inside
      · exact bounded
  | cloneNode nodes outcome =>
      rw [mapCall, installationMapCloneNode]
      split
      · apply bounded.append
        · rw [List.length_map]
          exact List.length_take_le ..
        · intro entry member
          rcases List.mem_map.mp member with ⟨copied, inside, rfl⟩
          exact bounded.short copied (mem_copiedEntries inside).1
      · exact bounded

theorem mapCall_keyed
    (keyed : WellKeyed world) (call : MapCall) :
    KeyedStore (Run.call mapCall world call) ↔ KeepsKeys world call := by
  have fits := (mapCall_bounded keyed call).fits
  cases call with
  | upsert arguments outcome =>
      refine Iff.trans ?_ (installationMapUpsert_keyed keyed arguments outcome)
      constructor
      · rintro ⟨_, distinct, own⟩
        exact ⟨distinct, own arguments outcome rfl⟩
      · rintro ⟨distinct, own⟩
        refine ⟨fits, distinct, ?_⟩
        rintro _ _ ⟨⟩
        exact own
  | replaceNode nodes outcome =>
      refine Iff.trans ?_ (installationMapReplaceNode_keyed keyed nodes outcome)
      exact ⟨KeyedStore.distinct, fun distinct => ⟨fits, distinct, nofun⟩⟩
  | cloneNode nodes outcome =>
      refine Iff.trans ?_ (installationMapCloneNode_keyed keyed nodes outcome)
      exact ⟨KeyedStore.distinct, fun distinct => ⟨fits, distinct, nofun⟩⟩

/--
From an empty map: after every call the map is a keyed store and an update has
touched its own entry only, exactly if every call was one that keeps the keys.
-/
theorem installation_keyed_along_runs
    (flash : Option InstallationBlob) (calls : List MapCall) :
    (∀ made ∈ history mapCall ⟨[], flash⟩ calls, KeyedStore made) ↔
    ∀ made ∈ history mapCall ⟨[], flash⟩ calls,
      KeepsKeys made.before made.action := by
  have start : WellKeyed ⟨[], flash⟩ := ⟨Nat.zero_le _, nofun, List.nodup_nil⟩
  refine
    history_good_iff WellKeyed KeyedStore KeepsKeys
      (fun _ call keyed => mapCall_keyed keyed call) ?_ start calls
  intro world call keyed good
  have bounded := mapCall_bounded keyed call
  exact ⟨bounded.fits, bounded.short, good.distinct⟩

def relayArguments (nodeId : UInt32) (localCode : List UInt8) :
    UpsertArguments where
  nodeId := nodeId
  kind := 1
  channelId := 1
  localCode := localCode
  globalCode := []
  aliasText := CText.bytes "Pump"
  room := []
  group := []
  sortOrder := 0
  visibility := []
  notes := []

def copyOntoRelay : List MapCall :=
  [.upsert (relayArguments 2 (CText.bytes "Q1")) .committed,
    .upsert (relayArguments 3 (CText.bytes "Q1")) .committed,
    .cloneNode ⟨2, 3, by decide, by decide, by decide⟩ .committed]

def updateWithoutCode : List MapCall :=
  [.upsert (relayArguments 2 (CText.bytes "Q1")) .committed,
    .upsert (relayArguments 2 []) .committed]

/-- The copy stores a key twice, and the update without a code overwrites an
entry under another key. -/
theorem copy_stores_key_twice :
    ((final mapCall ⟨[], none⟩ copyOntoRelay).entries.map entryKey =
          [(2, 1, 1, CText.bytes "Q1"), (3, 1, 1, CText.bytes "Q1"),
            (3, 1, 1, CText.bytes "Q1")] ∧
        ¬ ∀ made ∈ history mapCall ⟨[], none⟩ copyOntoRelay, KeyedStore made) ∧
    (final mapCall ⟨[], none⟩ updateWithoutCode).entries.map entryKey =
        [(2, 1, 1, [])] ∧
    ¬ ∀ made ∈ history mapCall ⟨[], none⟩ updateWithoutCode,
      KeyedStore made := by
  have copied :
      (final mapCall ⟨[], none⟩ copyOntoRelay).entries.map entryKey =
        [(2, 1, 1, CText.bytes "Q1"), (3, 1, 1, CText.bytes "Q1"),
          (3, 1, 1, CText.bytes "Q1")] := by
    decide +kernel
  refine ⟨⟨copied, ?_⟩, by decide +kernel, ?_⟩
  · intro keyed
    have last :=
      keyed _
        (call_mem_history mapCall ⟨[], none⟩ copyOntoRelay.dropLast
          (.cloneNode ⟨2, 3, by decide, by decide, by decide⟩ .committed)
          [])
    have distinct : (_ : List _).Nodup := last.distinct
    exact absurd distinct (by decide +kernel)
  · intro keyed
    have last :=
      keyed _
        (call_mem_history mapCall ⟨[], none⟩ updateWithoutCode.dropLast
          (.upsert (relayArguments 2 []) .committed) [])
    exact absurd (last.own _ _ rfl) (by decide +kernel)

end Endap.Installation
