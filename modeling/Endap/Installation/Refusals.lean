import Endap.Installation.Map
import Mathlib.Data.List.TakeDrop

/-!
# Refused changes of the installation map

The functions that change the map work on the table in memory and write it to
the flash as their last step.  When the write fails they report it, but the
table stays changed.  The copy of a node moreover stops where the table is
full, and reports success when what it has copied is written.

The module says, function by function, when a refused change has left the map
as it was and when an accepted copy is complete.
-/

namespace Endap.Installation

open Endap.Library
open Endap.State

/-- The functions that change the map, with their arguments. -/
inductive MapChange where
  | upsert (arguments : UpsertArguments)
  | replaceNode (oldId newId : UInt32)
  | cloneNode (oldId newId : UInt32)

/-- One change of the map. -/
def changeMap (world : InstallationWorld) (outcome : NvsOutcome) :
    MapChange → InstallationWorld × Bool
  | .upsert arguments => installationMapUpsert world arguments outcome
  | .replaceNode oldId newId =>
      installationMapReplaceNode world oldId newId outcome
  | .cloneNode oldId newId =>
      installationMapCloneNode world oldId newId outcome

/-- What a copy of an entry has in common with it. -/
def copiedFields (entry : InstallationEntry) :
    UInt8 × UInt16 × List UInt8 × List UInt8 × List UInt8 × List UInt8 ×
      List UInt8 × Int16 :=
  (entry.kind, entry.channelId, entry.localCode, entry.room, entry.group,
    entry.visibility, entry.notes, entry.sortOrder)

/-- Each entry of the old node has a copy under the new one. -/
def CopyComplete
    (before after : List InstallationEntry) (oldId newId : UInt32) : Prop :=
  ∀ entry ∈ before,
    entry.nodeId = oldId →
    ∃ copy ∈ after, copy.nodeId = newId ∧ copiedFields copy = copiedFields entry

/-- A refused change has no effect, and an accepted copy is complete. -/
structure ChangeHonest
    (world : InstallationWorld) (change : MapChange)
    (done : InstallationWorld × Bool) : Prop where
  refused : done.2 = false → done.1.entries = world.entries
  copied :
    ∀ oldId newId,
      change = .cloneNode oldId newId → done.2 = true →
        CopyComplete world.entries done.1.entries oldId newId

/-! ## When a change is honest -/

/-- The update has nothing to write, no room, or writes what is there. -/
def UpsertArguments.changesNothing
    (arguments : UpsertArguments) (entries : List InstallationEntry) :
    Prop :=
  match arguments.target? entries with
  | none => arguments.removes = true ∨ maxEntries ≤ entries.length
  | some index =>
      arguments.removes = false ∧ entries[index]? = some arguments.entry

/-- The entries of a node for which there is no room behind the map. -/
def uncopiedEntries (entries : List InstallationEntry) (oldId : UInt32) :
    List InstallationEntry :=
  (entries.filter fun entry => entry.nodeId = oldId).drop
    (maxEntries - entries.length)

/-- Each entry without room is like one under the new node already, or like
one for which there is room. -/
def RestIsLikeOthers
    (entries : List InstallationEntry) (oldId newId : UInt32) : Prop :=
  ∀ entry ∈ uncopiedEntries entries oldId,
    (∃ other ∈ entries,
      other.nodeId = newId ∧ copiedFields other = copiedFields entry) ∨
    ∃ other ∈ copiedEntries entries oldId,
      copiedFields other = copiedFields entry

/-- The write succeeds or there is nothing to write; and a copy has room for
all entries of the node but repeated ones. -/
def ChangeSafe
    (entries : List InstallationEntry) (outcome : NvsOutcome) :
    MapChange → Prop
  | .upsert arguments =>
      outcome.succeeds = true ∨ arguments.changesNothing entries
  | .replaceNode oldId newId =>
      outcome.succeeds = true ∨ oldId = newId ∨
      ∀ entry ∈ entries, entry.nodeId ≠ oldId
  | .cloneNode oldId newId =>
      (outcome.succeeds = true ∨ maxEntries ≤ entries.length ∨
      ∀ entry ∈ entries, entry.nodeId ≠ oldId) ∧
      RestIsLikeOthers entries oldId newId

/-! ## Updates -/

theorem set_eq_self_iff
    {entries : List InstallationEntry} {index : Nat}
    (inside : index < entries.length) (entry : InstallationEntry) :
    entries.set index entry = entries ↔ entries[index]? = some entry := by
  constructor
  · intro same
    have written := List.getElem?_set_self (a := entry) inside
    rwa [same] at written
  · intro holds
    have there := (List.getElem?_eq_some_iff.mp holds).2
    rw [← there, List.set_getElem_self]

/-- A change that saves its entries is without effect when refused exactly if
the save succeeds or the entries are the old ones. -/
theorem saved_refused_iff
    (world : InstallationWorld) (entries : List InstallationEntry)
    (outcome : NvsOutcome) :
    (outcome.succeeds = false →
        (installationMapSave { world with entries := entries }
          outcome).entries = world.entries) ↔
      (outcome.succeeds = true ∨ entries = world.entries) := by
  cases outcome.succeeds with
  | false => simp [installationMapSave]
  | true => simp

theorem installationMapUpsert_refused_iff
    (world : InstallationWorld) (arguments : UpsertArguments)
    (outcome : NvsOutcome) :
    ((installationMapUpsert world arguments outcome).2 = false →
        (installationMapUpsert world arguments outcome).1.entries =
          world.entries) ↔
      (outcome.succeeds = true ∨
      arguments.changesNothing world.entries) := by
  rw [installationMapUpsert, UpsertArguments.changesNothing]
  cases removes : arguments.removes with
  | true =>
      cases target : arguments.target? world.entries with
      | none => simp
      | some index =>
          have inside : index < world.entries.length :=
            (List.findIdx?_eq_some_iff_getElem.mp target).1
          have shorter : world.entries.eraseIdx index ≠ world.entries := by
            intro same
            have lengths := congrArg List.length same
            rw [List.length_eraseIdx_of_lt inside] at lengths
            omega
          simp only [if_true]
          rw [saved_refused_iff]
          simp [shorter]
  | false =>
      cases target : arguments.target? world.entries with
      | none =>
          simp only [Bool.false_eq_true, if_false, false_or]
          by_cases full : world.entries.length ≥ maxEntries
          · simp [full]
          · rw [if_neg full, saved_refused_iff]
            simp [full]
      | some index =>
          have inside : index < world.entries.length :=
            (List.findIdx?_eq_some_iff_getElem.mp target).1
          simp only [Bool.false_eq_true, if_false, true_and]
          rw [saved_refused_iff, set_eq_self_iff inside]

/-! ## Replacements and copies -/

theorem any_ofNode
    (entries : List InstallationEntry) (nodeId : UInt32) :
    (entries.any fun entry => entry.nodeId = nodeId) = false ↔
    ∀ entry ∈ entries, entry.nodeId ≠ nodeId := by
  simp

/-- Moving the entries of a node changes them unless there are none or the
node stays the same. -/
theorem map_moveEntry_eq_iff
    (entries : List InstallationEntry) (oldId newId : UInt32) :
    entries.map (moveEntry oldId newId) = entries ↔
    (oldId = newId ∨ ∀ entry ∈ entries, entry.nodeId ≠ oldId) := by
  have each :
      ∀ entry : InstallationEntry,
        moveEntry oldId newId entry = entry ↔
        (oldId = newId ∨ entry.nodeId ≠ oldId) := by
    intro entry
    rw [moveEntry]
    split
    · next ofNode =>
        cases entry
        simp only at ofNode
        simp [ofNode, eq_comm]
    · next other => simp [other]
  constructor
  · intro same
    by_cases equal : oldId = newId
    · exact Or.inl equal
    · refine Or.inr fun entry member => ?_
      have kept := List.map_inj_left.mp
        (same.trans (List.map_id entries).symm) entry member
      exact ((each entry).mp kept).resolve_left equal
  · rintro unchanged
    refine (List.map_congr_left fun entry member => ?_).trans
      (List.map_id entries)
    refine (each entry).mpr ?_
    exact unchanged.imp_right fun others => others entry member

theorem installationMapReplaceNode_refused_iff
    (world : InstallationWorld) (oldId newId : UInt32)
    (outcome : NvsOutcome) :
    ((installationMapReplaceNode world oldId newId outcome).2 = false →
        (installationMapReplaceNode world oldId newId
          outcome).1.entries = world.entries) ↔
      (outcome.succeeds = true ∨ oldId = newId ∨
      ∀ entry ∈ world.entries, entry.nodeId ≠ oldId) := by
  rw [installationMapReplaceNode]
  cases present : world.entries.any fun entry => entry.nodeId = oldId with
  | true =>
      rw [if_pos rfl, saved_refused_iff, map_moveEntry_eq_iff]
  | false =>
      have absent := (any_ofNode world.entries oldId).mp present
      rw [if_neg Bool.false_ne_true]
      exact iff_of_true (fun _ => rfl) (Or.inr (Or.inr absent))

theorem copiedEntries_eq_nil_iff
    (entries : List InstallationEntry) (oldId : UInt32) :
    copiedEntries entries oldId = [] ↔
    (maxEntries ≤ entries.length ∨
    ∀ entry ∈ entries, entry.nodeId ≠ oldId) := by
  rw [copiedEntries, List.take_eq_nil_iff, List.filter_eq_nil_iff]
  simp [Nat.sub_eq_zero_iff_le]

theorem mem_ofNode_iff
    (entries : List InstallationEntry) (oldId : UInt32)
    (entry : InstallationEntry) :
    (entry ∈ entries ∧ entry.nodeId = oldId) ↔
    (entry ∈ copiedEntries entries oldId ∨
    entry ∈ uncopiedEntries entries oldId) := by
  rw [copiedEntries, uncopiedEntries, ← List.mem_append,
    List.take_append_drop, List.mem_filter, decide_eq_true_eq]

/-- The copies are complete exactly if the entries without room are like
others. -/
theorem copyComplete_iff
    (entries : List InstallationEntry) (oldId newId : UInt32) :
    CopyComplete entries
        (entries ++ (copiedEntries entries oldId).map (copyEntry newId))
        oldId newId ↔
    RestIsLikeOthers entries oldId newId := by
  constructor
  · intro complete entry uncopied
    have isOld := (mem_ofNode_iff entries oldId entry).mpr (Or.inr uncopied)
    rcases complete entry isOld.1 isOld.2 with ⟨copy, member, isNew, same⟩
    rcases List.mem_append.mp member with old | added
    · exact Or.inl ⟨copy, old, isNew, same⟩
    · rcases List.mem_map.mp added with ⟨source, copied, rfl⟩
      exact Or.inr ⟨source, copied, same⟩
  · intro rest entry member isOld
    have split := (mem_ofNode_iff entries oldId entry).mp ⟨member, isOld⟩
    have withCopy :
        ∀ source ∈ copiedEntries entries oldId,
          copyEntry newId source ∈
            entries ++ (copiedEntries entries oldId).map (copyEntry newId) :=
      fun source copied =>
        List.mem_append_right _ (List.mem_map_of_mem copied)
    rcases split with copied | uncopied
    · exact ⟨copyEntry newId entry, withCopy entry copied, rfl, rfl⟩
    · rcases rest entry uncopied with
        ⟨other, there, isNew, same⟩ | ⟨other, copied, same⟩
      · exact ⟨other, List.mem_append_left _ there, isNew, same⟩
      · exact ⟨copyEntry newId other, withCopy other copied, rfl, same⟩

theorem installationMapCloneNode_refused_iff
    (world : InstallationWorld) (oldId newId : UInt32)
    (outcome : NvsOutcome) :
    ((installationMapCloneNode world oldId newId outcome).2 = false →
        (installationMapCloneNode world oldId newId outcome).1.entries =
          world.entries) ↔
      (outcome.succeeds = true ∨ maxEntries ≤ world.entries.length ∨
      ∀ entry ∈ world.entries, entry.nodeId ≠ oldId) := by
  rw [← copiedEntries_eq_nil_iff, installationMapCloneNode]
  by_cases none' : copiedEntries world.entries oldId = []
  · simp [none']
  · rw [if_pos none', saved_refused_iff]
    simp [none']

/-- With nothing to copy or with a successful write, the result is the map
with the copies behind it. -/
theorem installationMapCloneNode_entries
    (world : InstallationWorld) (oldId newId : UInt32)
    (outcome : NvsOutcome) :
    (installationMapCloneNode world oldId newId outcome).1.entries =
      world.entries ++
        (copiedEntries world.entries oldId).map (copyEntry newId) := by
  rw [installationMapCloneNode]
  by_cases none' : copiedEntries world.entries oldId = []
  · simp [none']
  · rw [if_pos none', installationMapSave]

theorem installationMapCloneNode_accepted_iff
    (world : InstallationWorld) (oldId newId : UInt32)
    (outcome : NvsOutcome) :
    (installationMapCloneNode world oldId newId outcome).2 = true ↔
    (outcome.succeeds = true ∨ maxEntries ≤ world.entries.length ∨
    ∀ entry ∈ world.entries, entry.nodeId ≠ oldId) := by
  rw [← copiedEntries_eq_nil_iff, installationMapCloneNode]
  by_cases none' : copiedEntries world.entries oldId = []
  · simp [none']
  · rw [if_pos none']
    simp [none']

/-- A refused change leaves the map as it was and an accepted copy is
complete, exactly for the changes that are safe. -/
theorem changeHonest_iff
    (world : InstallationWorld) (change : MapChange)
    (outcome : NvsOutcome) :
    ChangeHonest world change (changeMap world outcome change) ↔
    ChangeSafe world.entries outcome change := by
  cases change with
  | upsert arguments =>
      rw [ChangeSafe, ← installationMapUpsert_refused_iff]
      refine ⟨fun honest => honest.refused, fun refused => ⟨refused, ?_⟩⟩
      intro oldId newId isClone
      cases isClone
  | replaceNode oldId newId =>
      rw [ChangeSafe, ← installationMapReplaceNode_refused_iff]
      refine ⟨fun honest => honest.refused, fun refused => ⟨refused, ?_⟩⟩
      intro oldId' newId' isClone
      cases isClone
  | cloneNode oldId newId =>
      rw [ChangeSafe, ← copyComplete_iff,
        ← installationMapCloneNode_entries world oldId newId outcome]
      constructor
      · intro honest
        have written := (installationMapCloneNode_refused_iff world oldId
          newId outcome).mp honest.refused
        have accepted := (installationMapCloneNode_accepted_iff world oldId
          newId outcome).mpr written
        exact ⟨written, honest.copied oldId newId rfl accepted⟩
      · rintro ⟨written, complete⟩
        refine ⟨(installationMapCloneNode_refused_iff world oldId newId
          outcome).mpr written, ?_⟩
        intro oldId' newId' isClone _
        cases isClone
        exact complete

def doorName : UpsertArguments where
  nodeId := 7
  kind := 1
  channelId := 1
  localCode := CText.bytes "Q0"
  globalCode := []
  aliasText := CText.bytes "Door"
  room := []
  group := []
  sortOrder := 0
  visibility := []
  notes := []

def doorMap : InstallationWorld where
  entries := [doorName.entry]
  flash := none

def fullMap : InstallationWorld where
  entries :=
    (List.range 64).map fun index =>
      { doorName.entry with channelId := UInt16.ofNat (index + 1) }
  flash := none

/-- A name that could not be written stays in memory; the same holds of a
replaced and of a copied node; and a full map reports a copy that it has no
room for. -/
theorem refused_changes_stay :
    ¬ ChangeHonest { entries := [], flash := none } (.upsert doorName)
        (changeMap { entries := [], flash := none } .openFailed
          (.upsert doorName)) ∧
      ¬ ChangeHonest doorMap (.replaceNode 7 8)
        (changeMap doorMap .openFailed (.replaceNode 7 8)) ∧
      ¬ ChangeHonest doorMap (.cloneNode 7 8)
        (changeMap doorMap .openFailed (.cloneNode 7 8)) ∧
      ¬ ChangeHonest fullMap (.cloneNode 7 8)
        (changeMap fullMap .committed (.cloneNode 7 8)) := by
  refine ⟨?_, ?_, ?_, ?_⟩
  · intro honest
    exact absurd (honest.refused (by decide)) (by decide)
  · intro honest
    exact absurd (honest.refused (by decide)) (by decide)
  · intro honest
    exact absurd (honest.refused (by decide)) (by decide)
  · intro honest
    have first : { doorName.entry with channelId := 1 } ∈ fullMap.entries :=
      List.mem_map.mpr ⟨0, by decide, rfl⟩
    rcases honest.copied 7 8 rfl (by decide) _ first rfl with
      ⟨copy, member, isNew, _⟩
    have absent :
        8 ∉ (changeMap fullMap .committed
          (.cloneNode 7 8)).1.entries.map InstallationEntry.nodeId := by
      decide
    exact absent (List.mem_map.mpr ⟨copy, member, isNew⟩)

end Endap.Installation
