import Endap.Installation.Map
import Endap.Library.Run

/-!
# The load of the installation map

At the start the map is read from the flash.  A blob of the first version,
which has room for 128 entries, is taken over into the 64 entries of the
present one and written back at once, over the old blob; the entries that do
not fit are left behind.  A blob of the present version that claims more
entries than it has room for is refused.

The module says which entries of an old blob the load makes available, and
that no function of the map ever lets it grow beyond its room.
-/

namespace Endap.Installation

open Endap.Library
open Endap.Library.Run
open Endap.State

/-- `INSTALLATION_MAP_V1_MAX_ENTRIES`. -/
def v1MaxEntries : Nat := 128

/-- The fields that an entry had in the first version. -/
def InstallationEntry.firstVersion (entry : InstallationEntry) :
    InstallationEntryV1 where
  nodeId := entry.nodeId
  kind := entry.kind
  channelId := entry.channelId
  localCode := entry.localCode
  globalCode := entry.globalCode
  aliasText := entry.aliasText

/-- The texts of an entry end within their fields. -/
structure InstallationEntryV1.WellFormed (entry : InstallationEntryV1) :
    Prop where
  localCode : entry.localCode.length < 12
  globalCode : entry.globalCode.length < 24
  aliasText : entry.aliasText.length < 40

/-- A blob of the first version as the old firmware wrote it. -/
structure WellFormedV1 (entries : List InstallationEntryV1) : Prop where
  count : entries.length ≤ v1MaxEntries
  texts : ∀ entry ∈ entries, entry.WellFormed

def AllAvailable
    (old : List InstallationEntryV1) (loaded : InstallationWorld × Bool) :
    Prop :=
  loaded.2 = true ∧
  ∀ entry ∈ old, ∃ kept ∈ loaded.1.entries, kept.firstVersion = entry

/-- After the load the map consists of the first entries of the old blob, as
many as it has room for, in their order. -/
def FirstAvailable
    (old : List InstallationEntryV1) (loaded : InstallationWorld × Bool) :
    Prop :=
  loaded.2 = true ∧
  loaded.1.entries.map InstallationEntry.firstVersion = old.take maxEntries

/-- The load reports failure and leaves the flash as it was. -/
def LoadRefused
    (world : InstallationWorld) (loaded : InstallationWorld × Bool) : Prop :=
  loaded.2 = false ∧ loaded.1.flash = world.flash

/-! ## One entry -/

theorem firstVersion_migrateEntry
    {entry : InstallationEntryV1} (wellFormed : entry.WellFormed) :
    (migrateEntry entry).firstVersion = entry := by
  have local' := List.take_of_length_le (Nat.le_of_lt_succ wellFormed.localCode)
  have global := List.take_of_length_le
    (Nat.le_of_lt_succ wellFormed.globalCode)
  have aliasText := List.take_of_length_le
    (Nat.le_of_lt_succ wellFormed.aliasText)
  cases entry
  simp only [migrateEntry, InstallationEntry.firstVersion] at *
  rw [local', global, aliasText]

theorem firstVersion_migrated
    {entries : List InstallationEntryV1}
    (wellFormed : ∀ entry ∈ entries, entry.WellFormed) :
    (entries.map migrateEntry).map InstallationEntry.firstVersion =
      entries := by
  rw [List.map_map]
  refine List.map_congr_left (fun entry member => ?_) |>.trans
    (List.map_id entries)
  exact firstVersion_migrateEntry (wellFormed entry member)

/-! ## The room of the map -/

variable {world : InstallationWorld}

theorem installationMapUpsert_fits
    (fits : world.entries.length ≤ maxEntries)
    (arguments : UpsertArguments) (outcome : NvsOutcome) :
    (installationMapUpsert world arguments outcome).1.entries.length ≤
      maxEntries := by
  rw [installationMapUpsert]
  split
  · split
    · exact fits
    · exact (List.eraseIdx_sublist ..).length_le.trans fits
  · split
    · split
      · exact fits
      · next room =>
          have added : world.entries.length + 1 ≤ maxEntries := by omega
          simpa [installationMapSave] using added
    · simpa [installationMapSave] using fits

theorem copiedEntries_length_le
    (entries : List InstallationEntry) (oldId : UInt32) :
    (copiedEntries entries oldId).length ≤ maxEntries - entries.length :=
  List.length_take_le ..

theorem installationStep_fits
    (fits : world.entries.length ≤ maxEntries)
    (action : InstallationAction) :
    (installationStep world action).1.entries.length ≤ maxEntries := by
  cases action with
  | load readable outcome =>
      simp only [installationStep, installationMapLoad]
      split
      · split
        · exact Nat.zero_le _
        · split
          · assumption
          · exact Nat.zero_le _
        · simp [installationMapSave]
        · exact Nat.zero_le _
      · exact Nat.zero_le _
  | saveHandler request outcome =>
      rw [installationStep]
      split
      · exact fits
      · exact installationMapUpsert_fits fits _ outcome
  | template nodeId channel outcome =>
      rw [installationStep]
      split
      · exact fits
      · exact installationMapUpsert_fits fits _ outcome
  | save outcome => exact fits
  | replaceNode oldId newId outcome =>
      rw [installationStep, installationMapReplaceNode]
      split
      · simpa [installationMapSave] using fits
      · exact fits
  | cloneNode oldId newId outcome =>
      have short := copiedEntries_length_le world.entries oldId
      rw [installationStep, installationMapCloneNode]
      split
      · simp only [installationMapSave, List.length_append, List.length_map]
        omega
      · exact fits

/-! ## The load -/

theorem installationMapLoad_legacy
    {old : List InstallationEntryV1}
    (stored : world.flash = some (.legacy old)) (outcome : NvsOutcome) :
    installationMapLoad world true outcome =
      (installationMapSave
        { world with entries := (old.take maxEntries).map migrateEntry }
        outcome,
        true) := by
  rw [installationMapLoad, if_pos rfl, stored]

theorem installationMapLoad_oversize
    {entries : List InstallationEntry}
    (stored : world.flash = some (.current entries))
    (large : maxEntries < entries.length) (outcome : NvsOutcome) :
    installationMapLoad world true outcome =
      ({ world with entries := [] }, false) := by
  rw [installationMapLoad, if_pos rfl, stored]
  exact if_neg (Nat.not_le_of_lt large)

theorem installationMapLoad_unreadable
    (world : InstallationWorld) (outcome : NvsOutcome) :
    installationMapLoad world false outcome =
      ({ world with entries := [] }, false) :=
  rfl

/-- A blob of the first version that can be read is taken over, its first
entries in their order, and all of them if there are at most 64; one that
cannot be read stays in the flash and a failure is reported.  A blob of the
present version with a larger count than there is room for is refused, and in
no run does the map have more entries than room. -/
theorem installationMapLoad_migrates :
    (∀ world old readable outcome,
      world.flash = some (.legacy old) → WellFormedV1 old →
      (readable = true ∧
      FirstAvailable old (installationMapLoad world readable outcome)) ∨
      (readable = false ∧
      LoadRefused world (installationMapLoad world readable outcome))) ∧
      (∀ world entries readable outcome,
        world.flash = some (.current entries) →
        maxEntries < entries.length →
        (installationMapLoad world readable outcome).1.entries = [] ∧
        LoadRefused world (installationMapLoad world readable outcome)) ∧
      ∀ world actions,
        world.entries.length ≤ maxEntries →
        (final installationStep world actions).entries.length ≤
          maxEntries := by
  refine ⟨?_, ?_, ?_⟩
  · intro world old readable outcome stored wellFormed
    cases readable with
    | false =>
        rw [installationMapLoad_unreadable]
        exact Or.inr ⟨rfl, rfl, rfl⟩
    | true =>
        rw [installationMapLoad_legacy stored]
        refine Or.inl ⟨rfl, rfl, ?_⟩
        exact firstVersion_migrated fun entry member =>
          wellFormed.texts entry (List.mem_of_mem_take member)
  · intro world entries readable outcome stored large
    cases readable with
    | false =>
        rw [installationMapLoad_unreadable]
        exact ⟨rfl, rfl, rfl⟩
    | true =>
        rw [installationMapLoad_oversize stored large]
        exact ⟨rfl, rfl, rfl⟩
  · intro world actions fits
    exact final_invariant
      (fun state : InstallationWorld =>
        state.entries.length ≤ maxEntries) fits
      (fun _ action before => installationStep_fits before action) actions

def relayEntryV1 (nodeId : UInt32) : InstallationEntryV1 where
  nodeId := nodeId
  kind := 1
  channelId := 1
  localCode := CText.bytes "Q0"
  globalCode := []
  aliasText := CText.bytes "Relay"

def fullBlobV1 : List InstallationEntryV1 :=
  (List.range 65).map fun index => relayEntryV1 (UInt32.ofNat (index + 1))

def oldFlash : InstallationWorld where
  entries := []
  flash := some (.legacy fullBlobV1)

theorem relayEntryV1_wellFormed (nodeId : UInt32) :
    (relayEntryV1 nodeId).WellFormed where
  localCode := by simp [relayEntryV1, CText.bytes]
  globalCode := by simp [relayEntryV1]
  aliasText := by simp [relayEntryV1, CText.bytes]

theorem fullBlobV1_wellFormed : WellFormedV1 fullBlobV1 where
  count := by decide
  texts entry member := by
    rcases List.mem_map.mp member with ⟨index, _, rfl⟩
    exact relayEntryV1_wellFormed _

theorem installationMapLoad_migrates_full :
    FirstAvailable fullBlobV1 (installationMapLoad oldFlash true .committed) ∧
    LoadRefused oldFlash (installationMapLoad oldFlash false .committed) ∧
    (final installationStep oldFlash [.load true .committed]).entries.length ≤
      maxEntries := by
  have migrates := installationMapLoad_migrates
  refine ⟨?_, ?_, ?_⟩
  · rcases migrates.1 oldFlash fullBlobV1 true .committed rfl
      fullBlobV1_wellFormed with taken | ⟨unread, _⟩
    · exact taken.2
    · cases unread
  · rcases migrates.1 oldFlash fullBlobV1 false .committed rfl
      fullBlobV1_wellFormed with ⟨read, _⟩ | refused
    · cases read
    · exact refused.2
  · exact migrates.2.2 oldFlash _ (by decide)

/-- The last of 65 entries is lost, and the blob that had it is overwritten. -/
theorem migration_loses_entries :
    ¬ ∀ world old readable outcome,
      world.flash = some (.legacy old) → WellFormedV1 old →
      AllAvailable old (installationMapLoad world readable outcome) ∨
      LoadRefused world
        (installationMapLoad world readable outcome) := by
  intro claimed
  rcases claimed oldFlash fullBlobV1 true .committed rfl
    fullBlobV1_wellFormed with ⟨_, available⟩ | ⟨refused, _⟩
  · have last : relayEntryV1 65 ∈ fullBlobV1 :=
      List.mem_map.mpr ⟨64, by decide, rfl⟩
    rcases available (relayEntryV1 65) last with ⟨kept, member, same⟩
    have absent :
        65 ∉ (installationMapLoad oldFlash true .committed).1.entries.map
          InstallationEntry.nodeId := by
      decide
    refine absent (List.mem_map.mpr ⟨kept, member, ?_⟩)
    exact congrArg InstallationEntryV1.nodeId same
  · cases refused

end Endap.Installation
