import Endap.Library.Layout
import Endap.State.Nvs
import Endap.State.Store

/-!
# The snapshot of the state table

The values of the state table are kept over a reboot as one record: a header
with a checksum, followed by the entries that are not zero or were changed.
A record is written to non-volatile storage, or through the interface of a
registered backend, and is written back into the table at boot.

The interface of a backend does not say how long the stored record is.  The
length of the buffer is taken in its place, so a record that came from a
backend is only accepted when it fills the buffer, that is when all entries of
the table were exported.
-/

namespace Endap.State

open Endap.Library

/-! ## Entries of the table -/

/-- `state_entry_t`, with the bytes that align the value. -/
structure StateEntry where
  id : UInt16
  padding : UInt16
  value : Int32

/-- The layout of `state_entry_t`. -/
def stateEntryLayout : Layout StateEntry :=
  (Layout.u16.andThen (Layout.u16.andThen Layout.i32)).retype
    (fun (id, padding, value) =>
      { id := id, padding := padding, value := value })
    (fun entry => (entry.id, entry.padding, entry.value))
    (fun _ => rfl)

/-- `state_init`: the tables are cleared. -/
def StateStore.stateInit (store : StateStore) : StateStore :=
  { store with
    intValues := fun _ => 0
    dirtyFlags := fun _ => false }

def stateClearDirty (store : StateStore) (id : UInt16) : StateStore :=
  if StateValidId id then
    { store with dirtyFlags := Function.update store.dirtyFlags id false }
  else store

/-- The ids of the table in order. -/
def stateIds : List UInt16 := (List.range stateMaxEntries).map UInt16.ofNat

/-- The entry of an id is not skipped by `state_export_entries`. -/
def StateStore.Exports (store : StateStore) (id : UInt16) : Prop :=
  ¬ (store.intValues id = 0 ∧ store.dirtyFlags id = false)

instance (store : StateStore) (id : UInt16) : Decidable (store.Exports id) :=
  inferInstanceAs (Decidable (¬ _))

/-- `state_export_entries`.  The entries are on the stack and their padding is
never written; what it holds is given. -/
def stateExportEntries (store : StateStore) (padding : UInt16 → UInt16)
    (max : Nat) : List StateEntry :=
  ((stateIds.filter fun id => store.Exports id).map fun id =>
    { id := id, padding := padding id, value := store.intValues id }).take
    max

/-! ## The record -/

def snapshotMagic : UInt32 := 0x534E4150

def snapshotVersion : UInt16 := 1

structure SnapshotHeader where
  magic : UInt32
  version : UInt16
  count : UInt16
  crc : UInt32

/-- The layout of `snapshot_header_t`. -/
def snapshotHeaderLayout : Layout SnapshotHeader :=
  (Layout.u32.andThen
    (Layout.u16.andThen (Layout.u16.andThen Layout.u32))).retype
    (fun (magic, version, count, crc) =>
      { magic := magic, version := version, count := count, crc := crc })
    (fun header =>
      (header.magic, header.version, header.count, header.crc))
    (fun _ => rfl)

def snapshotCrc32 (data : List UInt8) : UInt32 :=
  data.foldl (fun crc byte => (crc ^^^ byte.toUInt32) * 16777619) 2166136261

/-- `sizeof(snapshot_header_t)`. -/
def snapshotHeaderSize : UInt16 := 12

/-- `sizeof(state_entry_t)`. -/
def stateEntrySize : UInt16 := 8

/-- The size of the buffers of `snapshot_save` and `snapshot_init`. -/
def snapshotBufferSize : UInt16 := 2060

/-- `snapshot_storage_if_t`; either function may be missing. -/
structure SnapshotStorage (Medium : Type) where
  read : Option (Medium → Nat → Option (List UInt8))
  write : Option (Medium → List UInt8 → Bool × Medium)

/-- The static state of `snapshot.c`, with the table and the media. -/
structure SnapshotWorld (Medium : Type) where
  store : StateStore
  snapshotCrc : UInt32
  lastChange : Int
  storage : Option (SnapshotStorage Medium)
  medium : Medium
  nvs : Option (List UInt8)

variable {Medium : Type}

/-- What `snapshot_export` returns, and what it puts into the buffer. -/
structure SnapshotExport (Medium : Type) where
  world : SnapshotWorld Medium
  totalLen : UInt16
  written : List UInt8

def SnapshotWorld.snapshotExport (world : SnapshotWorld Medium)
    (padding : UInt16 → UInt16) (maxLen : UInt16) : SnapshotExport Medium :=
  let entries := stateExportEntries world.store padding stateMaxEntries
  let count := UInt16.ofNat entries.length
  let payloadLen := count * stateEntrySize
  let totalLen := snapshotHeaderSize + payloadLen
  if maxLen < totalLen then
    { world := world, totalLen := 0, written := [] }
  else
    let payload :=
      (entries.flatMap stateEntryLayout.write).take payloadLen.toNat
    let header : SnapshotHeader :=
      { magic := snapshotMagic
        version := snapshotVersion
        count := count
        crc := snapshotCrc32 payload }
    { world := { world with snapshotCrc := header.crc }
      totalLen := totalLen
      written := snapshotHeaderLayout.write header ++ payload }

/-- One round of the loop of `snapshot_restore`. -/
def restoreEntry (store : StateStore) (entry : StateEntry) : StateStore :=
  stateClearDirty (stateSetInt store entry.id entry.value) entry.id

/-- The loop of `snapshot_restore`. -/
def restoreEntries (store : StateStore) (entries : List StateEntry) :
    StateStore :=
  entries.foldl restoreEntry store

/-- `snapshot_restore`, of a buffer of at least the given length. -/
def SnapshotWorld.snapshotRestore (world : SnapshotWorld Medium)
    (buffer : List UInt8) (len : UInt16) : SnapshotWorld Medium :=
  let header := snapshotHeaderLayout.read buffer
  let payloadLen := header.count * stateEntrySize
  let payload := buffer.drop snapshotHeaderSize.toNat
  if len < snapshotHeaderSize then world
  else if header.magic ≠ snapshotMagic ∨ header.version ≠ snapshotVersion then
    world
  else if snapshotHeaderSize + payloadLen ≠ len then world
  else if snapshotCrc32 (payload.take payloadLen.toNat) ≠ header.crc then
    world
  else
    { world with
      store :=
        { restoreEntries world.store
            (stateEntryLayout.readList header.count.toNat payload) with
          snapshotDirty := false }
      snapshotCrc := header.crc
      lastChange := 0 }

/-! ## Saving and loading -/

/-- `snapshot_backend_write`; a failed commit is not reported. -/
def SnapshotWorld.snapshotBackendWrite (world : SnapshotWorld Medium)
    (buffer : List UInt8) (outcome : NvsOutcome) :
    Bool × SnapshotWorld Medium :=
  match world.storage.bind SnapshotStorage.write with
  | some write =>
      let written := write world.medium buffer
      (written.1, { world with medium := written.2 })
  | none =>
      match outcome with
      | .openFailed => (false, world)
      | .writeFailed => (false, world)
      | .commitFailed stored =>
          (true,
            { world with
              nvs := nvsWrite (.commitFailed stored) world.nvs (some buffer) })
      | .committed =>
          (true,
            { world with nvs := nvsWrite .committed world.nvs (some buffer) })

/-- `snapshot_backend_read`: the buffer and its length. -/
def SnapshotWorld.snapshotBackendRead (world : SnapshotWorld Medium)
    (maxLen : Nat) : Option (List UInt8 × Nat) :=
  match world.storage.bind SnapshotStorage.read with
  | some read =>
      match read world.medium maxLen with
      | none => none
      | some buffer => some (buffer, maxLen)
  | none =>
      match world.nvs with
      | none => none
      | some blob =>
          if blob.length = 0 ∨ maxLen < blob.length then none
          else some (blob, blob.length)

/-- `snapshot_save`; both exports find the same entries. -/
def SnapshotWorld.snapshotSave (world : SnapshotWorld Medium)
    (padding : UInt16 → UInt16) (outcome : NvsOutcome) :
    SnapshotWorld Medium :=
  let exported := world.snapshotExport padding snapshotBufferSize
  let entries := stateExportEntries world.store padding stateMaxEntries
  if exported.totalLen = 0 then exported.world
  else
    let saved := exported.world.snapshotBackendWrite exported.written outcome
    if saved.1 then
      { saved.2 with
        store :=
          { entries.foldl
              (fun store entry => stateClearDirty store entry.id)
              saved.2.store with
            snapshotDirty := false } }
    else saved.2

def SnapshotWorld.snapshotForceSave (world : SnapshotWorld Medium)
    (padding : UInt16 → UInt16) (outcome : NvsOutcome) :
    SnapshotWorld Medium :=
  world.snapshotSave padding outcome

/-- The static state that `snapshot_init` starts from. -/
def SnapshotWorld.cleared (world : SnapshotWorld Medium) :
    SnapshotWorld Medium :=
  { world with
    store := { world.store with snapshotDirty := false }
    snapshotCrc := 0
    lastChange := 0 }

def SnapshotWorld.snapshotInit (world : SnapshotWorld Medium) :
    SnapshotWorld Medium :=
  match world.cleared.snapshotBackendRead snapshotBufferSize.toNat with
  | none => world.cleared
  | some (buffer, len) =>
      world.cleared.snapshotRestore buffer (UInt16.ofNat len)

/-- `state_init` at boot. -/
def SnapshotWorld.stateInit (world : SnapshotWorld Medium) :
    SnapshotWorld Medium :=
  { world with store := world.store.stateInit }

/-! ## Sizes -/

theorem mem_stateIds {id : UInt16} : id ∈ stateIds ↔ StateValidId id := by
  rw [stateIds, List.mem_map]
  constructor
  · rintro ⟨number, inside, rfl⟩
    have small := List.mem_range.mp inside
    rw [StateValidId,
      UInt16.toNat_ofNat_of_lt' (Nat.lt_trans small (by decide))]
    exact small
  · intro valid
    exact ⟨id.toNat, List.mem_range.mpr valid, UInt16.ofNat_toNat⟩

theorem stateIds_length : stateIds.length = stateMaxEntries := by
  rw [stateIds, List.length_map, List.length_range]

section

variable (store : StateStore) (padding : UInt16 → UInt16)

theorem stateExportEntries_all :
    stateExportEntries store padding stateMaxEntries =
      (stateIds.filter fun id => store.Exports id).map fun id =>
        { id := id, padding := padding id, value := store.intValues id } := by
  apply List.take_of_length_le
  rw [List.length_map, ← stateIds_length]
  exact List.length_filter_le _ _

theorem stateExportEntries_length_le :
    (stateExportEntries store padding stateMaxEntries).length ≤
      stateMaxEntries :=
  List.length_take_le _ _

theorem mem_exported_ids {id : UInt16} :
    id ∈ (stateExportEntries store padding stateMaxEntries).map StateEntry.id ↔
    StateValidId id ∧ store.Exports id := by
  rw [stateExportEntries_all, List.map_map]
  show id ∈ List.map (fun id => id) _ ↔ _
  rw [List.map_id', List.mem_filter, mem_stateIds, decide_eq_true_iff]

theorem exported_value {entry : StateEntry}
    (member : entry ∈ stateExportEntries store padding stateMaxEntries) :
    entry.value = store.intValues entry.id := by
  rw [stateExportEntries_all] at member
  rcases List.mem_map.mp member with ⟨id, -, rfl⟩
  rfl

/-- The payload of the record of a table. -/
def snapshotPayload : List UInt8 :=
  (stateExportEntries store padding stateMaxEntries).flatMap
    stateEntryLayout.write

/-- The header of the record of a table. -/
def snapshotHeaderOf : SnapshotHeader where
  magic := snapshotMagic
  version := snapshotVersion
  count :=
    UInt16.ofNat (stateExportEntries store padding stateMaxEntries).length
  crc := snapshotCrc32 (snapshotPayload store padding)

/-- The record of a table. -/
def snapshotRecord : List UInt8 :=
  snapshotHeaderLayout.write (snapshotHeaderOf store padding) ++
    snapshotPayload store padding

/-- The length of the record of a table, as the code computes it. -/
def snapshotRecordLen : UInt16 :=
  snapshotHeaderSize + (snapshotHeaderOf store padding).count * stateEntrySize

theorem snapshotHeaderOf_count :
    (snapshotHeaderOf store padding).count.toNat =
      (stateExportEntries store padding stateMaxEntries).length := by
  have few := stateExportEntries_length_le store padding
  exact UInt16.toNat_ofNat_of_lt' (Nat.lt_of_le_of_lt few (by decide))

theorem snapshotPayload_length :
    (snapshotPayload store padding).length =
      (stateExportEntries store padding stateMaxEntries).length * 8 :=
  Layout.flatMap_write_length _ _

theorem payloadLen_toNat :
    ((snapshotHeaderOf store padding).count * stateEntrySize).toNat =
      (snapshotPayload store padding).length := by
  have few := stateExportEntries_length_le store padding
  have size : stateMaxEntries = 256 := rfl
  rw [UInt16.toNat_mul, snapshotHeaderOf_count, snapshotPayload_length]
  exact Nat.mod_eq_of_lt (by show _ * 8 < _; omega)

theorem snapshotRecordLen_toNat :
    (snapshotRecordLen store padding).toNat =
      12 + (stateExportEntries store padding stateMaxEntries).length * 8 := by
  have few := stateExportEntries_length_le store padding
  have size : stateMaxEntries = 256 := rfl
  rw [snapshotRecordLen, UInt16.toNat_add, payloadLen_toNat,
    snapshotPayload_length]
  exact Nat.mod_eq_of_lt (by show 12 + _ < _; omega)

theorem snapshotRecord_length :
    (snapshotRecord store padding).length =
      (snapshotRecordLen store padding).toNat := by
  rw [snapshotRecord, List.length_append, snapshotHeaderLayout.write_length,
    snapshotPayload_length, snapshotRecordLen_toNat]
  rfl

theorem snapshotRecordLen_ne_zero : snapshotRecordLen store padding ≠ 0 := by
  intro empty
  have length := snapshotRecordLen_toNat store padding
  rw [empty] at length
  have positive : (0 : UInt16).toNat = 0 := rfl
  omega

theorem snapshotRecordLen_le :
    snapshotRecordLen store padding ≤ snapshotBufferSize := by
  have few := stateExportEntries_length_le store padding
  have size : stateMaxEntries = 256 := rfl
  rw [UInt16.le_iff_toNat_le, snapshotRecordLen_toNat]
  show _ ≤ 2060
  omega

theorem snapshotRecordLen_eq_iff :
    snapshotRecordLen store padding = snapshotBufferSize ↔
    ∀ id, StateValidId id → store.Exports id := by
  rw [← UInt16.toNat_inj, snapshotRecordLen_toNat]
  have full :
      (stateExportEntries store padding stateMaxEntries).length =
          stateIds.length ↔
      ∀ id ∈ stateIds, decide (store.Exports id) = true := by
    rw [stateExportEntries_all, List.length_map]
    exact List.length_filter_eq_length_iff
  have size : stateIds.length = 256 := stateIds_length
  have buffer : snapshotBufferSize.toNat = 2060 := rfl
  constructor
  · intro fills id valid
    have all := full.mp (by omega)
    exact of_decide_eq_true (all id (mem_stateIds.mpr valid))
  · intro all
    have fills :=
      full.mpr fun id member =>
        decide_eq_true (all id (mem_stateIds.mp member))
    omega

end

/-! ## What restoring does to the table -/

theorem restoreEntry_value
    (store : StateStore) {entry : StateEntry}
    (valid : StateValidId entry.id) (id : UInt16) :
    (restoreEntry store entry).intValues id =
      if id = entry.id then entry.value else store.intValues id := by
  rw [restoreEntry, stateClearDirty, if_pos valid]
  split
  · next same =>
      rw [same]
      exact stateSetInt_same store valid entry.value
  · next different => exact stateSetInt_other store entry.value different

theorem restoreEntry_clean
    {store : StateStore} (clean : ∀ id, store.dirtyFlags id = false)
    {entry : StateEntry} (valid : StateValidId entry.id) (id : UInt16) :
    (restoreEntry store entry).dirtyFlags id = false := by
  rw [restoreEntry, stateClearDirty, if_pos valid]
  by_cases same : id = entry.id
  · rw [same]
    exact Function.update_self _ _ _
  · refine (Function.update_of_ne same _ _).trans ?_
    rw [stateSetInt_dirty_other store entry.value same]
    exact clean id

/-- Entries that agree with a table give their ids the values they have
there. -/
theorem restoreEntries_value
    (values : UInt16 → Int32) (entries : List StateEntry)
    (valid : ∀ entry ∈ entries, StateValidId entry.id)
    (agree : ∀ entry ∈ entries, entry.value = values entry.id)
    (store : StateStore) (id : UInt16) :
    (restoreEntries store entries).intValues id =
      if id ∈ entries.map StateEntry.id then values id
      else store.intValues id := by
  induction entries generalizing store with
  | nil => rfl
  | cons entry entries induction =>
      have later :=
        induction
          (fun other member => valid other (List.mem_cons_of_mem _ member))
          (fun other member => agree other (List.mem_cons_of_mem _ member))
          (restoreEntry store entry)
      have here :=
        restoreEntry_value store (valid entry (List.mem_cons_self ..)) id
      rw [agree entry (List.mem_cons_self ..)] at here
      rw [restoreEntries, List.foldl_cons]
      refine later.trans ?_
      rw [here, List.map_cons]
      by_cases again : id ∈ entries.map StateEntry.id
      · rw [if_pos again, if_pos (List.mem_cons_of_mem _ again)]
      · by_cases same : id = entry.id
        · simp [same]
        · simp [again, same]

theorem restoreEntries_clean
    (entries : List StateEntry)
    (valid : ∀ entry ∈ entries, StateValidId entry.id)
    {store : StateStore} (clean : ∀ id, store.dirtyFlags id = false) :
    ∀ id, (restoreEntries store entries).dirtyFlags id = false := by
  induction entries generalizing store with
  | nil => exact clean
  | cons entry entries induction =>
      refine
        induction
          (fun other member => valid other (List.mem_cons_of_mem _ member))
          ?_
      intro id
      exact restoreEntry_clean clean (valid entry (List.mem_cons_self ..)) id

/-! ## The checks of a record -/

/-- The checks of `snapshot_restore` before its loop. -/
structure SnapshotAccepts (buffer : List UInt8) (len : UInt16) : Prop where
  headerFits : ¬ len < snapshotHeaderSize
  magic : (snapshotHeaderLayout.read buffer).magic = snapshotMagic
  version : (snapshotHeaderLayout.read buffer).version = snapshotVersion
  length :
    snapshotHeaderSize +
        (snapshotHeaderLayout.read buffer).count * stateEntrySize =
      len
  checksum :
    snapshotCrc32
        ((buffer.drop snapshotHeaderSize.toNat).take
          ((snapshotHeaderLayout.read buffer).count * stateEntrySize).toNat) =
      (snapshotHeaderLayout.read buffer).crc

theorem snapshotAccepts_iff (buffer : List UInt8) (len : UInt16) :
    (¬ len < snapshotHeaderSize ∧
        (snapshotHeaderLayout.read buffer).magic = snapshotMagic ∧
        (snapshotHeaderLayout.read buffer).version = snapshotVersion ∧
        snapshotHeaderSize +
            (snapshotHeaderLayout.read buffer).count * stateEntrySize =
          len ∧
        snapshotCrc32
            ((buffer.drop snapshotHeaderSize.toNat).take
              ((snapshotHeaderLayout.read buffer).count *
                stateEntrySize).toNat) =
          (snapshotHeaderLayout.read buffer).crc) ↔
      SnapshotAccepts buffer len := by
  constructor
  · rintro ⟨headerFits, magic, version, length, checksum⟩
    exact ⟨headerFits, magic, version, length, checksum⟩
  · intro accepts
    exact
      ⟨accepts.headerFits, accepts.magic, accepts.version, accepts.length,
        accepts.checksum⟩

instance (buffer : List UInt8) (len : UInt16) :
    Decidable (SnapshotAccepts buffer len) :=
  decidable_of_iff _ (snapshotAccepts_iff buffer len)

/-- A buffer that passes the checks is applied, and any other changes
nothing. -/
theorem snapshotRestore_checks
    (world : SnapshotWorld Medium) (buffer : List UInt8) (len : UInt16) :
    world.snapshotRestore buffer len =
      if SnapshotAccepts buffer len then
        { world with
          store :=
            { restoreEntries world.store
                (stateEntryLayout.readList
                  (snapshotHeaderLayout.read buffer).count.toNat
                  (buffer.drop snapshotHeaderSize.toNat)) with
              snapshotDirty := false }
          snapshotCrc := (snapshotHeaderLayout.read buffer).crc
          lastChange := 0 }
      else world := by
  rw [SnapshotWorld.snapshotRestore]
  split
  · next short =>
      exact (if_neg fun accepts => accepts.headerFits short).symm
  · next headerFits =>
      split
      · next invalid =>
          refine (if_neg ?_).symm
          intro accepts
          rcases invalid with magic | version
          · exact magic accepts.magic
          · exact version accepts.version
      · next valid =>
          rw [not_or, not_not, not_not] at valid
          split
          · next different =>
              exact (if_neg fun accepts => different accepts.length).symm
          · next length =>
              split
              · next different =>
                  exact
                    (if_neg fun accepts =>
                      different accepts.checksum).symm
              · next checksum =>
                  exact
                    (if_pos
                      ⟨headerFits, valid.1, valid.2, not_not.mp length,
                        not_not.mp checksum⟩).symm

/-! ## Records that come back -/

section

variable (store : StateStore) (padding : UInt16 → UInt16)

theorem snapshotExport_record
    (world : SnapshotWorld Medium) {maxLen : UInt16}
    (room : snapshotBufferSize ≤ maxLen) :
    world.snapshotExport padding maxLen =
      { world :=
          { world with
            snapshotCrc := (snapshotHeaderOf world.store padding).crc }
        totalLen := snapshotRecordLen world.store padding
        written := snapshotRecord world.store padding } := by
  have fits : ¬ maxLen < snapshotRecordLen world.store padding :=
    UInt16.not_lt.mpr
      (UInt16.le_trans (snapshotRecordLen_le world.store padding) room)
  have whole :
      (snapshotPayload world.store padding).take
          ((snapshotHeaderOf world.store padding).count *
            stateEntrySize).toNat =
        snapshotPayload world.store padding := by
    rw [payloadLen_toNat, List.take_length]
  rw [SnapshotWorld.snapshotExport]
  refine (if_neg fits).trans ?_
  have payload := congrArg snapshotCrc32 whole
  dsimp only [snapshotPayload, snapshotHeaderOf] at whole payload
  simp only [whole, snapshotRecord, snapshotRecordLen, snapshotPayload,
    snapshotHeaderOf]

/-- The state that restoring the record of a table leads to. -/
def SnapshotWorld.restored (world : SnapshotWorld Medium) :
    SnapshotWorld Medium :=
  { world with
    store :=
      { restoreEntries world.store
          (stateExportEntries store padding stateMaxEntries) with
        snapshotDirty := false }
    snapshotCrc := (snapshotHeaderOf store padding).crc
    lastChange := 0 }

theorem snapshotRecord_header (rest : List UInt8) :
    snapshotHeaderLayout.read (snapshotRecord store padding ++ rest) =
      snapshotHeaderOf store padding := by
  rw [snapshotRecord, List.append_assoc, snapshotHeaderLayout.read_write]

theorem snapshotRecord_payload (rest : List UInt8) :
    (snapshotRecord store padding ++ rest).drop snapshotHeaderSize.toNat =
      snapshotPayload store padding ++ rest := by
  rw [snapshotRecord, List.append_assoc]
  exact List.drop_left' (snapshotHeaderLayout.write_length _)

theorem snapshotAccepts_record (rest : List UInt8) (len : UInt16) :
    SnapshotAccepts (snapshotRecord store padding ++ rest) len ↔
    snapshotRecordLen store padding = len := by
  have header := snapshotRecord_header store padding rest
  constructor
  · intro accepts
    have length := accepts.length
    rw [header] at length
    exact length
  · intro own
    refine ⟨?_, ?_, ?_, ?_, ?_⟩
    · rw [← own, UInt16.not_lt, UInt16.le_iff_toNat_le,
        snapshotRecordLen_toNat]
      exact Nat.le_add_right _ _
    · rw [header]
      rfl
    · rw [header]
      rfl
    · rw [header]
      exact own
    · rw [header, snapshotRecord_payload, payloadLen_toNat, List.take_left]
      rfl

theorem snapshotRestore_record
    (world : SnapshotWorld Medium) (rest : List UInt8) (len : UInt16) :
    world.snapshotRestore (snapshotRecord store padding ++ rest) len =
      if snapshotRecordLen store padding = len then
        world.restored store padding
      else world := by
  have entries :
      stateEntryLayout.readList (snapshotHeaderOf store padding).count.toNat
          (snapshotPayload store padding ++ rest) =
        stateExportEntries store padding stateMaxEntries := by
    rw [snapshotHeaderOf_count]
    exact Layout.readList_flatMap_write _ _ _
  rw [snapshotRestore_checks, snapshotRecord_header, snapshotRecord_payload,
    entries]
  exact if_congr (snapshotAccepts_record store padding rest len) rfl rfl

/-- The values of a table are back, no id is dirty and no save is pending. -/
structure Restored (world : SnapshotWorld Medium) : Prop where
  values : ∀ id, StateValidId id → world.store.intValues id = store.intValues id
  clean : ∀ id, StateValidId id → world.store.dirtyFlags id = false
  settled : world.store.snapshotDirty = false

theorem restored_of_cleared
    {world : SnapshotWorld Medium}
    (zero : ∀ id, world.store.intValues id = 0)
    (clean : ∀ id, world.store.dirtyFlags id = false) :
    Restored store (world.restored store padding) := by
  have valid :
      ∀ entry ∈ stateExportEntries store padding stateMaxEntries,
        StateValidId entry.id := by
    intro entry member
    exact ((mem_exported_ids store padding).mp (List.mem_map_of_mem member)).1
  constructor
  · intro id validId
    have value :=
      restoreEntries_value store.intValues _ valid
        (fun entry member => exported_value store padding member)
        world.store id
    refine value.trans ?_
    split
    · rfl
    · next skipped =>
        rw [mem_exported_ids] at skipped
        rw [zero]
        by_contra different
        exact skipped ⟨validId, fun both => different both.1.symm⟩
  · intro id _
    exact restoreEntries_clean _ valid clean id
  · rfl

end

/-- No backend is registered, or one with neither function. -/
def SnapshotWorld.OverNvs (world : SnapshotWorld Medium) : Prop :=
  world.storage.bind SnapshotStorage.read = none ∧
  world.storage.bind SnapshotStorage.write = none

theorem snapshotForceSave_nvs
    {world : SnapshotWorld Medium} (overNvs : world.OverNvs)
    (padding : UInt16 → UInt16) :
    (world.snapshotForceSave padding .committed).nvs =
      some (snapshotRecord world.store padding) := by
  have exported :=
    snapshotExport_record padding world (UInt16.le_refl snapshotBufferSize)
  have nonempty := snapshotRecordLen_ne_zero world.store padding
  simp only [SnapshotWorld.snapshotForceSave, SnapshotWorld.snapshotSave,
    exported, if_neg nonempty, SnapshotWorld.snapshotBackendWrite,
    overNvs.2, if_true]
  rfl

theorem snapshotRecord_readable
    (store : StateStore) (padding : UInt16 → UInt16) :
    ¬ ((snapshotRecord store padding).length = 0 ∨
    snapshotBufferSize.toNat <
      (snapshotRecord store padding).length) := by
  have length := snapshotRecord_length store padding
  have long := snapshotRecordLen_toNat store padding
  have short := UInt16.le_iff_toNat_le.mp (snapshotRecordLen_le store padding)
  rw [length]
  omega

theorem snapshotInit_nvs
    {booted : SnapshotWorld Medium} (overNvs : booted.OverNvs)
    {store : StateStore} {padding : UInt16 → UInt16}
    (stored : booted.nvs = some (snapshotRecord store padding)) :
    Restored store booted.stateInit.snapshotInit := by
  have length := snapshotRecord_length store padding
  have readable := snapshotRecord_readable store padding
  have restore :
      ∀ world : SnapshotWorld Medium,
        world.snapshotRestore (snapshotRecord store padding)
            (UInt16.ofNat (snapshotRecord store padding).length) =
          world.restored store padding := by
    intro world
    have whole := snapshotRestore_record store padding world []
    rw [List.append_nil] at whole
    rw [whole, length, UInt16.ofNat_toNat, if_pos rfl]
  simp only [SnapshotWorld.snapshotInit, SnapshotWorld.snapshotBackendRead,
    SnapshotWorld.cleared, SnapshotWorld.stateInit, overNvs.1, stored,
    if_neg readable, restore]
  exact restored_of_cleared store padding (fun _ => rfl) (fun _ => rfl)

/--
What `snapshot_export` returns for a table brings all its values back when it
is restored into a cleared table, and so does the record that a successful
`snapshot_force_save` leaves in storage at the next boot.
-/
theorem snapshot_round_trip
    (world booted : SnapshotWorld Medium) (padding : UInt16 → UInt16) :
    (∀ maxLen, snapshotBufferSize ≤ maxLen →
    (world.snapshotExport padding maxLen).written.length =
        (world.snapshotExport padding maxLen).totalLen.toNat ∧
    Restored world.store
      (booted.stateInit.snapshotRestore
        (world.snapshotExport padding maxLen).written
        (world.snapshotExport padding maxLen).totalLen)) ∧
    (world.OverNvs → booted.OverNvs →
    booted.nvs = (world.snapshotForceSave padding .committed).nvs →
    Restored world.store booted.stateInit.snapshotInit) := by
  constructor
  · intro maxLen room
    rw [snapshotExport_record padding world room]
    refine ⟨snapshotRecord_length world.store padding, ?_⟩
    have whole :=
      snapshotRestore_record world.store padding booted.stateInit []
        (snapshotRecordLen world.store padding)
    rw [List.append_nil, if_pos rfl] at whole
    rw [whole]
    exact restored_of_cleared world.store padding (fun _ => rfl) (fun _ => rfl)
  · intro overNvs bootedOverNvs saved
    rw [snapshotForceSave_nvs overNvs padding] at saved
    exact snapshotInit_nvs bootedOverNvs saved

def nvsWorld (values : UInt16 → Int32) (nvs : Option (List UInt8)) :
    SnapshotWorld Unit where
  store := { stateInit with intValues := values }
  snapshotCrc := 0
  lastChange := 0
  storage := none
  medium := ()
  nvs := nvs

/-- A table with one value that is not zero comes back from storage. -/
theorem nvsWorld_single_restored :
    Restored (nvsWorld (fun id => if id = 3 then 7 else 0) none).store
      (nvsWorld (fun _ => 0)
        ((nvsWorld (fun id => if id = 3 then 7 else 0)
          none).snapshotForceSave (fun _ => 0)
            .committed).nvs).stateInit.snapshotInit := by
  generalize isNvs :
    ((nvsWorld (fun id => if id = 3 then 7 else 0) none).snapshotForceSave
      (fun _ => 0) .committed).nvs = nvs
  exact
    (snapshot_round_trip (nvsWorld (fun id => if id = 3 then 7 else 0) none)
      (nvsWorld (fun _ => 0) nvs) (fun _ => 0)).2 ⟨rfl, rfl⟩ ⟨rfl, rfl⟩
      isNvs.symm

/-! ## Records of a registered backend -/

/-- A backend whose read returns what was last written, at the start of a
buffer of the size that is asked for. -/
def SnapshotStorage.Keeps (storage : SnapshotStorage Medium) : Prop :=
  ∃ read write,
    storage.read = some read ∧ storage.write = some write ∧
    ∀ medium bytes (maxLen : Nat), bytes.length ≤ maxLen →
    ∃ rest,
      read (write medium bytes).2 maxLen = some (bytes ++ rest) ∧
      (bytes ++ rest).length = maxLen

theorem snapshotForceSave_backend
    {world : SnapshotWorld Medium} {storage : SnapshotStorage Medium}
    (registered : world.storage = some storage) (keeps : storage.Keeps)
    (padding : UInt16 → UInt16) (outcome : NvsOutcome) :
    ∃ read rest,
      storage.read = some read ∧
      read (world.snapshotForceSave padding outcome).medium
          snapshotBufferSize.toNat =
        some (snapshotRecord world.store padding ++ rest) := by
  rcases keeps with ⟨read, write, isRead, isWrite, returns⟩
  have exported :=
    snapshotExport_record padding world (UInt16.le_refl snapshotBufferSize)
  have nonempty := snapshotRecordLen_ne_zero world.store padding
  have fits :
      (snapshotRecord world.store padding).length ≤
        snapshotBufferSize.toNat := by
    rw [snapshotRecord_length]
    exact UInt16.le_iff_toNat_le.mp (snapshotRecordLen_le world.store padding)
  rcases returns world.medium _ _ fits with ⟨rest, isRecord, -⟩
  refine ⟨read, rest, isRead, ?_⟩
  have medium :
      (world.snapshotForceSave padding outcome).medium =
        (write world.medium (snapshotRecord world.store padding)).2 := by
    simp only [SnapshotWorld.snapshotForceSave, SnapshotWorld.snapshotSave,
      exported, if_neg nonempty, SnapshotWorld.snapshotBackendWrite,
      registered, Option.bind_some, isWrite]
    split
    · rfl
    · rfl
  rw [medium]
  exact isRecord

/--
After a save through a registered backend the next boot brings all values
back exactly when every entry of the table was exported, or there was nothing
to bring back.
-/
theorem backend_restores_iff
    {world booted : SnapshotWorld Medium} {storage : SnapshotStorage Medium}
    (registered : world.storage = some storage) (keeps : storage.Keeps)
    (padding : UInt16 → UInt16) (outcome : NvsOutcome)
    (bootedStorage : booted.storage = some storage)
    (bootedMedium :
      booted.medium = (world.snapshotForceSave padding outcome).medium) :
    (∀ id, StateValidId id →
        booted.stateInit.snapshotInit.store.intValues id =
          world.store.intValues id) ↔
      (∀ id, StateValidId id → world.store.Exports id) ∨
      ∀ id, StateValidId id → world.store.intValues id = 0 := by
  rcases snapshotForceSave_backend registered keeps padding outcome with
    ⟨read, rest, isRead, isRecord⟩
  rw [← bootedMedium] at isRecord
  have loaded :
      booted.stateInit.snapshotInit =
        booted.stateInit.cleared.snapshotRestore
          (snapshotRecord world.store padding ++ rest)
          snapshotBufferSize := by
    simp only [SnapshotWorld.snapshotInit, SnapshotWorld.cleared,
      SnapshotWorld.stateInit, SnapshotWorld.snapshotBackendRead,
      bootedStorage, Option.bind_some, isRead, isRecord, UInt16.ofNat_toNat]
  rw [loaded, snapshotRestore_record, ← snapshotRecordLen_eq_iff _ padding]
  by_cases fills : snapshotRecordLen world.store padding = snapshotBufferSize
  · rw [if_pos fills]
    have back :
        Restored world.store
          (booted.stateInit.cleared.restored world.store padding) :=
      restored_of_cleared world.store padding (fun _ => rfl) (fun _ => rfl)
    exact ⟨fun _ => Or.inl fills, fun _ => back.values⟩
  · rw [if_neg fills]
    constructor
    · intro same
      exact Or.inr fun id valid => (same id valid).symm
    · rintro (fills' | zero)
      · exact absurd fills' fills
      · intro id valid
        exact (zero id valid).symm

def fileStorage : SnapshotStorage (List UInt8) where
  read :=
    some fun file maxLen =>
      some (file ++ List.replicate (maxLen - file.length) 0)
  write := some fun _ bytes => (true, bytes)

def fileWorld (values : UInt16 → Int32) (file : List UInt8) :
    SnapshotWorld (List UInt8) where
  store := { stateInit with intValues := values }
  snapshotCrc := 0
  lastChange := 0
  storage := some fileStorage
  medium := file
  nvs := none

def fileReboot (values : UInt16 → Int32) : SnapshotWorld (List UInt8) :=
  (fileWorld (fun _ => 0)
    ((fileWorld values []).snapshotForceSave (fun _ => 0)
      .committed).medium).stateInit.snapshotInit

theorem fileStorage_keeps : fileStorage.Keeps := by
  refine ⟨_, _, rfl, rfl, ?_⟩
  intro file bytes maxLen fits
  refine ⟨List.replicate (maxLen - bytes.length) 0, rfl, ?_⟩
  rw [List.length_append, List.length_replicate]
  omega

/-- A table without zeros comes back through a backend. -/
theorem fileReboot_ones_restored :
    (fileReboot fun _ => 1).store.intValues 255 = 1 := by
  have exported :
      ∀ id, StateValidId id →
      (fileWorld (fun _ => 1) []).store.Exports id := by
    intro id _ both
    exact absurd both.1 (by show (1 : Int32) ≠ 0; decide)
  rw [fileReboot]
  generalize isFile :
    ((fileWorld (fun _ => 1) []).snapshotForceSave (fun _ => 0)
      .committed).medium = file
  exact
    (@backend_restores_iff _ (fileWorld (fun _ => 1) [])
      (fileWorld (fun _ => 0) file) fileStorage rfl fileStorage_keeps
      (fun _ => 0) .committed rfl isFile.symm).mpr
      (Or.inl exported) 255 (by decide)

/-- A table with one value that is not zero comes back empty. -/
theorem fileReboot_single_lost :
    ¬ ∀ id, StateValidId id →
    (fileReboot fun id => if id = 3 then 7 else 0).store.intValues id =
      if id = 3 then 7 else 0 := by
  intro same
  have value := same 3 (by decide)
  revert value
  decide +kernel

end Endap.State
