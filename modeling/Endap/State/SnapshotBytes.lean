import Endap.State.Snapshot

/-!
# Restoring arbitrary bytes

`snapshot_restore` computes the length of the record from the number of
entries that the header names, and compares it with the length of the buffer.
Both are kept in sixteen bits, but the number itself may be any 16-bit number.
A header that names more entries than sixteen bits of length can cover is
accepted with a much shorter buffer, and the loop over the entries runs past
its end.
-/

namespace Endap.State

open Endap.Library

variable {Medium : Type}

/-! ## What is read -/

/-- Where the loop of `snapshot_restore` finds the entry of a round. -/
def snapshotEntryOffset (round : Nat) : Nat :=
  snapshotHeaderSize.toNat + stateEntrySize.toNat * round

/-- Where `snapshot_restore` reads entries, in order. -/
def restoreReads (buffer : List UInt8) (len : UInt16) : List Nat :=
  if SnapshotAccepts buffer len then
    (List.range (snapshotHeaderLayout.read buffer).count.toNat).map
      snapshotEntryOffset
  else []

/-- The state after the entries at some places of the buffer were applied. -/
def SnapshotWorld.applying (world : SnapshotWorld Medium)
    (buffer : List UInt8) (offsets : List Nat) : SnapshotWorld Medium :=
  { world with
    store :=
      { restoreEntries world.store
          (offsets.map fun offset =>
            stateEntryLayout.read (buffer.drop offset)) with
        snapshotDirty := false }
    snapshotCrc := (snapshotHeaderLayout.read buffer).crc
    lastChange := 0 }

theorem readList_eq_offsets (buffer : List UInt8) (count : Nat) :
    stateEntryLayout.readList count (buffer.drop snapshotHeaderSize.toNat) =
      ((List.range count).map snapshotEntryOffset).map fun offset =>
        stateEntryLayout.read (buffer.drop offset) := by
  rw [Layout.readList, List.map_map]
  apply List.map_congr_left
  intro round _
  have size : stateEntryLayout.size = stateEntrySize.toNat := rfl
  rw [List.drop_drop, Function.comp_apply, snapshotEntryOffset, size,
    Nat.mul_comm]

/-- Either all checks pass and the entries are applied, or nothing is
done. -/
theorem snapshotRestore_eq
    (world : SnapshotWorld Medium) (buffer : List UInt8) (len : UInt16) :
    world.snapshotRestore buffer len =
      if SnapshotAccepts buffer len then
        world.applying buffer (restoreReads buffer len)
      else world := by
  rw [snapshotRestore_checks]
  split
  · next accepts =>
      rw [restoreReads, if_pos accepts, SnapshotWorld.applying,
        ← readList_eq_offsets]
  · rfl

/-! ## The length of an accepted record -/

/-- With this many entries the length of a payload no longer fits sixteen
bits. -/
def snapshotCountLimit : Nat := 8192

variable {buffer : List UInt8} {len : UInt16}

/-- Below the limit the length of an accepted record is the one its header
means. -/
theorem SnapshotAccepts.extent
    (accepts : SnapshotAccepts buffer len)
    (few :
      (snapshotHeaderLayout.read buffer).count.toNat < snapshotCountLimit) :
    snapshotEntryOffset (snapshotHeaderLayout.read buffer).count.toNat =
      len.toNat := by
  have length := congrArg UInt16.toNat accepts.length
  rw [UInt16.toNat_add, UInt16.toNat_mul] at length
  have long := accepts.headerFits
  rw [UInt16.not_lt, UInt16.le_iff_toNat_le] at long
  have header : snapshotHeaderSize.toNat = 12 := rfl
  have entry : stateEntrySize.toNat = 8 := rfl
  rw [snapshotCountLimit] at few
  rw [header] at length long
  rw [entry] at length
  rw [snapshotEntryOffset, header, entry]
  omega

theorem mem_restoreReads
    (accepts : SnapshotAccepts buffer len) {offset : Nat} :
    offset ∈ restoreReads buffer len ↔
    ∃ round < (snapshotHeaderLayout.read buffer).count.toNat,
      snapshotEntryOffset round = offset := by
  rw [restoreReads, if_pos accepts, List.mem_map]
  simp only [List.mem_range]

/-- From the limit on an accepted record has an entry no 16-bit length
reaches. -/
theorem SnapshotAccepts.overrun
    (accepts : SnapshotAccepts buffer len)
    (many :
      snapshotCountLimit ≤ (snapshotHeaderLayout.read buffer).count.toNat) :
    ∃ offset ∈ restoreReads buffer len,
      len.toNat < offset + stateEntrySize.toNat := by
  refine
    ⟨snapshotEntryOffset (snapshotCountLimit - 1),
      (mem_restoreReads accepts).mpr
        ⟨_, Nat.lt_of_lt_of_le (by decide) many, rfl⟩, ?_⟩
  exact Nat.lt_trans len.toNat_lt (by decide)

/-! ## Safety -/

/-- The header and the checksum of the buffer are right, its entries fill the
given length, and all of them are applied. -/
structure AppliesWhole (world after : SnapshotWorld Medium)
    (buffer : List UInt8) (len : UInt16) : Prop where
  headerFits : snapshotHeaderSize ≤ len
  magic : (snapshotHeaderLayout.read buffer).magic = snapshotMagic
  version : (snapshotHeaderLayout.read buffer).version = snapshotVersion
  checksum :
    snapshotCrc32
        ((buffer.drop snapshotHeaderSize.toNat).take
          (len.toNat - snapshotHeaderSize.toNat)) =
      (snapshotHeaderLayout.read buffer).crc
  extent :
    snapshotHeaderSize.toNat +
        stateEntrySize.toNat * (snapshotHeaderLayout.read buffer).count.toNat =
      len.toNat
  applied :
    after =
      world.applying buffer
        ((List.range
          (snapshotHeaderLayout.read buffer).count.toNat).map
            snapshotEntryOffset)

/-- Nothing is changed or the whole record is applied, and no entry is read
that ends behind the given length. -/
structure RestoreSafe (world : SnapshotWorld Medium)
    (buffer : List UInt8) (len : UInt16) : Prop where
  atomic :
    world.snapshotRestore buffer len = world ∨
    AppliesWhole world (world.snapshotRestore buffer len) buffer len
  inside :
    ∀ offset ∈ restoreReads buffer len,
      offset + stateEntrySize.toNat ≤ len.toNat

theorem SnapshotAccepts.appliesWhole
    (accepts : SnapshotAccepts buffer len)
    (few : (snapshotHeaderLayout.read buffer).count.toNat < snapshotCountLimit)
    (world : SnapshotWorld Medium) :
    AppliesWhole world (world.snapshotRestore buffer len) buffer len := by
  have extent := accepts.extent few
  have payload :
      ((snapshotHeaderLayout.read buffer).count * stateEntrySize).toNat =
        len.toNat - snapshotHeaderSize.toNat := by
    have small :
        (snapshotHeaderLayout.read buffer).count.toNat *
            stateEntrySize.toNat < 2 ^ 16 :=
      Nat.mul_lt_mul_of_pos_right few (by decide)
    rw [← extent, snapshotEntryOffset, UInt16.toNat_mul,
      Nat.mod_eq_of_lt small, Nat.add_sub_cancel_left, Nat.mul_comm]
  constructor
  · exact UInt16.not_lt.mp accepts.headerFits
  · exact accepts.magic
  · exact accepts.version
  · rw [← payload]
    exact accepts.checksum
  · exact extent
  · rw [snapshotRestore_eq, if_pos accepts, restoreReads, if_pos accepts]

/--
Whatever the bytes and the length are, `snapshot_restore` changes nothing or
applies the whole record, and reads no entry behind the length, exactly when
the header names fewer entries than sixteen bits of length can cover or one of
the checks fails.
-/
theorem restore_safe_iff
    (world : SnapshotWorld Medium) (buffer : List UInt8) (len : UInt16) :
    RestoreSafe world buffer len ↔
    (snapshotHeaderLayout.read buffer).count.toNat < snapshotCountLimit ∨
    ¬ SnapshotAccepts buffer len := by
  constructor
  · intro safe
    by_contra neither
    rw [not_or, Nat.not_lt, not_not] at neither
    rcases neither.2.overrun neither.1 with ⟨offset, read, beyond⟩
    exact Nat.not_le_of_lt beyond (safe.inside offset read)
  · intro condition
    by_cases accepts : SnapshotAccepts buffer len
    · have few := condition.resolve_right (not_not.mpr accepts)
      refine ⟨Or.inr (accepts.appliesWhole few world), ?_⟩
      intro offset read
      rcases (mem_restoreReads accepts).mp read with ⟨round, earlier, rfl⟩
      rw [← accepts.extent few, snapshotEntryOffset, snapshotEntryOffset,
        Nat.add_assoc, ← Nat.mul_succ]
      exact Nat.add_le_add_left (Nat.mul_le_mul_left _ earlier) _
    · refine ⟨Or.inl ?_, ?_⟩
      · rw [snapshotRestore_eq, if_neg accepts]
      · intro offset read
        rw [restoreReads, if_neg accepts] at read
        cases read

def wrappingHeader : List UInt8 :=
  [0x50, 0x41, 0x4E, 0x53, 0x01, 0x00, 0x00, 0x20, 0xC5, 0x9D, 0x1C, 0x81]

/-- Twelve bytes are accepted as a record of 8192 entries. -/
theorem wrappingHeader_overrun :
    ¬ ∀ world : SnapshotWorld Unit, ∀ buffer len,
      RestoreSafe world buffer len := by
  intro safe
  have accepts : SnapshotAccepts wrappingHeader 12 := by decide
  rcases accepts.overrun (by decide) with ⟨offset, read, beyond⟩
  exact
    Nat.not_le_of_lt beyond
      ((safe (nvsWorld (fun _ => 0) none) wrappingHeader 12).inside offset read)

end Endap.State
