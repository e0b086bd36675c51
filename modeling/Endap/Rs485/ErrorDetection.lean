import Endap.Library.Crc
import Endap.Rs485.CodecRoundTrip

/-!
# Errors that the frame check detects

An encoded frame has an even number of set bits, the checksum included, and two
encoded frames of one length differ in no byte or in two.  A frame with one
changed byte, or with an odd number of changed bits, is not accepted.
-/

namespace Endap.Rs485.Codec

open Endap.Library

/-! ## The checksum as a register -/

/-- The bytes of a buffer as words. -/
def byteWords (bytes : List UInt8) : List (BitVec 8) := bytes.map UInt8.toBitVec

theorem crcBit_toBitVec (crc : UInt16) :
    (crcBit crc).toBitVec = Crc.bit 0xA001#16 crc.toBitVec := by
  have lowest : crc &&& 1 ≠ 0 ↔ crc.toBitVec.getLsbD 0 = true := by
    rw [ne_eq, ← UInt16.toBitVec_inj]
    change ¬ crc.toBitVec &&& 1#16 = 0#16 ↔ _
    rw [BitVec.and_one_eq_setWidth_ofBool_getLsbD]
    cases crc.toBitVec.getLsbD 0 with
    | _ => decide
  rw [crcBit, Crc.bit]
  simp only [lowest]
  split
  · rfl
  · rfl

theorem crcByte_toBitVec (crc : UInt16) (byte : UInt8) :
    (crcByte crc byte).toBitVec =
      Crc.symbol 0xA001#16 crc.toBitVec byte.toBitVec := by
  have steps :=
    Function.Semiconj.iterate_right (f := UInt16.toBitVec) crcBit_toBitVec 8
  exact steps (crc ^^^ byte.toUInt16)

theorem rs485Crc16_toBitVec (data : List UInt8) :
    (rs485Crc16 data).toBitVec =
      Crc.run 0xA001#16 0xFFFF#16 (byteWords data) := by
  have steps (start : UInt16) :
      (data.foldl crcByte start).toBitVec =
        Crc.run 0xA001#16 start.toBitVec (byteWords data) := by
    induction data generalizing start with
    | nil => rfl
    | cons byte rest induction =>
        rw [List.foldl_cons, induction, crcByte_toBitVec]
        rfl
  exact steps 0xFFFF

/-! ## Parity -/

theorem onesOf_crcBytes (crc : UInt16) :
    Crc.onesOf (byteWords (crcBytes crc)) = Crc.ones crc.toBitVec := by
  have low : (crc &&& 0xFF).toUInt8.toBitVec = crc.toBitVec.setWidth 8 := by
    apply BitVec.eq_of_toNat_eq
    rw [BitVec.toNat_setWidth]
    exact lowByte_toNat crc
  have halves := @Crc.ones_halves 8 8 crc.toBitVec
  rw [← low] at halves
  exact (Nat.add_comm _ _).trans halves.symm

theorem rawOfFrame_even (frame : Rs485Frame) :
    Crc.onesOf (byteWords (rawOfFrame frame)) % 2 = 0 := by
  have parity :=
    @Crc.ones_run _ _ 0xA001#16 (by decide) (by decide) 0xFFFF#16
      (byteWords (rawHeader frame ++ frame.data))
  have evenStart : Crc.ones 0xFFFF#16 % 2 = 0 := by
    decide
  rw [← rs485Crc16_toBitVec] at parity
  have parts :
      byteWords (rawOfFrame frame) =
        byteWords (rawHeader frame ++ frame.data) ++
          byteWords (crcBytes (rs485Crc16 (rawHeader frame ++ frame.data))) :=
    List.map_append
  rw [parts, Crc.onesOf_append, onesOf_crcBytes]
  omega

/-- The number of bits in which two buffers differ. -/
def changedBits (left right : List UInt8) : Nat :=
  Crc.onesOf
    (List.zipWith (fun byte other => (byte ^^^ other).toBitVec) left right)

theorem rawOfFrame_changedBits (frame other : Rs485Frame)
    (sameLength : (rawOfFrame frame).length = (rawOfFrame other).length) :
    changedBits (rawOfFrame frame) (rawOfFrame other) % 2 = 0 := by
  have words :
      List.zipWith (fun byte other => (byte ^^^ other).toBitVec)
          (rawOfFrame frame) (rawOfFrame other) =
        List.zipWith (· ^^^ ·) (byteWords (rawOfFrame frame))
          (byteWords (rawOfFrame other)) := by
    rw [byteWords, byteWords, List.zipWith_map]
    rfl
  have sameWords :
      (byteWords (rawOfFrame frame)).length =
        (byteWords (rawOfFrame other)).length := by
    rw [byteWords, byteWords, List.length_map, List.length_map, sameLength]
  have parity := Crc.onesOf_zipWith_xor sameWords
  have first := rawOfFrame_even frame
  have second := rawOfFrame_even other
  rw [changedBits, words]
  omega

/-! ## One changed byte -/

theorem rs485Crc16_ne_of_changed {data other : List UInt8}
    (sameLength : data.length = other.length)
    (one : Crc.changes data other = 1) :
    rs485Crc16 data ≠ rs485Crc16 other := by
  rcases Crc.exists_of_changes_eq_one sameLength one with
    ⟨before, byte, changed, after, rfl, rfl, differs⟩
  intro same
  have registers := congrArg UInt16.toBitVec same
  rw [rs485Crc16_toBitVec, rs485Crc16_toBitVec, byteWords, byteWords,
    List.map_append, List.map_append, List.map_cons, List.map_cons] at registers
  refine Crc.run_ne_of_changed (by decide) (by decide) _ _ _ ?_ registers
  exact fun sameWord => differs (UInt8.toBitVec_inj.mp sameWord)

theorem crcBytes_injective : Function.Injective crcBytes := by
  intro crc other same
  simp only [crcBytes, List.cons.injEq, and_true] at same
  rw [← bigEndian_join crc, same.1, same.2, bigEndian_join]

theorem rawOfFrame_changes {frame other : Rs485Frame}
    (short : frame.len.toNat ≤ frameMaxPayload)
    (otherShort : other.len.toNat ≤ frameMaxPayload)
    (sameLength : (rawOfFrame frame).length = (rawOfFrame other).length) :
    Crc.changes (rawOfFrame frame) (rawOfFrame other) ≠ 1 := by
  have sameBody :
      (rawHeader frame ++ frame.data).length =
        (rawHeader other ++ other.data).length := by
    have length := rawOfFrame_length frame short
    have otherLength := rawOfFrame_length other otherShort
    rw [List.length_append, List.length_append, frame.data_length short,
      other.data_length otherShort]
    change 5 + _ = 5 + _
    omega
  intro one
  rw [rawOfFrame, rawOfFrame, Crc.changes_append sameBody] at one
  by_cases same : rawHeader frame ++ frame.data = rawHeader other ++ other.data
  · rw [same, (Crc.changes_eq_zero_iff rfl).mpr rfl,
      (Crc.changes_eq_zero_iff rfl).mpr rfl] at one
    exact Nat.zero_ne_one one
  · -- The one change is in front of the checksum, and the checksums agree.
    have differs := mt (Crc.changes_eq_zero_iff sameBody).mp same
    have sameCheck :
        Crc.changes
            (crcBytes (rs485Crc16 (rawHeader frame ++ frame.data)))
            (crcBytes (rs485Crc16 (rawHeader other ++ other.data))) = 0 := by
      omega
    rw [sameCheck, Nat.add_zero] at one
    apply rs485Crc16_ne_of_changed sameBody one
    have sameSize {crc otherCrc : UInt16} :
        (crcBytes crc).length = (crcBytes otherCrc).length :=
      rfl
    exact crcBytes_injective ((Crc.changes_eq_zero_iff sameSize).mp sameCheck)

/-! ## Damaged frames -/

/-- The text of an encoded frame with one changed byte, or with an odd number
of changed bits, is not accepted as a frame. -/
theorem damaged_frame_rejected (frame : Rs485Frame)
    (short : frame.len.toNat ≤ frameMaxPayload) :
    ∃ raw,
      encodeRawFrame frame frameRawMax = some raw ∧
      ∀ damaged,
        damaged.length = raw.length →
        Crc.changes raw damaged = 1 ∨ changedBits raw damaged % 2 = 1 →
        ∀ wire buffer,
          hexCode.read wire = some damaged →
          (decodeWireFrame wire buffer).1 ≠ .frame := by
  have encoded : encodeRawFrame frame frameRawMax = some (rawOfFrame frame) :=
    encodeRawFrame_eq frame short
  refine ⟨rawOfFrame frame, encoded, ?_⟩
  intro damaged sameLength isDamaged wire buffer reads accepted
  have decoded :
      decodeWireFrame wire buffer = (.frame, (decodeWireFrame wire buffer).2) :=
    Prod.ext accepted rfl
  rcases (decodeWireFrame_eq_frame_iff _ _ _).mp decoded with
    ⟨raw, rawReads, rawAccepted, _⟩
  have isRaw : damaged = raw := Option.some.inj (reads.symm.trans rawReads)
  -- What is accepted is the encoding of a frame.
  rcases rawOfFrame_frameOfRaw raw buffer rawAccepted with
    ⟨otherShort, isEncoding⟩
  rw [isRaw, ← isEncoding] at sameLength isDamaged
  rcases isDamaged with one | odd
  · exact rawOfFrame_changes short otherShort sameLength.symm one
  · have even := rawOfFrame_changedBits frame _ sameLength.symm
    omega

def sampleFrame : Rs485Frame :=
  { Rs485Frame.zero with
    node := 0x11
    msgId := 0x0203
    len := 2 }

/-- Flipping three bits in three bytes is detected, and so is changing the
length byte. -/
theorem damaged_frame_rejected_sample :
    (decodeWireFrame
          (hexCode.write
            ((rawOfFrame sampleFrame).zipWith (· ^^^ ·)
              [0x01, 0x80, 0, 0, 0, 0x10, 0, 0, 0]))
          Rs485Frame.zero).1 ≠
        .frame ∧
    (decodeWireFrame
        (hexCode.write
          ((rawOfFrame sampleFrame).zipWith (· ^^^ ·)
            [0, 0, 0, 0, 0x03, 0, 0, 0, 0]))
        Rs485Frame.zero).1 ≠
      .frame := by
  rcases damaged_frame_rejected sampleFrame (by decide) with
    ⟨raw, encoded, rejected⟩
  have isRaw : raw = rawOfFrame sampleFrame :=
    Option.some.inj
      (encoded.symm.trans (encodeRawFrame_eq sampleFrame (by decide)))
  subst isRaw
  constructor
  · exact
      rejected _ (by decide +kernel) (.inr (by decide +kernel)) _ _
        (PairCode.read_write hexCode_lawful _)
  · exact
      rejected _ (by decide +kernel) (.inl (by decide +kernel)) _ _
        (PairCode.read_write hexCode_lawful _)

end Endap.Rs485.Codec
