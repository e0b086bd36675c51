import Endap.Library.Layout
import Endap.Rs485.Codec
import Mathlib.Data.List.GetD

/-!
# The RS485 codec is a bijection onto its accepted language

Decoding accepts exactly the hexadecimal texts of raw buffers whose embedded
length matches their size and whose last two bytes are the CRC of the rest.
Encoding produces such a buffer, and an accepted buffer is the encoding of
the frame it was decoded to, so the two directions meet at `RawAccepted`.
-/

namespace Endap.Rs485.Codec

open Endap.Library

/-! ## Hexadecimal digits -/

theorem hexToNibble_nibbleToHex :
    ∀ byte : UInt8,
      hexToNibble (nibbleToHex byte) = some (byte &&& 0x0F) := by
  apply forall_byte
  decide +kernel

theorem join_halves :
    ∀ byte : UInt8,
      (((byte >>> 4) &&& 0x0F) <<< 4) ||| (byte &&& 0x0F) = byte := by
  apply forall_byte
  decide +kernel

theorem hexToNibble_sound :
    ∀ symbol : UInt8,
      ∀ nibble ∈ hexToNibble symbol,
        nibble < 16 ∧ nibbleToHex nibble = toUpper symbol := by
  apply forall_byte
  decide +kernel

theorem nibbleToHex_join
    (high low : UInt8) (highSmall : high < 16) (lowSmall : low < 16) :
    nibbleToHex (((high <<< 4) ||| low) >>> 4) = nibbleToHex high ∧
    nibbleToHex ((high <<< 4) ||| low) = nibbleToHex low := by
  have checked :
      ∀ first second : Fin 16,
        nibbleToHex
            (((UInt8.ofNat first <<< 4) ||| UInt8.ofNat second) >>> 4) =
            nibbleToHex (UInt8.ofNat first) ∧
        nibbleToHex ((UInt8.ofNat first <<< 4) ||| UInt8.ofNat second) =
          nibbleToHex (UInt8.ofNat second) := by
    decide +kernel
  have instantiated :=
    checked ⟨high.toNat, UInt8.lt_iff_toNat_lt.mp highSmall⟩
      ⟨low.toNat, UInt8.lt_iff_toNat_lt.mp lowSmall⟩
  simpa using instantiated

theorem hexCode_lawful : hexCode.Lawful where
  readable byte :=
    ⟨(byte >>> 4) &&& 0x0F, byte &&& 0x0F,
      hexToNibble_nibbleToHex _, hexToNibble_nibbleToHex _,
      join_halves byte⟩
  canonical := by
    intro left right high low readsHigh readsLow
    have highDigit := hexToNibble_sound left high readsHigh
    have lowDigit := hexToNibble_sound right low readsLow
    have joined := nibbleToHex_join high low highDigit.1 lowDigit.1
    exact ⟨joined.1.trans highDigit.2, joined.2.trans lowDigit.2⟩

theorem nibbleToHex_not_delimiter :
    ∀ byte : UInt8,
      nibbleToHex byte ≠ startByte ∧ nibbleToHex byte ≠ endByte := by
  apply forall_byte
  decide +kernel

theorem hexCode_write_not_delimiter (raw : List UInt8) :
    startByte ∉ hexCode.write raw ∧ endByte ∉ hexCode.write raw := by
  induction raw with
  | nil => simp [PairCode.write]
  | cons byte rest induction =>
      have high := nibbleToHex_not_delimiter (byte >>> 4)
      have low := nibbleToHex_not_delimiter byte
      simp only [PairCode.write, hexCode, List.mem_cons, not_or]
      exact
        ⟨⟨high.1.symm, low.1.symm, induction.1⟩,
          ⟨high.2.symm, low.2.symm, induction.2⟩⟩

/-! ## Big-endian words -/

theorem bigEndian_toNat (high low : UInt8) :
    (high.toUInt16 <<< 8 ||| low.toUInt16).toNat =
      high.toNat * 256 + low.toNat := by
  have highBound := high.toNat_lt
  have lowBound := low.toNat_lt
  have joined := Nat.shiftLeft_add_eq_or_of_lt (i := 8) lowBound high.toNat
  have wide : high.toNat <<< 8 < 65536 := by
    rw [Nat.shiftLeft_eq]
    omega
  have folded :
      (high.toUInt16 <<< 8 ||| low.toUInt16).toNat =
        high.toNat <<< 8 % 65536 ||| low.toNat := by
    simp
  rw [folded, Nat.mod_eq_of_lt wide, ← joined, Nat.shiftLeft_eq]

theorem highByte_toNat (word : UInt16) :
    (word >>> 8).toUInt8.toNat = word.toNat / 256 := by
  have bound := word.toNat_lt
  have shifted : (word >>> 8).toNat = word.toNat / 256 := by
    simp [Nat.shiftRight_eq_div_pow]
  rw [UInt16.toNat_toUInt8, shifted]
  omega

theorem lowByte_toNat (word : UInt16) :
    (word &&& 0xFF).toUInt8.toNat = word.toNat % 256 := by
  have mask : word.toNat &&& (0xFF : UInt16).toNat = word.toNat % 256 :=
    Nat.and_two_pow_sub_one_eq_mod _ 8
  rw [UInt16.toNat_toUInt8, UInt16.toNat_and, mask]
  omega

theorem bigEndian_high (high low : UInt8) :
    ((high.toUInt16 <<< 8 ||| low.toUInt16) >>> 8).toUInt8 = high := by
  have lowBound := low.toNat_lt
  apply UInt8.toNat_inj.mp
  rw [highByte_toNat, bigEndian_toNat]
  omega

theorem bigEndian_low (high low : UInt8) :
    ((high.toUInt16 <<< 8 ||| low.toUInt16) &&& 0xFF).toUInt8 = low := by
  have lowBound := low.toNat_lt
  apply UInt8.toNat_inj.mp
  rw [lowByte_toNat, bigEndian_toNat]
  omega

theorem bigEndian_join (word : UInt16) :
    ((word >>> 8).toUInt8.toUInt16 <<< 8) ||| (word &&& 0xFF).toUInt8.toUInt16 =
      word := by
  apply UInt16.toNat_inj.mp
  rw [bigEndian_toNat, highByte_toNat, lowByte_toNat]
  omega

/-! ## The accepted raw buffers -/

/-- The checks that `decode_wire_frame` makes on the raw buffer. -/
structure RawAccepted (raw : List UInt8) : Prop where
  size : raw.length = 7 + (raw.getD 4 0).toNat
  small : raw.length ≤ frameRawMax
  crc :
    ((raw.getD (raw.length - 2) 0).toUInt16 <<< 8) |||
        (raw.getD (raw.length - 1) 0).toUInt16 =
      rs485Crc16 (raw.take (raw.length - 2))

theorem crcField_append
    (body : List UInt8) (high low : UInt8) :
    (body ++ [high, low]).getD ((body ++ [high, low]).length - 2) 0 = high ∧
    (body ++ [high, low]).getD ((body ++ [high, low]).length - 1) 0 = low ∧
    (body ++ [high, low]).take ((body ++ [high, low]).length - 2) =
      body := by
  have crcIndex : (body ++ [high, low]).length - 2 = body.length := by
    simp
  have lastIndex : (body ++ [high, low]).length - 1 = body.length + 1 := by
    simp
  rw [crcIndex, lastIndex, List.take_left,
    List.getD_append_right _ _ _ _ (Nat.le_refl _),
    List.getD_append_right _ _ _ _ (Nat.le_succ _)]
  simp

/-- Specification of `decode_wire_frame`: what it accepts, and as what. -/
theorem decodeWireFrame_eq_frame_iff
    (wire : List UInt8) (buffer decoded : Rs485Frame) :
    decodeWireFrame wire buffer = (.frame, decoded) ↔
    ∃ raw,
      hexCode.read wire = some raw ∧
      RawAccepted raw ∧ decoded = frameOfRaw raw buffer := by
  constructor
  · intro accepted
    simp only [decodeWireFrame] at accepted
    split at accepted
    · cases accepted
    · rename_i evenLength
      split at accepted
      · cases accepted
      · rename_i inRange
        split at accepted
        · cases accepted
        · rename_i raw reads
          have wireLength := PairCode.read_length reads
          split at accepted
          · cases accepted
          · rename_i lengthMatches
            split at accepted
            · cases accepted
            · rename_i crcMatches
              have half : wire.length / 2 = raw.length := by omega
              have size :
                  frameHeaderSize + (raw.getD 4 0).toNat + frameCrcSize =
                    raw.length := by
                rw [← half]
                exact not_not.mp lengthMatches
              refine ⟨raw, reads, ⟨?_, ?_, ?_⟩, ?_⟩
              · rw [← size, frameHeaderSize, frameCrcSize]
                omega
              · omega
              · rw [size] at crcMatches
                exact not_not.mp crcMatches
              · cases accepted
                rfl
  · rintro ⟨raw, reads, accepted, rfl⟩
    have wireLength := PairCode.read_length reads
    have half : wire.length / 2 = raw.length := by omega
    have size := accepted.size
    have expected :
        frameHeaderSize + (raw.getD 4 0).toNat + frameCrcSize =
          raw.length := by
      rw [frameHeaderSize, frameCrcSize]
      omega
    have evenLength : ¬ (wire.length = 0 ∨ wire.length % 2 ≠ 0) := by
      omega
    have inRange :
        ¬ (raw.length < frameHeaderSize + frameCrcSize ∨
        raw.length > frameRawMax) := by
      have small := accepted.small
      rw [frameHeaderSize, frameCrcSize]
      omega
    have crc := accepted.crc
    simp only [decodeWireFrame, if_neg evenLength, half, if_neg inRange,
      reads, expected, ne_eq, not_true_eq_false, if_false]
    rw [if_neg]
    exact not_not.mpr crc

theorem RawAccepted.parts
    {raw : List UInt8} (accepted : RawAccepted raw) :
    ∃ (node idHigh idLow type len crcHigh crcLow : UInt8)
      (data : List UInt8),
      raw = [node, idHigh, idLow, type, len] ++ data ++ [crcHigh, crcLow] ∧
      data.length = len.toNat := by
  have size := accepted.size
  match raw, size with
  | node :: idHigh :: idLow :: type :: len :: rest, size =>
      simp only [List.length_cons, List.getD_cons_succ,
        List.getD_cons_zero] at size
      have restSplit := List.take_append_drop len.toNat rest
      have dataLength : (rest.take len.toNat).length = len.toNat := by
        rw [List.length_take]
        omega
      have tailLength : (rest.drop len.toNat).length = 2 := by
        rw [List.length_drop]
        omega
      rcases List.length_eq_two.mp tailLength with
        ⟨crcHigh, crcLow, tailEqual⟩
      refine
        ⟨node, idHigh, idLow, type, len, crcHigh, crcLow,
          rest.take len.toNat, ?_, dataLength⟩
      rw [List.append_assoc, ← tailEqual, restSplit]
      rfl

/-! ## From frames to buffers and back -/

theorem overwrite_take
    (payload : Vector UInt8 64) (bytes : List UInt8)
    (fits : bytes.length ≤ 64) :
    (overwrite payload bytes).toList.take bytes.length = bytes := by
  apply List.ext_getElem
  · simp [fits]
  · intro index _ inBytes
    simp [overwrite, List.getD_eq_getElem?_getD,
      List.getElem?_eq_getElem inBytes]

theorem Rs485Frame.data_length
    (frame : Rs485Frame)
    (short : frame.len.toNat ≤ frameMaxPayload) :
    frame.data.length = frame.len.toNat := by
  simpa [Rs485Frame.data, frameMaxPayload] using short

/-- The raw buffer of a frame that fits. -/
def rawOfFrame (frame : Rs485Frame) : List UInt8 :=
  rawHeader frame ++ frame.data ++
    crcBytes (rs485Crc16 (rawHeader frame ++ frame.data))

theorem rawOfFrame_length
    (frame : Rs485Frame)
    (short : frame.len.toNat ≤ frameMaxPayload) :
    (rawOfFrame frame).length = 7 + frame.len.toNat := by
  have dataLength := frame.data_length short
  simp only [rawOfFrame, rawHeader, crcBytes, List.length_append,
    List.length_cons, List.length_nil, dataLength]
  omega

/-- Specification of `encode_raw_frame` for the buffer size in use. -/
theorem encodeRawFrame_eq
    (frame : Rs485Frame)
    (short : frame.len.toNat ≤ frameMaxPayload) :
    encodeRawFrame frame frameRawMax = some (rawOfFrame frame) := by
  have rawFits :
      ¬ frameHeaderSize + frame.len.toNat + frameCrcSize >
        frameRawMax := by
    rw [frameRawMax]
    omega
  rw [encodeRawFrame, if_neg (Nat.not_lt.mpr short), if_neg rawFits]
  rfl

/-- Specification of `encode_wire_frame` for the buffer size in use. -/
theorem encodeWireFrame_eq
    (frame : Rs485Frame) (maxLen : Nat)
    (room : frameWireMax ≤ maxLen) :
    encodeWireFrame frame maxLen =
      if frame.len.toNat ≤ frameMaxPayload then
        some (startByte :: (hexCode.write (rawOfFrame frame) ++ [endByte]))
      else none := by
  by_cases short : frame.len.toNat ≤ frameMaxPayload
  · have encoded := encodeRawFrame_eq frame short
    have rawLength := rawOfFrame_length frame short
    have wireFits : ¬ (rawOfFrame frame).length * 2 + 2 > maxLen := by
      simp only [frameWireMax, frameRawMax, frameHeaderSize,
        frameCrcSize, frameMaxPayload] at room short
      omega
    simp only [encodeWireFrame, encoded, if_neg wireFits, if_pos short]
  · have encoded : encodeRawFrame frame frameRawMax = none := by
      rw [encodeRawFrame, if_pos (by omega)]
    simp only [encodeWireFrame, encoded, if_neg short]

theorem rawOfFrame_accepted
    (frame : Rs485Frame)
    (short : frame.len.toNat ≤ frameMaxPayload) :
    RawAccepted (rawOfFrame frame) := by
  have dataLength := frame.data_length short
  have rawLength := rawOfFrame_length frame short
  refine ⟨?_, ?_, ?_⟩
  · rw [rawLength]
    rfl
  · simp only [frameRawMax, frameHeaderSize, frameCrcSize,
      frameMaxPayload] at short ⊢
    omega
  · have field :=
      crcField_append (rawHeader frame ++ frame.data)
        (rs485Crc16 (rawHeader frame ++ frame.data) >>> 8).toUInt8
        (rs485Crc16 (rawHeader frame ++ frame.data) &&& 0xFF).toUInt8
    rw [rawOfFrame, crcBytes, field.1, field.2.1, field.2.2]
    exact bigEndian_join _

/-- The payload written from an accepted buffer does not depend on the frame
it is written into. -/
theorem frameOfRaw_data
    (raw : List UInt8) (buffer : Rs485Frame)
    (accepted : RawAccepted raw) :
    (frameOfRaw raw buffer).data =
      (raw.drop 5).take (raw.getD 4 0).toNat := by
  have size := accepted.size
  have small := accepted.small
  have length :
      ((raw.drop 5).take (raw.getD 4 0).toNat).length =
        (raw.getD 4 0).toNat := by
    rw [List.length_take, List.length_drop]
    omega
  have fits : ((raw.drop 5).take (raw.getD 4 0).toNat).length ≤ 64 := by
    rw [length]
    simp only [frameRawMax, frameHeaderSize, frameMaxPayload,
      frameCrcSize] at small
    omega
  have kept := overwrite_take buffer.payload _ fits
  rwa [length] at kept

theorem frameOfRaw_rawOfFrame
    (frame buffer : Rs485Frame)
    (short : frame.len.toNat ≤ frameMaxPayload) :
    (frameOfRaw (rawOfFrame frame) buffer).SameMessage frame := by
  have dataLength := frame.data_length short
  have payloadPart :
      ((rawOfFrame frame).drop 5).take frame.len.toNat = frame.data := by
    have dropped :
        (rawOfFrame frame).drop 5 =
          frame.data ++
            crcBytes (rs485Crc16 (rawHeader frame ++ frame.data)) := rfl
    rw [dropped, ← dataLength, List.take_left]
  refine ⟨rfl, ?_, rfl, rfl, ?_⟩
  · exact bigEndian_join frame.msgId
  · rw [frameOfRaw_data _ _ (rawOfFrame_accepted frame short)]
    exact payloadPart

theorem rawOfFrame_frameOfRaw
    (raw : List UInt8) (buffer : Rs485Frame)
    (accepted : RawAccepted raw) :
    (frameOfRaw raw buffer).len.toNat ≤ frameMaxPayload ∧
    rawOfFrame (frameOfRaw raw buffer) = raw := by
  have size := accepted.size
  have small := accepted.small
  have crc := accepted.crc
  rcases accepted.parts with
    ⟨node, idHigh, idLow, type, len, crcHigh, crcLow, data, rfl, dataLength⟩
  have short : len.toNat ≤ frameMaxPayload := by
    simp only [frameRawMax, frameHeaderSize, frameCrcSize, frameMaxPayload,
      List.length_append, List.length_cons, List.length_nil] at small ⊢
    omega
  refine ⟨short, ?_⟩
  have field :=
    crcField_append ([node, idHigh, idLow, type, len] ++ data) crcHigh crcLow
  rw [field.1, field.2.1, field.2.2] at crc
  have header :
      rawHeader
          (frameOfRaw
            ([node, idHigh, idLow, type, len] ++ data ++ [crcHigh, crcLow])
            buffer) =
        [node, idHigh, idLow, type, len] := by
    have idHighEqual := bigEndian_high idHigh idLow
    have idLowEqual := bigEndian_low idHigh idLow
    simp only [rawHeader, frameOfRaw, List.cons_append, List.nil_append,
      List.getD_cons_zero, List.getD_cons_succ, idHighEqual, idLowEqual]
  have dataEqual :
      (frameOfRaw
          ([node, idHigh, idLow, type, len] ++ data ++ [crcHigh, crcLow])
          buffer).data =
        data := by
    rw [frameOfRaw_data _ _ accepted]
    change (data ++ [crcHigh, crcLow]).take len.toNat = data
    rw [← dataLength, List.take_left]
  rw [rawOfFrame, header, dataEqual, ← crc, crcBytes,
    bigEndian_high, bigEndian_low]

/-! ## The two directions of the codec -/

/-- The text between the delimiters of an encoded frame. -/
def wireBody (frame : Rs485Frame) : List UInt8 :=
  hexCode.write (rawOfFrame frame)

theorem decodeWireFrame_wireBody
    (frame buffer : Rs485Frame)
    (short : frame.len.toNat ≤ frameMaxPayload) :
    ∃ decoded,
      decodeWireFrame (wireBody frame) buffer = (.frame, decoded) ∧
      decoded.SameMessage frame :=
  ⟨frameOfRaw (rawOfFrame frame) buffer,
    (decodeWireFrame_eq_frame_iff _ _ _).mpr
      ⟨rawOfFrame frame,
        PairCode.read_write hexCode_lawful _,
        rawOfFrame_accepted frame short, rfl⟩,
    frameOfRaw_rawOfFrame frame buffer short⟩

variable {wire : List UInt8} {buffer decoded : Rs485Frame}

theorem wireBody_of_decodeWireFrame
    (accepted : decodeWireFrame wire buffer = (.frame, decoded)) :
    decoded.len.toNat ≤ frameMaxPayload ∧
    wireBody decoded = wire.map toUpper := by
  rcases (decodeWireFrame_eq_frame_iff _ _ _).mp accepted with
    ⟨raw, reads, rawAccepted, rfl⟩
  have inverse := rawOfFrame_frameOfRaw raw buffer rawAccepted
  refine ⟨inverse.1, ?_⟩
  rw [wireBody, inverse.2]
  exact PairCode.write_of_read hexCode_lawful reads

theorem decodeWireFrame_buffer
    (accepted : decodeWireFrame wire buffer = (.frame, decoded))
    (other : Rs485Frame) :
    ∃ otherDecoded,
      decodeWireFrame wire other = (.frame, otherDecoded) ∧
      decoded.SameMessage otherDecoded := by
  rcases (decodeWireFrame_eq_frame_iff _ _ _).mp accepted with
    ⟨raw, reads, rawAccepted, rfl⟩
  refine
    ⟨frameOfRaw raw other,
      (decodeWireFrame_eq_frame_iff _ _ _).mpr ⟨raw, reads, rawAccepted, rfl⟩,
      rfl, rfl, rfl, rfl, ?_⟩
  rw [frameOfRaw_data _ _ rawAccepted, frameOfRaw_data _ _ rawAccepted]

theorem length_of_decodeWireFrame
    (accepted : decodeWireFrame wire buffer = (.frame, decoded)) :
    wire.length = 2 * (7 + decoded.len.toNat) := by
  rcases (decodeWireFrame_eq_frame_iff _ _ _).mp accepted with
    ⟨raw, reads, rawAccepted, rfl⟩
  rw [PairCode.read_length reads, rawAccepted.size]
  rfl

/--
The codec is a bijection between frames that fit and the accepted texts up to
letter case, and it refuses to encode every other frame.
-/
theorem wire_codec_bijection :
    (∀ (frame buffer : Rs485Frame),
      frame.len.toNat ≤ frameMaxPayload →
      ∃ wire decoded,
        encodeWireFrame frame frameWireMax =
            some (startByte :: (wire ++ [endByte])) ∧
        decodeWireFrame wire buffer = (.frame, decoded) ∧
        decoded.SameMessage frame) ∧
      (∀ (wire : List UInt8) (buffer decoded : Rs485Frame),
        decodeWireFrame wire buffer = (.frame, decoded) →
        decoded.len.toNat ≤ frameMaxPayload ∧
        encodeWireFrame decoded frameWireMax =
          some (startByte :: (wire.map toUpper ++ [endByte]))) ∧
        ∀ frame : Rs485Frame,
          frame.len.toNat > frameMaxPayload →
          encodeWireFrame frame frameWireMax = none := by
  refine ⟨?_, ?_, ?_⟩
  · intro frame buffer short
    rcases decodeWireFrame_wireBody frame buffer short with
      ⟨decoded, accepted, same⟩
    refine ⟨wireBody frame, decoded, ?_, accepted, same⟩
    rw [encodeWireFrame_eq frame frameWireMax (Nat.le_refl _), if_pos short]
    rfl
  · intro wire buffer decoded accepted
    have inverse := wireBody_of_decodeWireFrame accepted
    refine ⟨inverse.1, ?_⟩
    rw [encodeWireFrame_eq decoded frameWireMax (Nat.le_refl _),
      if_pos inverse.1, ← inverse.2]
    rfl
  · intro frame long
    rw [encodeWireFrame_eq frame frameWireMax (Nat.le_refl _),
      if_neg (by omega)]

end Endap.Rs485.Codec
