import Endap.Rs485.CodecRoundTrip

/-!
# The wire format of the slave firmware

The slave test firmware carries its own copy of the wire format.  It computes
in `int` where the gateway computes in `uint16_t`, checks the buffer size
before the frame is built, and has one check more when it decodes.  This
module translates that copy and proves that the two implementations agree on
every frame and on every received text.

`slave_frame_t` has the fields of `rs485_frame_t`, so both are `Rs485Frame`.
-/

namespace Endap.Rs485.SlaveCodec

open Endap.Library
open Endap.Rs485.Codec

/-! ## Translation -/

/-- One bit of `crc16_modbus`, computed in `int` and stored in `uint16_t`. -/
def crcBit (crc : UInt16) : UInt16 :=
  if crc.toNat &&& 1 ≠ 0 then UInt16.ofNat ((crc.toNat >>> 1) ^^^ 0xA001)
  else UInt16.ofNat (crc.toNat >>> 1)

/-- One byte of `crc16_modbus`. -/
def crcByte (crc : UInt16) (byte : UInt8) : UInt16 :=
  crcBit^[8] (UInt16.ofNat (crc.toNat ^^^ byte.toNat))

def crc16Modbus (data : List UInt8) : UInt16 := data.foldl crcByte 0xFFFF

/-- `nibble_to_hex` of the slave. -/
def nibbleToHex (value : UInt8) : UInt8 :=
  let nibble := value.toNat &&& 0x0F
  if nibble < 10 then UInt8.ofNat (0x30 + nibble)
  else UInt8.ofNat (0x41 + (nibble - 10))

/-- `hex_to_nibble` of the slave; `none` stands for the returned `-1`. -/
def hexToNibble (value : UInt8) : Option Nat :=
  if 0x30 ≤ value.toNat ∧ value.toNat ≤ 0x39 then some (value.toNat - 0x30)
  else
    let upper := (toUpper value).toNat
    if 0x41 ≤ upper ∧ upper ≤ 0x46 then some (10 + (upper - 0x41))
    else none

/-- The hexadecimal text of a buffer in the slave's two loops. -/
def hexCode : PairCode UInt8 Nat UInt8 where
  first byte := nibbleToHex (byte >>> 4)
  second byte := nibbleToHex byte
  digit := hexToNibble
  join high low := UInt8.ofNat ((high <<< 4) ||| low)
  normal := toUpper

/-- `decode_wire_frame` of the slave. -/
def decodeWireFrame (wire : List UInt8) (frame : Rs485Frame) :
    Bool × Rs485Frame :=
  if wire.length = 0 ∨ wire.length % 2 ≠ 0 then (false, frame)
  else
    let rawLen := wire.length / 2
    if rawLen < frameHeaderSize + frameCrcSize ∨ rawLen > frameRawMax then
      (false, frame)
    else
      match hexCode.read wire with
      | none => (false, frame)
      | some raw =>
          let payloadLen := (raw.getD 4 0).toNat
          let expectedLen := frameHeaderSize + payloadLen + frameCrcSize
          if expectedLen ≠ rawLen ∨ payloadLen > frameMaxPayload then
            (false, frame)
          else
            let expectedCrc :=
              ((raw.getD (expectedLen - 2) 0).toUInt16 <<< 8) |||
                (raw.getD (expectedLen - 1) 0).toUInt16
            let actualCrc := crc16Modbus (raw.take (expectedLen - frameCrcSize))
            if expectedCrc ≠ actualCrc then (false, frame)
            else (true, frameOfRaw raw frame)

/-- `encode_wire_frame` of the slave. -/
def encodeWireFrame (frame : Rs485Frame) (maxLen : Nat) : Option (List UInt8) :=
  if frame.len.toNat > frameMaxPayload then none
  else
    let rawLen := frameHeaderSize + frame.len.toNat + frameCrcSize
    if rawLen * 2 + 2 > maxLen then none
    else
      let body := rawHeader frame ++ frame.data
      let raw := body ++ crcBytes (crc16Modbus body)
      some (startByte :: (hexCode.write raw ++ [endByte]))

/-! ## The parts agree -/

theorem crcBit_eq (crc : UInt16) : crcBit crc = Codec.crcBit crc := by
  have bitEqual : (crc &&& 1 ≠ 0) ↔ crc.toNat &&& 1 ≠ 0 := by
    rw [ne_eq, ← UInt16.toNat_inj]
    simp
  have plain : UInt16.ofNat (crc.toNat >>> 1) = crc >>> 1 := by
    apply UInt16.toNat_inj.mp
    have bound := crc.toNat_lt
    have shifted : (crc >>> 1).toNat = crc.toNat >>> 1 := by
      simp
    have small : crc.toNat >>> 1 < 65536 := by
      rw [Nat.shiftRight_eq_div_pow]
      omega
    rw [shifted, UInt16.toNat_ofNat_of_lt' small]
  have mixed :
      UInt16.ofNat ((crc.toNat >>> 1) ^^^ 0xA001) =
        (crc >>> 1) ^^^ 0xA001 := by
    rw [← plain]
    apply UInt16.toNat_inj.mp
    simp
  simp only [crcBit, Codec.crcBit, bitEqual, plain, mixed]

theorem crcByte_eq (crc : UInt16) (byte : UInt8) :
    crcByte crc byte = Codec.crcByte crc byte := by
  have bitEqual : crcBit = Codec.crcBit := funext crcBit_eq
  have mixed :
      UInt16.ofNat (crc.toNat ^^^ byte.toNat) =
        crc ^^^ byte.toUInt16 := by
    apply UInt16.toNat_inj.mp
    have joined : (crc ^^^ byte.toUInt16).toNat = crc.toNat ^^^ byte.toNat := by
      simp
    rw [← joined, UInt16.ofNat_toNat]
  rw [crcByte, Codec.crcByte, bitEqual, mixed]

theorem crc16Modbus_eq (data : List UInt8) :
    crc16Modbus data = rs485Crc16 data := by
  have byteEqual : crcByte = Codec.crcByte := by
    funext crc byte
    exact crcByte_eq crc byte
  rw [crc16Modbus, rs485Crc16, byteEqual]

theorem nibbleToHex_eq :
    ∀ value : UInt8, nibbleToHex value = Codec.nibbleToHex value := by
  apply forall_byte
  decide +kernel

theorem hexToNibble_eq :
    ∀ value : UInt8,
      hexToNibble value = (Codec.hexToNibble value).map UInt8.toNat := by
  apply forall_byte
  decide +kernel

theorem join_eq (high low : UInt8) (highSmall : high < 16) :
    UInt8.ofNat ((high.toNat <<< 4) ||| low.toNat) =
      (high <<< 4) ||| low := by
  have highBound : high.toNat < 16 := UInt8.lt_iff_toNat_lt.mp highSmall
  have shiftedBound : high.toNat <<< 4 < 256 := by
    rw [Nat.shiftLeft_eq]
    omega
  have shifted : (high <<< 4).toNat = high.toNat <<< 4 := by
    simp [Nat.mod_eq_of_lt shiftedBound]
  have joined :
      ((high <<< 4) ||| low).toNat = (high.toNat <<< 4) ||| low.toNat := by
    rw [UInt8.toNat_or, shifted]
  rw [← joined, UInt8.ofNat_toNat]

theorem write_eq (raw : List UInt8) :
    hexCode.write raw = Codec.hexCode.write raw := by
  induction raw with
  | nil => rfl
  | cons byte rest induction =>
      simp only [PairCode.write, induction]
      simp only [hexCode, Codec.hexCode, nibbleToHex_eq]

theorem read_eq :
    ∀ wire : List UInt8, hexCode.read wire = Codec.hexCode.read wire
  | [] => rfl
  | [_] => rfl
  | left :: right :: rest => by
      have tail := read_eq rest
      have leftDigit : hexCode.digit left =
          (Codec.hexCode.digit left).map UInt8.toNat :=
        hexToNibble_eq left
      have rightDigit : hexCode.digit right =
          (Codec.hexCode.digit right).map UInt8.toNat :=
        hexToNibble_eq right
      simp only [PairCode.read, leftDigit, rightDigit, tail]
      cases leftRead : Codec.hexCode.digit left with
      | none => rfl
      | some high =>
          cases rightRead : Codec.hexCode.digit right with
          | none => rfl
          | some low =>
              have highSmall : high < 16 :=
                (hexToNibble_sound left high leftRead).1
              have joined :
                  hexCode.join high.toNat low.toNat =
                    Codec.hexCode.join high low :=
                join_eq high low highSmall
              simp only [Option.map_some, joined]

/-! ## The two implementations agree -/

theorem encodeWireFrame_eq
    (frame : Rs485Frame) (maxLen : Nat)
    (room : frameWireMax ≤ maxLen) :
    encodeWireFrame frame maxLen = Codec.encodeWireFrame frame maxLen := by
  rw [Codec.encodeWireFrame_eq frame maxLen room]
  by_cases short : frame.len.toNat ≤ frameMaxPayload
  · have fits :
        ¬ (frameHeaderSize + frame.len.toNat + frameCrcSize) * 2 + 2 >
          maxLen := by
      simp only [frameWireMax, frameRawMax] at room
      omega
    simp only [encodeWireFrame, if_neg (Nat.not_lt.mpr short), if_neg fits,
      if_pos short, crc16Modbus_eq, write_eq]
    rfl
  · simp only [encodeWireFrame, if_neg short, if_pos (Nat.lt_of_not_le short)]

theorem decodeWireFrame_eq
    (wire : List UInt8) (frame : Rs485Frame) :
    decodeWireFrame wire frame =
      (decide ((Codec.decodeWireFrame wire frame).1 = .frame),
        (Codec.decodeWireFrame wire frame).2) := by
  simp only [decodeWireFrame, Codec.decodeWireFrame, read_eq, crc16Modbus_eq]
  split
  · rfl
  · split
    · rfl
    · rename_i inRange
      cases reads : Codec.hexCode.read wire with
      | none => rfl
      | some raw =>
          by_cases lengthMatches :
              frameHeaderSize + (raw.getD 4 0).toNat + frameCrcSize =
                wire.length / 2
          · have short : ¬ (raw.getD 4 0).toNat > frameMaxPayload := by
              simp only [frameRawMax] at inRange
              omega
            simp only [lengthMatches, short, ne_eq, not_true_eq_false,
              or_self, if_false]
            split <;> rfl
          · simp only [lengthMatches, ne_eq, not_false_eq_true, true_or,
              if_true]
            rfl

theorem decodeWireFrame_eq_true_iff
    (wire : List UInt8) (buffer decoded : Rs485Frame) :
    decodeWireFrame wire buffer = (true, decoded) ↔
    Codec.decodeWireFrame wire buffer = (.frame, decoded) := by
  rw [decodeWireFrame_eq]
  constructor
  · intro equal
    simp only [Prod.mk.injEq, decide_eq_true_eq] at equal
    exact Prod.ext equal.1 equal.2
  · intro equal
    simp [equal]

/--
The two implementations of the wire format agree: the same bytes for every
frame and every buffer of at least `RS485_FRAME_WIRE_MAX` bytes, and the same
verdict and the same message for every received text, whatever the two
callers' frames held before.
-/
theorem slave_gateway_agree :
    (∀ (frame : Rs485Frame) (maxLen : Nat),
      frameWireMax ≤ maxLen →
      encodeWireFrame frame maxLen = Codec.encodeWireFrame frame maxLen) ∧
      ∀ (wire : List UInt8) (slaveBuffer gatewayBuffer : Rs485Frame),
        ((decodeWireFrame wire slaveBuffer).1 = true ↔
            (Codec.decodeWireFrame wire gatewayBuffer).1 = .frame) ∧
          ((decodeWireFrame wire slaveBuffer).1 = true →
          (decodeWireFrame wire slaveBuffer).2.SameMessage
            (Codec.decodeWireFrame wire gatewayBuffer).2) := by
  refine ⟨encodeWireFrame_eq, ?_⟩
  intro wire slaveBuffer gatewayBuffer
  have forward :
      (decodeWireFrame wire slaveBuffer).1 = true →
      (Codec.decodeWireFrame wire gatewayBuffer).1 = .frame ∧
      (decodeWireFrame wire slaveBuffer).2.SameMessage
        (Codec.decodeWireFrame wire gatewayBuffer).2 := by
    intro accepted
    have gatewayAccepted :=
      (decodeWireFrame_eq_true_iff wire slaveBuffer _).mp
        (Prod.ext accepted rfl)
    rcases decodeWireFrame_buffer gatewayAccepted gatewayBuffer with
      ⟨decoded, equal, same⟩
    rw [equal]
    exact ⟨rfl, same⟩
  refine ⟨⟨fun accepted => (forward accepted).1, ?_⟩,
    fun accepted => (forward accepted).2⟩
  intro accepted
  rcases decodeWireFrame_buffer (Prod.ext accepted rfl) slaveBuffer with
    ⟨decoded, equal, _⟩
  rw [(decodeWireFrame_eq_true_iff wire slaveBuffer decoded).mpr equal]

end Endap.Rs485.SlaveCodec
