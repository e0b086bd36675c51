import Endap.Library.PairCode
import Mathlib.Data.UInt

/-!
# The RS485 wire format of the gateway

A frame travels as text: `<`, the raw bytes of the frame in hexadecimal, `>`.
The raw bytes are a header of five bytes (node, message id in big-endian
order, type, payload length), the payload and a CRC-16 in big-endian order.

Buffers are lists that hold exactly the bytes written, so a returned length
is the length of the list; `encodeRawFrame` and `encodeWireFrame` return
`none` where the source returns 0.
-/

namespace Endap.Rs485.Codec

open Endap.Library

/-! ## Constants and the frame -/

/-- `RS485_FRAME_HEADER_SIZE`. -/
def frameHeaderSize : Nat := 5

/-- `RS485_FRAME_CRC_SIZE`. -/
def frameCrcSize : Nat := 2

/-- `RS485_FRAME_MAX_PAYLOAD`. -/
def frameMaxPayload : Nat := 64

/-- `RS485_FRAME_RAW_MAX`. -/
def frameRawMax : Nat := frameHeaderSize + frameMaxPayload + frameCrcSize

/-- `RS485_FRAME_WIRE_MAX`. -/
def frameWireMax : Nat := frameRawMax * 2 + 2

/-- The start delimiter `<`. -/
def startByte : UInt8 := 0x3C

/-- The end delimiter `>`. -/
def endByte : UInt8 := 0x3E

/-- `rs485_frame_t`; only the first `len` payload bytes carry data. -/
structure Rs485Frame where
  node : UInt8
  msgId : UInt16
  type : UInt8
  len : UInt8
  payload : Vector UInt8 64
deriving DecidableEq

/-- The all-zero frame. -/
def Rs485Frame.zero : Rs485Frame where
  node := 0
  msgId := 0
  type := 0
  len := 0
  payload := Vector.replicate 64 0

/-- The payload bytes that carry data. -/
def Rs485Frame.data (frame : Rs485Frame) : List UInt8 :=
  frame.payload.toList.take frame.len.toNat

/-- Two frames carry the same message. -/
def Rs485Frame.SameMessage (left right : Rs485Frame) : Prop :=
  left.node = right.node ∧ left.msgId = right.msgId ∧
  left.type = right.type ∧ left.len = right.len ∧ left.data = right.data

/-- `rs485_engine_rx_result_t`. -/
inductive RxResult where
  | none
  | frame
  | crcError
  | formatError
deriving DecidableEq

/-! ## CRC and hexadecimal digits -/

/-- One bit of the CRC register. -/
def crcBit (crc : UInt16) : UInt16 :=
  if crc &&& 1 ≠ 0 then (crc >>> 1) ^^^ 0xA001 else crc >>> 1

/-- One byte of the CRC register. -/
def crcByte (crc : UInt16) (byte : UInt8) : UInt16 :=
  crcBit^[8] (crc ^^^ byte.toUInt16)

/-- `rs485_crc16` over a whole buffer. -/
def rs485Crc16 (data : List UInt8) : UInt16 := data.foldl crcByte 0xFFFF

/-- `nibble_to_hex`: the low nibble as an upper-case digit. -/
def nibbleToHex (value : UInt8) : UInt8 :=
  let nibble := value &&& 0x0F
  if nibble < 10 then 0x30 + nibble else 0x41 + (nibble - 10)

/-- `toupper` in the C locale. -/
def toUpper (value : UInt8) : UInt8 :=
  if 0x61 ≤ value ∧ value ≤ 0x7A then value - 0x20 else value

/-- `hex_to_nibble`; `none` stands for the returned `-1`. -/
def hexToNibble (value : UInt8) : Option UInt8 :=
  if 0x30 ≤ value ∧ value ≤ 0x39 then some (value - 0x30)
  else if 0x41 ≤ toUpper value ∧ toUpper value ≤ 0x46 then
    some (10 + (toUpper value - 0x41))
  else none

/-- The hexadecimal text of a buffer, as the two codec loops use it. -/
def hexCode : PairCode UInt8 UInt8 UInt8 where
  first byte := nibbleToHex (byte >>> 4)
  second byte := nibbleToHex byte
  digit := hexToNibble
  join high low := (high <<< 4) ||| low
  normal := toUpper

/-! ## Encoding -/

/-- The header written by `encode_raw_frame`. -/
def rawHeader (frame : Rs485Frame) : List UInt8 :=
  [frame.node, (frame.msgId >>> 8).toUInt8, (frame.msgId &&& 0xFF).toUInt8,
    frame.type, frame.len]

/-- The two bytes of a checksum, high byte first. -/
def crcBytes (crc : UInt16) : List UInt8 :=
  [(crc >>> 8).toUInt8, (crc &&& 0xFF).toUInt8]

def encodeRawFrame (frame : Rs485Frame) (maxLen : Nat) : Option (List UInt8) :=
  if frame.len.toNat > frameMaxPayload then none
  else if frameHeaderSize + frame.len.toNat + frameCrcSize > maxLen then none
  else
    let body := rawHeader frame ++ frame.data
    some (body ++ crcBytes (rs485Crc16 body))

def encodeWireFrame (frame : Rs485Frame) (maxLen : Nat) : Option (List UInt8) :=
  match encodeRawFrame frame frameRawMax with
  | none => none
  | some raw =>
      if raw.length * 2 + 2 > maxLen then none
      else some (startByte :: (hexCode.write raw ++ [endByte]))

/-! ## Decoding -/

/-- `memcpy` of received bytes over the start of a payload buffer. -/
def overwrite (payload : Vector UInt8 64) (bytes : List UInt8) :
    Vector UInt8 64 :=
  Vector.ofFn fun index => bytes.getD index.val payload[index]

/-- The fields that an accepted raw buffer writes into the caller's frame. -/
def frameOfRaw (raw : List UInt8) (frame : Rs485Frame) : Rs485Frame where
  node := raw.getD 0 0
  msgId := ((raw.getD 1 0).toUInt16 <<< 8) ||| (raw.getD 2 0).toUInt16
  type := raw.getD 3 0
  len := raw.getD 4 0
  payload := overwrite frame.payload ((raw.drop 5).take (raw.getD 4 0).toNat)

/--
`decode_wire_frame`.  The second component is the caller's frame afterwards;
it is written only when a frame is accepted.
-/
def decodeWireFrame (wire : List UInt8) (frame : Rs485Frame) :
    RxResult × Rs485Frame :=
  if wire.length = 0 ∨ wire.length % 2 ≠ 0 then (.formatError, frame)
  else
    let rawLen := wire.length / 2
    if rawLen < frameHeaderSize + frameCrcSize ∨ rawLen > frameRawMax then
      (.formatError, frame)
    else
      match hexCode.read wire with
      | none => (.formatError, frame)
      | some raw =>
          let expectedLen :=
            frameHeaderSize + (raw.getD 4 0).toNat + frameCrcSize
          if expectedLen ≠ rawLen then (.formatError, frame)
          else
            let expectedCrc :=
              ((raw.getD (expectedLen - 2) 0).toUInt16 <<< 8) |||
                (raw.getD (expectedLen - 1) 0).toUInt16
            let actualCrc := rs485Crc16 (raw.take (expectedLen - frameCrcSize))
            if expectedCrc ≠ actualCrc then (.crcError, frame)
            else (.frame, frameOfRaw raw frame)

end Endap.Rs485.Codec
