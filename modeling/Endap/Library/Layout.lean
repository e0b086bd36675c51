import Mathlib.Algebra.Group.Nat.Defs
import Mathlib.Data.List.OfFn

/-!
# Layouts of structures in memory

A layout says how the values of a type lie in memory: how many bytes they
take, which bytes a value becomes, and which value a sequence of bytes is.
Every sequence of bytes is read as some value; what was written is read back,
whatever follows it.

Layouts of structures are put together from those of their fields in order,
with the padding the compiler inserts.  Integers are little-endian.

A stamped record is a body followed by a checksum over its bytes.
-/

namespace Endap.Library

/-- A fact about bytes is checked value by value. -/
theorem forall_byte
    {property : UInt8 → Prop}
    (checked : ∀ value : Fin 256, property (UInt8.ofFin value))
    (byte : UInt8) :
    property byte :=
  checked byte.toFin

/-- How values of a type lie in memory. -/
structure Layout (Value : Type*) where
  size : Nat
  write : Value → List UInt8
  read : List UInt8 → Value
  write_length : ∀ value, (write value).length = size
  read_write : ∀ value rest, read (write value ++ rest) = value

namespace Layout

variable {Value First Second : Type*}

/-! ## Little-endian integers -/

/-- The low bytes of a number, least significant first. -/
def littleEndian : Nat → Nat → List UInt8
  | 0, _ => []
  | count + 1, number =>
      UInt8.ofNat number :: littleEndian count (number / 256)

/-- The number that the first bytes of a sequence stand for; missing bytes
count as zero. -/
def ofLittleEndian : Nat → List UInt8 → Nat
  | 0, _ => 0
  | count + 1, bytes =>
      (bytes.headD 0).toNat + 256 * ofLittleEndian count bytes.tail

theorem littleEndian_length (count number : Nat) :
    (littleEndian count number).length = count := by
  induction count generalizing number with
  | zero => rfl
  | succ count induction => exact congrArg Nat.succ (induction _)

theorem ofLittleEndian_littleEndian
    (count number : Nat) (rest : List UInt8)
    (small : number < 256 ^ count) :
    ofLittleEndian count (littleEndian count number ++ rest) = number := by
  induction count generalizing number with
  | zero =>
      rw [Nat.pow_zero] at small
      exact (Nat.lt_one_iff.mp small).symm
  | succ count induction =>
      have smaller : number / 256 < 256 ^ count := by
        rw [Nat.pow_succ] at small
        exact Nat.div_lt_of_lt_mul (by rwa [Nat.mul_comm])
      have later := induction (number / 256) smaller
      simp only [littleEndian, ofLittleEndian, List.cons_append,
        List.headD_cons, List.tail_cons, later, UInt8.toNat_ofNat']
      exact Nat.mod_add_div number 256

/-- A type of numbers below a power of 256. -/
def integer (count : Nat) (toNat : Value → Nat) (ofNat : Nat → Value)
    (small : ∀ value, toNat value < 256 ^ count)
    (ofNat_toNat : ∀ value, ofNat (toNat value) = value) :
    Layout Value where
  size := count
  write value := littleEndian count (toNat value)
  read bytes := ofNat (ofLittleEndian count bytes)
  write_length value := littleEndian_length count (toNat value)
  read_write value rest := by
    rw [ofLittleEndian_littleEndian count _ rest (small value), ofNat_toNat]

/-- `uint8_t`. -/
def u8 : Layout UInt8 :=
  integer 1 UInt8.toNat UInt8.ofNat UInt8.toNat_lt (fun _ => UInt8.ofNat_toNat)

/-- `uint16_t`. -/
def u16 : Layout UInt16 :=
  integer 2 UInt16.toNat UInt16.ofNat UInt16.toNat_lt
    (fun _ => UInt16.ofNat_toNat)

/-- `uint32_t`. -/
def u32 : Layout UInt32 :=
  integer 4 UInt32.toNat UInt32.ofNat UInt32.toNat_lt
    (fun _ => UInt32.ofNat_toNat)

/-- `int8_t`. -/
def i8 : Layout Int8 :=
  integer 1 (fun value => value.toUInt8.toNat)
    (fun number => (UInt8.ofNat number).toInt8)
    (fun value => value.toUInt8.toNat_lt)
    (fun value => by rw [UInt8.ofNat_toNat, Int8.toInt8_toUInt8])

/-- `int16_t`. -/
def i16 : Layout Int16 :=
  integer 2 (fun value => value.toUInt16.toNat)
    (fun number => (UInt16.ofNat number).toInt16)
    (fun value => value.toUInt16.toNat_lt)
    (fun value => by rw [UInt16.ofNat_toNat, Int16.toInt16_toUInt16])

/-- `int32_t`. -/
def i32 : Layout Int32 :=
  integer 4 (fun value => value.toUInt32.toNat)
    (fun number => (UInt32.ofNat number).toInt32)
    (fun value => value.toUInt32.toNat_lt)
    (fun value => by rw [UInt32.ofNat_toNat, Int32.toInt32_toUInt32])

/-! ## Structures -/

/-- Padding bytes before a field. -/
def padded (count : Nat) (field : Layout Value) : Layout Value where
  size := count + field.size
  write value := List.replicate count 0 ++ field.write value
  read bytes := field.read (bytes.drop count)
  write_length value := by
    rw [List.length_append, List.length_replicate, field.write_length]
  read_write value rest := by
    rw [List.append_assoc, List.drop_left' List.length_replicate,
      field.read_write]

/-- Padding bytes after a field. -/
def trailing (field : Layout Value) (count : Nat) : Layout Value where
  size := field.size + count
  write value := field.write value ++ List.replicate count 0
  read := field.read
  write_length value := by
    rw [List.length_append, List.length_replicate, field.write_length]
  read_write value rest := by
    rw [List.append_assoc, field.read_write]

/-- One field after another. -/
def andThen (first : Layout First) (second : Layout Second) :
    Layout (First × Second) where
  size := first.size + second.size
  write value := first.write value.1 ++ second.write value.2
  read bytes := (first.read bytes, second.read (bytes.drop first.size))
  write_length value := by
    rw [List.length_append, first.write_length, second.write_length]
  read_write value rest := by
    rw [List.append_assoc, first.read_write,
      List.drop_left' (first.write_length value.1), second.read_write]

/-- The same bytes under another type. -/
def retype (layout : Layout First) (fromFirst : First → Second)
    (toFirst : Second → First)
    (inverse : ∀ value, fromFirst (toFirst value) = value) :
    Layout Second where
  size := layout.size
  write value := layout.write (toFirst value)
  read bytes := fromFirst (layout.read bytes)
  write_length value := layout.write_length (toFirst value)
  read_write value rest := by
    rw [layout.read_write, inverse]

/-! ## Arrays -/

theorem flatMap_write_length
    (layout : Layout Value) (values : List Value) :
    (values.flatMap layout.write).length = values.length * layout.size := by
  induction values with
  | nil => simp
  | cons value rest induction =>
      rw [List.flatMap_cons, List.length_append, induction,
        layout.write_length, List.length_cons, Nat.succ_mul, Nat.add_comm]

theorem drop_flatMap_write
    (layout : Layout Value) (values : List Value) (rest : List UInt8)
    {index : Nat} (inside : index < values.length) :
    (values.flatMap layout.write ++ rest).drop (index * layout.size) =
      layout.write values[index] ++
        ((values.drop (index + 1)).flatMap layout.write ++ rest) := by
  induction values generalizing index with
  | nil => cases inside
  | cons value values induction =>
      cases index with
      | zero => simp
      | succ index =>
          rw [List.flatMap_cons, List.append_assoc, Nat.succ_mul,
            Nat.add_comm, ← List.drop_drop,
            List.drop_left' (layout.write_length value)]
          exact induction (Nat.lt_of_succ_lt_succ inside)

/-- An array of a fixed number of elements. -/
def array (count : Nat) (layout : Layout Value) :
    Layout (Fin count → Value) where
  size := count * layout.size
  write values := (List.ofFn values).flatMap layout.write
  read bytes := fun index => layout.read (bytes.drop (index * layout.size))
  write_length values := by
    rw [flatMap_write_length, List.length_ofFn]
  read_write values rest := by
    funext index
    have inside : index.val < (List.ofFn values).length := by
      rw [List.length_ofFn]
      exact index.isLt
    rw [drop_flatMap_write layout _ rest inside, layout.read_write,
      List.getElem_ofFn]

/-- The values that lie one after another at the start of a sequence. -/
def readList (layout : Layout Value) (count : Nat) (bytes : List UInt8) :
    List Value :=
  (List.range count).map fun index =>
    layout.read (bytes.drop (index * layout.size))

/-- Values written one after another are read back, whatever follows. -/
theorem readList_flatMap_write
    (layout : Layout Value) (values : List Value) (rest : List UInt8) :
    layout.readList values.length (values.flatMap layout.write ++ rest) =
      values := by
  apply List.ext_getElem
  · rw [readList, List.length_map, List.length_range]
  · intro index _ inside
    simp only [readList, List.getElem_map, List.getElem_range]
    rw [drop_flatMap_write layout values rest inside, layout.read_write]

/-- The elements in use of an array that a list was copied into. -/
theorem take_ofFn_getD
    (values : List Value) (filler : Value) {count : Nat}
    (fits : values.length ≤ count) :
    (List.ofFn fun index : Fin count =>
        values[index.val]?.getD filler).take values.length =
      values := by
  apply List.ext_getElem?
  intro index
  rw [List.getElem?_take]
  by_cases inside : index < values.length
  · have inArray : index < count := Nat.lt_of_lt_of_le inside fits
    simp [inside, inArray]
  · simp [inside]

/-! ## Stamped records -/

/-- One bit of the reflected CRC-32. -/
def crc32Bit (crc : UInt32) : UInt32 :=
  if crc &&& 1 ≠ 0 then (crc >>> 1) ^^^ 0xEDB88320 else crc >>> 1

/-- The reflected CRC-32 of a sequence of bytes. -/
def crc32 (data : List UInt8) : UInt32 :=
  ~~~ data.foldl
    (fun crc byte =>
      (List.range 8).foldl (fun crc _ => crc32Bit crc) (crc ^^^ byte.toUInt32))
    0xFFFFFFFF

section

variable (checksum : List UInt8 → UInt32) (body : Layout Value)

/-- The size of a stamped record. -/
def stampedSize : Nat := body.size + u32.size

/-- A body followed by the checksum over its bytes. -/
def stamp (value : Value) : List UInt8 :=
  (body.andThen u32).write (value, checksum (body.write value))

/-- The checksum at the end of a record is the one over its body. -/
def Intact (bytes : List UInt8) : Prop :=
  checksum (bytes.take body.size) = ((body.andThen u32).read bytes).2

instance (bytes : List UInt8) : Decidable (Intact checksum body bytes) :=
  inferInstanceAs (Decidable (_ = _))

theorem stamp_length (value : Value) :
    (stamp checksum body value).length = body.stampedSize :=
  (body.andThen u32).write_length _

/-- The body of a stamped record is read back. -/
theorem read_stamp (value : Value) :
    body.read (stamp checksum body value) = value :=
  body.read_write value _

theorem intact_stamp (value : Value) :
    Intact checksum body (stamp checksum body value) := by
  have whole :=
    (body.andThen u32).read_write (value, checksum (body.write value)) []
  rw [List.append_nil] at whole
  rw [Intact, stamp, whole]
  exact congrArg checksum (List.take_left' (body.write_length value))

end

end Layout

end Endap.Library
