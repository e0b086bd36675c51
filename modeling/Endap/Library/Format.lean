import Endap.Library.Layout

/-!
# Formats of variable length

A format says which bytes a value becomes and how a value is read from the
beginning of a sequence of bytes; reading may fail, and otherwise leaves what
follows the value.  What was written is read back, whatever follows it.

Formats are put together: a layout of fixed size, one format after another, a
given number of values, and a part that says how the rest is to be read.
-/

namespace Endap.Library

/-- How values of a type are written and read. -/
structure Format (Value : Type*) where
  write : Value → List UInt8
  read : List UInt8 → Option (Value × List UInt8)
  read_write : ∀ value rest, read (write value ++ rest) = some (value, rest)

namespace Layout

variable {Value : Type*}

/-- The same values with their bytes in the opposite order, as integers are
sent over a network. -/
def reversed (layout : Layout Value) : Layout Value where
  size := layout.size
  write value := (layout.write value).reverse
  read bytes := layout.read (bytes.take layout.size).reverse
  write_length value := by rw [List.length_reverse, layout.write_length]
  read_write value rest := by
    have length : layout.size = (layout.write value).reverse.length := by
      rw [List.length_reverse, layout.write_length]
    rw [length, List.take_left, List.reverse_reverse]
    have alone := layout.read_write value []
    rwa [List.append_nil] at alone

/-- A layout as a format: the bytes must be there. -/
def format (layout : Layout Value) : Format Value where
  write := layout.write
  read bytes :=
    if bytes.length < layout.size then none
    else some (layout.read bytes, bytes.drop layout.size)
  read_write value rest := by
    have enough : ¬ (layout.write value ++ rest).length < layout.size := by
      rw [List.length_append, layout.write_length]
      exact Nat.not_lt.mpr (Nat.le_add_right _ _)
    rw [if_neg enough, layout.read_write,
      List.drop_left' (layout.write_length value)]

end Layout

namespace Format

variable {Value First Second : Type*}

/-- One format after another. -/
def andThen (first : Format First) (second : Format Second) :
    Format (First × Second) where
  write value := first.write value.1 ++ second.write value.2
  read bytes :=
    (first.read bytes).bind fun value =>
      (second.read value.2).map fun other => ((value.1, other.1), other.2)
  read_write value rest := by
    rw [List.append_assoc, first.read_write, Option.bind_some,
      second.read_write, Option.map_some]

/-- What comes first says how the rest is to be read. -/
def dependent (first : Format First) (key : Value → First)
    (rest : (header : First) → Format { value : Value // key value = header }) :
    Format Value where
  write value :=
    first.write (key value) ++ (rest (key value)).write ⟨value, rfl⟩
  read bytes :=
    (first.read bytes).bind fun header =>
      ((rest header.1).read header.2).map fun value => (value.1.1, value.2)
  read_write value bytes := by
    rw [List.append_assoc, first.read_write, Option.bind_some,
      (rest (key value)).read_write, Option.map_some]

/-- The same bytes under another type. -/
def retype (format : Format First) (fromFirst : First → Second)
    (toFirst : Second → First)
    (inverse : ∀ value, fromFirst (toFirst value) = value) :
    Format Second where
  write value := format.write (toFirst value)
  read bytes :=
    (format.read bytes).map fun value => (fromFirst value.1, value.2)
  read_write value rest := by
    rw [format.read_write, Option.map_some, inverse]

/-- A given number of bytes. -/
def bytes (count : Nat) :
    Format { bytes : List UInt8 // bytes.length = count } where
  write := Subtype.val
  read bytes :=
    if enough : count ≤ bytes.length then
      some (⟨bytes.take count, List.length_take_of_le enough⟩, bytes.drop count)
    else none
  read_write value rest := by
    have enough : count ≤ (value.1 ++ rest).length := by
      rw [List.length_append, value.2]
      exact Nat.le_add_right _ _
    simp only [dif_pos enough, List.take_left' value.2, List.drop_left' value.2]

/-! ## Lists -/

/-- Read a number of values. -/
def readList (format : Format Value) :
    Nat → List UInt8 → Option (List Value × List UInt8)
  | 0, bytes => some ([], bytes)
  | count + 1, bytes =>
      (format.read bytes).bind fun value =>
        (readList format count value.2).map fun values =>
          (value.1 :: values.1, values.2)

/-- A list is read back with its length, whatever follows it. -/
theorem readList_flatMap_write
    (format : Format Value) (values : List Value) (rest : List UInt8) :
    format.readList values.length (values.flatMap format.write ++ rest) =
      some (values, rest) := by
  induction values with
  | nil => rfl
  | cons value values induction =>
      rw [List.flatMap_cons, List.append_assoc, List.length_cons, readList,
        format.read_write, Option.bind_some, induction, Option.map_some]

theorem readList_length
    (format : Format Value) {count : Nat} {bytes rest : List UInt8}
    {values : List Value}
    (read : format.readList count bytes = some (values, rest)) :
    values.length = count := by
  induction count generalizing bytes values with
  | zero =>
      cases read
      rfl
  | succ count induction =>
      rw [readList, Option.bind_eq_some_iff] at read
      rcases read with ⟨value, -, more⟩
      rw [Option.map_eq_some_iff] at more
      rcases more with ⟨later, isLater, done⟩
      cases done
      exact congrArg Nat.succ (induction isLater)

/-- A given number of values of a format. -/
def list (format : Format Value) (count : Nat) :
    Format { values : List Value // values.length = count } where
  write values := values.1.flatMap format.write
  read bytes :=
    match isRead : format.readList count bytes with
    | some (values, rest) =>
        some (⟨values, format.readList_length isRead⟩, rest)
    | none => none
  read_write values rest := by
    rcases values with ⟨values, rfl⟩
    have whole := format.readList_flatMap_write values rest
    split
    · next read =>
        rw [whole] at read
        cases read
        rfl
    · next failed =>
        rw [whole] at failed
        cases failed

end Format

end Endap.Library
