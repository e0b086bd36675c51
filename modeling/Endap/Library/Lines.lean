import Endap.Library.ArrayList
import Mathlib.Algebra.Group.Nat.Defs

/-!
# Lines in a buffer

Lines are printed one at a time and collected in a buffer of fixed size.  A
line that does not fit any more has the buffer given away first.  If each line
fits into the buffer by itself, what is given away are whole lines, in their
order and without loss, and nothing is written behind the buffer.

The module also has the texts that are printed: decimal numbers and their
lengths, and what `snprintf` leaves in an array.
-/

namespace Endap.Library.Lines

/-! ## Texts -/

/-- A number in decimal digits. -/
def decimal (number : Nat) : List UInt8 :=
  (Nat.toDigits 10 number).map fun digit => UInt8.ofNat digit.toNat

variable {number : Nat}

theorem decimal_length_le
    {digits : Nat} (positive : 0 < digits)
    (small : number < 10 ^ digits) : (decimal number).length ≤ digits := by
  rw [decimal, List.length_map, Nat.length_toDigits_le_iff (by decide) positive]
  exact small

/-- The digits are no newlines. -/
theorem newline_notMem_decimal (number : Nat) : 10 ∉ decimal number := by
  intro member
  rcases List.mem_map.mp member with ⟨digit, inside, isNewline⟩
  have isDigit : 48 ≤ digit.toNat ∧ digit.toNat ≤ 57 :=
    Char.isDigit_iff_toNat.mp
      (Nat.isDigit_of_mem_toDigits (by decide) (by decide) inside)
  have small : digit.toNat < 256 := by omega
  have value := congrArg UInt8.toNat isNewline
  rw [UInt8.toNat_ofNat', Nat.mod_eq_of_lt small] at value
  have : digit.toNat = 10 := value
  omega

/-- How many decimal digits a number has. -/
def digitCount (number : Nat) : Nat := (Nat.toDigits 10 number).length

theorem decimal_length (number : Nat) :
    (decimal number).length = digitCount number :=
  List.length_map _

/-- The digit of a number below ten. -/
theorem decimal_of_lt (small : number < 10) :
    decimal number = [UInt8.ofNat (48 + number)] := by
  rw [decimal, Nat.toDigits_of_lt_base small, List.map_singleton,
    Nat.toNat_digitChar_of_lt_ten small]

/-- A larger number has its last digit behind the others. -/
theorem decimal_of_le (large : 10 ≤ number) :
    decimal number =
      decimal (number / 10) ++ [UInt8.ofNat (48 + number % 10)] := by
  rw [decimal, decimal, Nat.toDigits_of_base_le (by decide) large,
    List.map_append, List.map_singleton,
    Nat.toNat_digitChar_of_lt_ten (Nat.mod_lt _ (by decide))]

theorem digitCount_pos (number : Nat) : 0 < digitCount number :=
  Nat.length_toDigits_pos

/-- An integer in decimal digits, with a sign if it is negative. -/
def signed (number : Int) : List UInt8 :=
  if number < 0 then 45 :: decimal number.natAbs
  else decimal number.natAbs

/-- How many characters an integer has with its sign. -/
def signedLength (number : Int) : Nat :=
  (if number < 0 then 1 else 0) + digitCount number.natAbs

theorem signed_length (number : Int) :
    (signed number).length = signedLength number := by
  rw [signed, signedLength, ← decimal_length]
  split
  · rw [List.length_cons, Nat.add_comm]
  · rw [Nat.zero_add]

theorem signedLength_pos (number : Int) : 0 < signedLength number :=
  Nat.add_pos_right _ (digitCount_pos _)

section

variable {Byte : Type*}

/-! ## Arrays -/

/-- What `snprintf` leaves in an array of some size: as much of the text as
fits before the terminator. -/
def printed (size : Nat) (terminator : Byte) (text : List Byte)
    (array : Nat → Byte) : Nat → Byte := fun index =>
  if index < min text.length (size - 1) then text.getD index terminator
  else if index = min text.length (size - 1) then terminator
  else array index

/-- A text that fits is printed in full. -/
theorem printed_listed
    {size : Nat} {text : List Byte} (fits : text.length < size)
    (terminator : Byte) (array : Nat → Byte) :
    ArrayList.listed (printed size terminator text array) text.length =
      text := by
  have whole : min text.length (size - 1) = text.length := by omega
  apply List.ext_getElem?
  intro index
  rw [ArrayList.listed_getElem?]
  split
  · next inside =>
      rw [printed, whole, if_pos inside, List.getD_eq_getElem?_getD,
        List.getElem?_eq_getElem inside]
      rfl
  · next outside =>
      rw [List.getElem?_eq_none (Nat.le_of_not_lt outside)]

/-- A text that is cut leaves its terminator in the last cell, so nothing is
written behind the array. -/
theorem printed_outside
    {size index : Nat} (positive : 0 < size) (outside : size ≤ index)
    (terminator : Byte) (text : List Byte) (array : Nat → Byte) :
    printed size terminator text array index = array index := by
  rw [printed, if_neg (by omega), if_neg (by omega)]

/-! ## The buffer -/

/-- A buffer: its cells, how many of them are in use, what was given away, and
where copies were made to and how long they were. -/
structure Buffer (Byte : Type*) where
  cells : Nat → Byte
  used : Nat
  given : List (List Byte)
  writes : List (Nat × Nat)

/-- A buffer in which nothing is in use. -/
def Buffer.fresh (cells : Nat → Byte) : Buffer Byte where
  cells := cells
  used := 0
  given := []
  writes := []

/-- What is in use is given away. -/
def Buffer.flush (buffer : Buffer Byte) : Buffer Byte :=
  { buffer with
    used := 0
    given := buffer.given ++ [ArrayList.listed buffer.cells buffer.used] }

/-- A copy into the buffer. -/
def Buffer.copy (buffer : Buffer Byte) (source : Nat → Byte)
    (count : Nat) : Buffer Byte :=
  { buffer with
    cells := ArrayList.copyCells buffer.cells buffer.used source count
    used := buffer.used + count
    writes := buffer.writes ++ [(buffer.used, count)] }

/-- A line is collected; if it does not leave a cell free, what is in use is
given away first. -/
def Buffer.collect (limit : Nat) (buffer : Buffer Byte)
    (source : Nat → Byte) (count : Nat) : Buffer Byte :=
  if buffer.used + count ≥ limit then buffer.flush.copy source count
  else buffer.copy source count

/-- What is left is given away at the end. -/
def Buffer.finish (buffer : Buffer Byte) : Buffer Byte :=
  if buffer.used > 0 then buffer.flush else buffer

/-- The lines collected so far are those given away, in groups, and those in
use; nothing was written behind the limit. -/
structure Buffer.Holds (limit : Nat) (buffer : Buffer Byte)
    (lines : List (List Byte)) : Prop where
  groups :
    ∃ (groups : List (List (List Byte))) (rest : List (List Byte)),
      lines = groups.flatten ++ rest ∧
      buffer.given = groups.map List.flatten ∧
      ArrayList.listed buffer.cells buffer.used = rest.flatten ∧
      (buffer.used = 0 → rest = [])
  used : buffer.used < limit
  given : ∀ chunk ∈ buffer.given, chunk.length < limit
  writes : ∀ write ∈ buffer.writes, write.1 + write.2 < limit

theorem Buffer.holds_fresh
    {limit : Nat} (positive : 0 < limit) (cells : Nat → Byte) :
    (Buffer.fresh cells).Holds limit [] where
  groups := ⟨[], [], rfl, rfl, rfl, fun _ => rfl⟩
  used := positive
  given := fun _ member => absurd member List.not_mem_nil
  writes := fun _ member => absurd member List.not_mem_nil

section

variable {limit : Nat} {buffer : Buffer Byte} {lines : List (List Byte)}

theorem Buffer.Holds.flush (holds : buffer.Holds limit lines) :
    buffer.flush.Holds limit lines := by
  rcases holds.groups with ⟨groups, rest, isLines, isGiven, isRest, -⟩
  refine
    ⟨⟨groups ++ [rest], [], ?_, ?_, rfl, fun _ => rfl⟩, ?_, ?_, holds.writes⟩
  · rw [isLines, List.flatten_append, List.flatten_singleton, List.append_nil]
  · rw [Buffer.flush, isGiven, isRest, List.map_append]
    rfl
  · exact Nat.zero_lt_of_lt holds.used
  · intro chunk member
    rcases List.mem_append.mp member with before | last
    · exact holds.given chunk before
    · rw [List.mem_singleton.mp last, ArrayList.listed_length]
      exact holds.used

theorem Buffer.Holds.copy
    (holds : buffer.Holds limit lines) (source : Nat → Byte) {count : Nat}
    (nonempty : 0 < count) (room : buffer.used + count < limit) :
    (buffer.copy source count).Holds limit
      (lines ++ [ArrayList.listed source count]) := by
  rcases holds.groups with ⟨groups, rest, isLines, isGiven, isRest, -⟩
  refine
    ⟨⟨groups, rest ++ [ArrayList.listed source count], ?_, isGiven, ?_, ?_⟩,
      room, holds.given, ?_⟩
  · rw [isLines, List.append_assoc]
  · rw [List.flatten_append, List.flatten_singleton, ← isRest]
    exact ArrayList.listed_copyCells _ _ _ _
  · intro unused
    have used : buffer.used + count = 0 := unused
    exact absurd used (Nat.ne_of_gt (Nat.add_pos_right _ nonempty))
  · intro write member
    rcases List.mem_append.mp member with before | last
    · exact holds.writes write before
    · rw [List.mem_singleton.mp last]
      exact room

/-- A line that fits into the buffer by itself is collected. -/
theorem Buffer.Holds.collect
    (holds : buffer.Holds limit lines) (source : Nat → Byte) {count : Nat}
    (nonempty : 0 < count) (fits : count < limit) :
    (buffer.collect limit source count).Holds limit
      (lines ++ [ArrayList.listed source count]) := by
  rw [Buffer.collect]
  split
  · refine holds.flush.copy source nonempty ?_
    change 0 + count < limit
    rw [Nat.zero_add]
    exact fits
  · next room => exact holds.copy source nonempty (Nat.lt_of_not_le room)

theorem Buffer.Holds.all_given
    (holds : buffer.Holds limit lines) (unused : buffer.used = 0) :
    ∃ groups : List (List (List Byte)),
      groups.flatten = lines ∧ buffer.given = groups.map List.flatten := by
  rcases holds.groups with ⟨groups, rest, isLines, isGiven, -, isEmpty⟩
  refine ⟨groups, ?_, isGiven⟩
  rw [isLines, isEmpty unused, List.append_nil]

/-- In the end all lines were given away, in groups of whole lines. -/
theorem Buffer.Holds.finish (holds : buffer.Holds limit lines) :
    (∃ groups : List (List (List Byte)),
        groups.flatten = lines ∧
        buffer.finish.given = groups.map List.flatten) ∧
      (∀ chunk ∈ buffer.finish.given, chunk.length < limit) ∧
      ∀ write ∈ buffer.finish.writes, write.1 + write.2 < limit := by
  rw [Buffer.finish]
  split
  · exact ⟨holds.flush.all_given rfl, holds.flush.given, holds.flush.writes⟩
  · next unused =>
      exact
        ⟨holds.all_given (Nat.eq_zero_of_not_pos unused), holds.given,
          holds.writes⟩

end

end

end Endap.Library.Lines
