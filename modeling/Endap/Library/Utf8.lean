import Mathlib.Data.List.Basic

/-!
# Bytes that are text

A list of bytes is text if it is the UTF-8 encoding of some characters.  The
encoding of a character is either one byte below 128, the character itself, or
consists of bytes from 128 on.  Hence a text can be cut at any byte below 128,
and what such bytes are replaced with has no influence on the rest.
-/

namespace Endap.Library.Utf8

/-- The bytes are the encoding of some characters. -/
def IsText (bytes : List UInt8) : Prop :=
  ByteArray.IsValidUTF8 bytes.toByteArray

instance (bytes : List UInt8) : Decidable (IsText bytes) :=
  inferInstanceAs (Decidable (ByteArray.IsValidUTF8 _))

theorem isText_iff {bytes : List UInt8} :
    IsText bytes ↔
    ∃ characters : List Char,
      bytes = characters.flatMap String.utf8EncodeChar := by
  constructor
  · rintro ⟨characters, same⟩
    exact ⟨characters, List.toByteArray_inj.mp same⟩
  · rintro ⟨characters, same⟩
    exact ⟨characters, congrArg List.toByteArray same⟩

@[simp]
theorem isText_nil : IsText [] := isText_iff.mpr ⟨[], rfl⟩

theorem IsText.append
    {first second : List UInt8} (left : IsText first)
    (right : IsText second) : IsText (first ++ second) := by
  rcases isText_iff.mp left with ⟨before, isBefore⟩
  rcases isText_iff.mp right with ⟨behind, isBehind⟩
  refine isText_iff.mpr ⟨before ++ behind, ?_⟩
  rw [List.flatMap_append, ← isBefore, ← isBehind]

theorem large_of_sum
    {value base : Nat} (large : 128 ≤ base) (small : value + base < 256) :
    128 ≤ UInt8.ofNat (value + base) := by
  rw [UInt8.le_iff_toNat_le, UInt8.toNat_ofNat', Nat.mod_eq_of_lt small]
  exact Nat.le_trans large (Nat.le_add_left _ _)

/-- The encoding of a character is one byte below 128 or has only larger
bytes. -/
theorem utf8EncodeChar_cases (character : Char) :
    (∃ byte : UInt8,
        byte < 128 ∧ String.utf8EncodeChar character = [byte]) ∨
      ∀ byte ∈ String.utf8EncodeChar character, 128 ≤ byte := by
  rw [String.utf8EncodeChar]
  split
  · next ascii =>
      refine Or.inl ⟨_, ?_, rfl⟩
      rw [UInt8.lt_iff_toNat_lt, UInt8.toNat_ofNat', Nat.mod_eq_of_lt]
      · exact Nat.lt_succ_of_le ascii
      · omega
  · refine Or.inr ?_
    split
    · simp only [List.mem_cons, List.not_mem_nil, or_false]
      rintro byte (rfl | rfl) <;> exact large_of_sum (by omega) (by omega)
    · split
      · simp only [List.mem_cons, List.not_mem_nil, or_false]
        rintro byte (rfl | rfl | rfl) <;>
          exact large_of_sum (by omega) (by omega)
      · simp only [List.mem_cons, List.not_mem_nil, or_false]
        rintro byte (rfl | rfl | rfl | rfl) <;>
          exact large_of_sum (by omega) (by omega)

variable {byte : UInt8}

theorem isText_ascii (ascii : byte < 128) : IsText [byte] := by
  have small : byte.toNat < 128 := UInt8.lt_iff_toNat_lt.mp ascii
  have valid : byte.toNat.isValidChar := Or.inl (by omega)
  refine isText_iff.mpr ⟨[Char.ofNat byte.toNat], ?_⟩
  have value : (Char.ofNat byte.toNat).val.toNat = byte.toNat := by
    rw [Char.ofNat, dif_pos valid]
    rfl
  have below : byte.toNat ≤ 127 := by omega
  simp [String.utf8EncodeChar, value, below]

theorem isText_flatMap (characters : List Char) :
    IsText (characters.flatMap String.utf8EncodeChar) :=
  isText_iff.mpr ⟨characters, rfl⟩

theorem isText_of_flatMap_eq
    (ascii : byte < 128) {characters : List Char}
    {before behind : List UInt8}
    (same :
      characters.flatMap String.utf8EncodeChar = before ++ byte :: behind) :
    IsText before ∧ IsText behind := by
  induction characters generalizing before with
  | nil => simp at same
  | cons character rest induction =>
      have code : IsText (String.utf8EncodeChar character) := by
        simpa using isText_flatMap [character]
      rw [List.flatMap_cons] at same
      rcases List.append_eq_append_iff.mp same with
        ⟨left, isBefore, isRest⟩ | ⟨left, isCode, isBehind⟩
      · rcases induction isRest with ⟨isLeft, isBehind⟩
        rw [isBefore]
        exact ⟨code.append isLeft, isBehind⟩
      · cases left with
        | nil =>
            rw [List.append_nil] at isCode
            rw [← isCode]
            exact ⟨code, (@induction [] isBehind.symm).2⟩
        | cons first left =>
            -- The byte is the whole encoding of this character.
            cases isBehind
            rcases utf8EncodeChar_cases character with
              ⟨other, _, isOther⟩ | large
            · rw [isOther] at isCode
              rcases List.singleton_eq_append_iff.mp isCode with
                ⟨rfl, isEnd⟩ | ⟨_, isEnd⟩
              · cases isEnd
                exact ⟨isText_nil, isText_flatMap rest⟩
              · cases isEnd
            · have inside : byte ∈ String.utf8EncodeChar character := by
                rw [isCode]
                exact List.mem_append_right _ (List.mem_cons_self ..)
              exact absurd ascii (UInt8.not_lt.mpr (large byte inside))

/-- A text can be cut at a byte below 128. -/
theorem isText_append_cons
    (ascii : byte < 128) (before behind : List UInt8) :
    IsText (before ++ byte :: behind) ↔ IsText before ∧ IsText behind := by
  constructor
  · intro whole
    rcases isText_iff.mp whole with ⟨characters, same⟩
    exact isText_of_flatMap_eq ascii same.symm
  · rintro ⟨left, right⟩
    exact left.append ((isText_ascii ascii).append right)

theorem isText_append_ascii
    {middle : List UInt8} (nonempty : middle ≠ [])
    (ascii : ∀ byte ∈ middle, byte < 128) (before behind : List UInt8) :
    IsText (before ++ (middle ++ behind)) ↔
    IsText before ∧ IsText behind := by
  induction middle generalizing before with
  | nil => exact absurd rfl nonempty
  | cons byte rest induction =>
      have first := ascii byte (List.mem_cons_self ..)
      rw [List.cons_append, isText_append_cons first]
      by_cases last : rest = []
      · rw [last, List.nil_append]
      · have others := induction last
          (fun other member => ascii other (List.mem_cons_of_mem _ member)) []
        rw [List.nil_append] at others
        simp [others]

/-- Bytes below 128 are text. -/
theorem isText_of_ascii
    {bytes : List UInt8} (ascii : ∀ byte ∈ bytes, byte < 128) :
    IsText bytes := by
  by_cases empty : bytes = []
  · rw [empty]
    exact isText_nil
  · have cut := isText_append_ascii empty ascii [] []
    rw [List.append_nil, List.nil_append] at cut
    exact cut.mpr ⟨isText_nil, isText_nil⟩

/-- Whether bytes are text does not depend on what each byte below 128 is
replaced with, as long as it is bytes below 128. -/
theorem isText_flatMap_iff
    {write : UInt8 → List UInt8}
    (ascii : ∀ byte < 128, write byte ≠ [] ∧ ∀ other ∈ write byte, other < 128)
    (large : ∀ byte, 128 ≤ byte → write byte = [byte])
    (bytes before : List UInt8) :
    IsText (before ++ bytes.flatMap write) ↔ IsText (before ++ bytes) := by
  induction bytes generalizing before with
  | nil => rfl
  | cons byte rest induction =>
      rw [List.flatMap_cons]
      by_cases small : byte < 128
      · have others := induction []
        rw [List.nil_append, List.nil_append] at others
        rw [isText_append_ascii (ascii byte small).1 (ascii byte small).2,
          isText_append_cons small, others]
      · have isLarge := UInt8.not_lt.mp small
        rw [large byte isLarge]
        have shifted := induction (before ++ [byte])
        rw [List.append_assoc, List.append_assoc] at shifted
        exact shifted

end Endap.Library.Utf8
