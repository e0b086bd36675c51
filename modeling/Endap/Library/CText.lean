import Mathlib.Data.List.OfFn
import Mathlib.Data.List.TakeWhile

/-!
# Texts in character arrays

A text of C lies in an array of characters and ends at the first zero.  What
stands behind the zero is not part of the text.

`strncpy` copies at most a given number of characters and fills up with
zeros to that number; it writes no terminator of its own.  A copy to all but
the last character of an array that ends in zero is the text itself, cut to
that length.
-/

namespace Endap.Library.CText

variable {size : Nat}

/-- The characters before the first zero. -/
def text (chars : Fin size → UInt8) : List UInt8 :=
  (List.ofFn chars).takeWhile fun character => character ≠ 0

/-- The text at the start of some memory. -/
def upToZero (memory : List UInt8) : List UInt8 :=
  memory.takeWhile fun character => character ≠ 0

/-- The array holds a terminator. -/
def Terminated (chars : Fin size → UInt8) : Prop := ∃ index, chars index = 0

instance (chars : Fin size → UInt8) : Decidable (Terminated chars) :=
  inferInstanceAs (Decidable (∃ _, _))

/-- `strncpy`, with the text of the source. -/
def strncpy (target : Fin size → UInt8) (source : List UInt8)
    (count : Nat) : Fin size → UInt8 :=
  fun index =>
    if index.val < count then source[index.val]?.getD 0 else target index

/-- The characters of a string literal. -/
def bytes (value : String) : List UInt8 :=
  value.toList.map fun character => UInt8.ofNat character.toNat

theorem bytes_length (value : String) :
    (bytes value).length = value.toList.length :=
  List.length_map _

/-- The array that a string literal initialises. -/
def literal (size : Nat) (value : String) : Fin size → UInt8 :=
  strncpy (fun _ => 0) (bytes value) size

theorem upToZero_front (memory : List UInt8) : upToZero memory <+: memory :=
  List.takeWhile_prefix _

theorem zero_notMem_upToZero (memory : List UInt8) : 0 ∉ upToZero memory := by
  intro member
  have passes := List.mem_takeWhile_imp member
  simp at passes

/-- Memory without a zero is all text. -/
theorem upToZero_of_notMem
    {memory : List UInt8} (noZero : 0 ∉ memory) :
    upToZero memory = memory := by
  rw [upToZero, List.takeWhile_eq_self_iff]
  intro character member
  exact decide_eq_true (ne_of_mem_of_not_mem member noZero)

/-- A beginning without a zero is part of the text. -/
theorem upToZero_append
    {front : List UInt8} (noZero : 0 ∉ front) (rest : List UInt8) :
    upToZero (front ++ rest) = front ++ upToZero rest :=
  List.takeWhile_append_of_pos fun _ member =>
    decide_eq_true (ne_of_mem_of_not_mem member noZero)

/-- What stands behind a zero does not matter. -/
theorem upToZero_append_zero (front rest : List UInt8) :
    upToZero (front ++ 0 :: rest) = upToZero front := by
  induction front with
  | nil => rfl
  | cons first more induction =>
      rw [upToZero] at induction ⊢
      rw [upToZero, List.cons_append, List.takeWhile_cons,
        List.takeWhile_cons, induction]
      rfl

/-- A text has no zero. -/
theorem ne_zero_of_mem_text
    {chars : Fin size → UInt8} {character : UInt8}
    (member : character ∈ text chars) : character ≠ 0 := by
  have passes := List.mem_takeWhile_imp member
  exact of_decide_eq_true passes

theorem text_length_le (chars : Fin size → UInt8) :
    (text chars).length ≤ size := by
  calc
    (text chars).length ≤ (List.ofFn chars).length :=
      (List.takeWhile_sublist _).length_le
    _ = size := List.length_ofFn

/-- A terminator leaves no room for a text of full length. -/
theorem text_length_lt
    {chars : Fin size → UInt8} (terminated : Terminated chars) :
    (text chars).length < size := by
  refine lt_of_le_of_ne (text_length_le chars) ?_
  intro full
  rcases terminated with ⟨index, isZero⟩
  have whole : text chars = List.ofFn chars :=
    (List.takeWhile_sublist _).eq_of_length (full.trans List.length_ofFn.symm)
  have member : chars index ∈ text chars := by
    rw [whole]
    exact List.mem_ofFn.mpr ⟨index, rfl⟩
  exact ne_zero_of_mem_text member isZero

/-- The text of an array that holds a list without zeros before a zero. -/
theorem text_eq
    {chars : Fin size → UInt8} {source : List UInt8}
    (nonzero : ∀ character ∈ source, character ≠ 0)
    (fits : source.length < size)
    (holds :
      ∀ index : Fin size, index.val ≤ source.length →
      chars index = source[index.val]?.getD 0) :
    text chars = source := by
  have inside : source.length < (List.ofFn chars).length := by
    rwa [List.length_ofFn]
  have first : (List.ofFn chars).take source.length = source := by
    apply List.ext_getElem
    · rw [List.length_take, Nat.min_eq_left inside.le]
    · intro index _ used
      have held := holds ⟨index, used.trans fits⟩ used.le
      rw [List.getElem_take, List.getElem_ofFn, held]
      simp [used]
  have next : (List.ofFn chars)[source.length] = 0 := by
    rw [List.getElem_ofFn, holds ⟨source.length, fits⟩ le_rfl]
    simp
  have whole := List.take_append_drop source.length (List.ofFn chars)
  rw [first, List.drop_eq_getElem_cons inside, next] at whole
  rw [text, ← whole,
    List.takeWhile_append_of_pos fun character member =>
      decide_eq_true (nonzero character member)]
  simp

/-- What a copy holds as a text, when the array goes on with a zero. -/
theorem text_strncpy
    {target : Fin size → UInt8} {source : List UInt8} {count : Nat}
    (nonzero : ∀ character ∈ source, character ≠ 0) (room : count < size)
    (ends : target ⟨count, room⟩ = 0) :
    text (strncpy target source count) = source.take count := by
  have short : (source.take count).length ≤ count :=
    List.length_take_le count source
  apply text_eq
  · intro character member
    exact nonzero character (List.mem_of_mem_take member)
  · exact lt_of_le_of_lt short room
  · intro index used
    rw [strncpy]
    by_cases copied : index.val < count
    · rw [if_pos copied, List.getElem?_take_of_lt copied]
    · have isCount : index.val = count := by omega
      have isEnd : index = ⟨count, room⟩ := Fin.ext isCount
      rw [if_neg copied, isEnd, ends, List.getElem?_take_eq_none le_rfl]
      rfl

/-- A copy of a terminated text to all but the last character of an array of
the same size is the text. -/
theorem text_strncpy_text
    {target source : Fin (size + 1) → UInt8}
    (terminated : Terminated source) (ends : target (Fin.last size) = 0) :
    text (strncpy target (text source) size) = text source := by
  have short : (text source).length ≤ size :=
    Nat.le_of_lt_succ (text_length_lt terminated)
  rw [text_strncpy (fun _ => ne_zero_of_mem_text) (Nat.lt_succ_self size)
    ends, List.take_of_length_le short]

end Endap.Library.CText
