import Mathlib.Data.List.Basic
import Mathlib.Logic.Basic

/-!
# Bit masks

A mask is a machine word whose bits are flags.  Setting or clearing one flag
leaves the others; clearing a flag that is set makes the word smaller, so a
loop that clears the lowest flag until none is left comes to an end.
-/

namespace Endap.Library.BitMask

variable {width : Nat}

/-- `word | (1 << bit)`. -/
def set (word : BitVec width) (bit : Nat) : BitVec width :=
  word ||| BitVec.twoPow width bit

/-- `word & ~(1 << bit)`. -/
def clear (word : BitVec width) (bit : Nat) : BitVec width :=
  word &&& ~~~(BitVec.twoPow width bit)

/-- `__builtin_ffs(word) - 1`: the lowest flag that is set. -/
def lowest (word : BitVec width) : Nat :=
  (List.range width).findIdx word.getLsbD

variable {bit : Nat}

theorem getLsbD_set
    (word : BitVec width) (inside : bit < width) (other : Nat) :
    (set word bit).getLsbD other =
      (word.getLsbD other || decide (other = bit)) := by
  rw [set, BitVec.getLsbD_or, BitVec.getLsbD_twoPow]
  simp [inside, eq_comm]

theorem getLsbD_clear
    (word : BitVec width) (inside : bit < width) (other : Nat) :
    (clear word bit).getLsbD other =
      (word.getLsbD other && decide (other ≠ bit)) := by
  rw [clear, BitVec.getLsbD_and, BitVec.getLsbD_not, BitVec.getLsbD_twoPow]
  by_cases outside : other < width
  · simp [inside, outside, eq_comm]
  · simp [outside, BitVec.getLsbD_of_ge word other (Nat.le_of_not_lt outside)]

theorem clear_lt
    {word : BitVec width} (isSet : word.getLsbD bit = true) :
    (clear word bit).toNat < word.toNat := by
  have inside : bit < width := BitVec.lt_of_getLsbD isSet
  have smaller : (clear word bit).toNat ≤ word.toNat := by
    rw [clear, BitVec.toNat_and]
    exact Nat.and_le_left
  refine Nat.lt_of_le_of_ne smaller ?_
  intro same
  have cleared := getLsbD_clear word inside bit
  rw [BitVec.eq_of_toNat_eq same, isSet] at cleared
  simp at cleared

/-- The lowest flag of a word with a flag is set. -/
theorem getLsbD_lowest {word : BitVec width} (some : word ≠ 0) :
    lowest word < width ∧ word.getLsbD (lowest word) = true := by
  have isSet : ∃ bit ∈ List.range width, word.getLsbD bit = true := by
    by_contra none
    apply some
    apply BitVec.eq_of_getLsbD_eq
    intro bit inside
    have unset : word.getLsbD bit ≠ true := fun isSet =>
      none ⟨bit, List.mem_range.mpr inside, isSet⟩
    simpa using unset
  have inside : lowest word < (List.range width).length :=
    List.findIdx_lt_length_of_exists isSet
  have same : (List.range width)[lowest word] = lowest word :=
    List.getElem_range inside
  have found : word.getLsbD (List.range width)[lowest word] = true :=
    List.findIdx_getElem (w := inside)
  rw [same] at found
  rw [List.length_range] at inside
  exact ⟨inside, found⟩

/-- Below the lowest flag none is set. -/
theorem lowest_le {word : BitVec width}
    (isSet : word.getLsbD bit = true) :
    lowest word ≤ bit := by
  have inside : bit < (List.range width).length := by
    rw [List.length_range]
    exact BitVec.lt_of_getLsbD isSet
  by_contra below
  have unset := List.not_of_lt_findIdx (Nat.lt_of_not_le below)
  rw [List.getElem_range inside, isSet] at unset
  cases unset

end Endap.Library.BitMask
