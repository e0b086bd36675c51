import Mathlib.Logic.Function.Iterate
import Mathlib.Tactic.Common

/-!
# Cyclic redundancy checks

A register takes symbols one by one, least significant bit first.  A polynomial
with its top bit set makes every step a bijection on registers, so one changed
symbol changes the register for good.  A polynomial with an odd number of set
bits keeps the parity of the register and of the symbols that it has taken.
-/

namespace Endap.Library.Crc

variable {width size : Nat}

/-! ## Set bits -/

/-- The number of set bits. -/
def ones (bits : BitVec width) : Nat := (List.range width).countP bits.getLsbD

/-- The number of set bits of a sequence. -/
def onesOf : List (BitVec width) → Nat
  | [] => 0
  | bits :: rest => ones bits + onesOf rest

theorem onesOf_append (left right : List (BitVec width)) :
    onesOf (left ++ right) = onesOf left + onesOf right := by
  induction left with
  | nil => exact (Nat.zero_add _).symm
  | cons bits rest induction =>
      rw [List.cons_append, onesOf, onesOf, induction, Nat.add_assoc]

theorem countP_xor {Item : Type*} (first second : Item → Bool)
    (items : List Item) :
    (items.countP fun item => first item ^^ second item) % 2 =
      (items.countP first + items.countP second) % 2 := by
  induction items with
  | nil => rfl
  | cons item rest induction =>
      simp only [List.countP_cons]
      cases first item <;> cases second item <;> simp <;> omega

theorem ones_xor (left right : BitVec width) :
    ones (left ^^^ right) % 2 = (ones left + ones right) % 2 := by
  have bits :
      (left ^^^ right).getLsbD =
        fun index => left.getLsbD index ^^ right.getLsbD index :=
    funext fun _ => BitVec.getLsbD_xor
  rw [ones, bits, countP_xor]
  rfl

theorem ones_shiftRight (bits : BitVec width) :
    ones (bits >>> 1) + (bits.getLsbD 0).toNat = ones bits := by
  have shifted :
      (bits >>> 1).getLsbD = fun index => bits.getLsbD (index + 1) := by
    funext index
    rw [BitVec.getLsbD_ushiftRight, Nat.add_comm]
  rw [ones, ones, shifted]
  cases width with
  | zero => simp
  | succ width =>
      have outside : bits.getLsbD (width + 1) = false :=
        BitVec.getLsbD_of_ge bits (width + 1) (Nat.le_refl _)
      have dropped :
          (List.range (width + 1)).countP
              (fun index => bits.getLsbD (index + 1)) =
            (List.range width).countP
              fun index => bits.getLsbD (index + 1) := by
        rw [List.range_succ, List.countP_append, List.countP_singleton, outside]
        rfl
      rw [dropped, List.range_succ_eq_map, List.countP_cons, List.countP_map]
      cases bits.getLsbD 0 <;> rfl

theorem ones_setWidth (narrow : size ≤ width) (bits : BitVec size) :
    ones (bits.setWidth width) = ones bits := by
  rcases Nat.exists_eq_add_of_le narrow with ⟨more, rfl⟩
  have inside :
      (List.range size).countP (bits.setWidth (size + more)).getLsbD =
        ones bits := by
    apply List.countP_congr
    intro index member
    have isBit := List.mem_range.mp member
    rw [BitVec.getLsbD_setWidth,
      decide_eq_true (Nat.lt_add_right more isBit), Bool.true_and]
  have outside :
      ((List.range more).map (size + ·)).countP
          (bits.setWidth (size + more)).getLsbD = 0 := by
    rw [List.countP_eq_zero]
    intro index member
    rcases List.mem_map.mp member with ⟨place, _, rfl⟩
    rw [BitVec.getLsbD_setWidth,
      BitVec.getLsbD_of_ge bits (size + place) (Nat.le_add_right _ _)]
    simp
  rw [ones, List.range_add, List.countP_append, inside, outside, Nat.add_zero]

/-- The set bits of the lower and of the upper part of a word. -/
theorem ones_halves {low high : Nat} (bits : BitVec (low + high)) :
    ones bits =
      ones (bits.setWidth low) + ones ((bits >>> low).setWidth high) := by
  have lower :
      (List.range low).countP bits.getLsbD = ones (bits.setWidth low) := by
    apply List.countP_congr
    intro index member
    rw [BitVec.getLsbD_setWidth, decide_eq_true (List.mem_range.mp member),
      Bool.true_and]
  have upper :
      ((List.range high).map (low + ·)).countP bits.getLsbD =
        ones ((bits >>> low).setWidth high) := by
    rw [List.countP_map]
    apply List.countP_congr
    intro index member
    rw [BitVec.getLsbD_setWidth, decide_eq_true (List.mem_range.mp member),
      Bool.true_and, BitVec.getLsbD_ushiftRight]
    rfl
  rw [ones, List.range_add, List.countP_append, lower, upper]

/-- Changing bits changes the parity with their number. -/
theorem onesOf_zipWith_xor {left right : List (BitVec width)}
    (sameLength : left.length = right.length) :
    onesOf (List.zipWith (· ^^^ ·) left right) % 2 =
      (onesOf left + onesOf right) % 2 := by
  induction left generalizing right with
  | nil =>
      rw [List.length_eq_zero_iff.mp sameLength.symm]
      rfl
  | cons bits rest induction =>
      cases right with
      | nil => cases sameLength
      | cons other others =>
          have atBits := ones_xor bits other
          have atRest := induction (Nat.succ.inj sameLength)
          simp only [List.zipWith_cons_cons, onesOf]
          omega

theorem eq_of_shiftRight {left right : BitVec width}
    (rest : left >>> 1 = right >>> 1)
    (lowest : left.getLsbD 0 = right.getLsbD 0) : left = right := by
  apply BitVec.eq_of_getLsbD_eq
  intro index _
  cases index with
  | zero => exact lowest
  | succ index =>
      have atBit := congrArg (BitVec.getLsbD · index) rest
      simp only [BitVec.getLsbD_ushiftRight] at atBit
      rw [Nat.add_comm index 1]
      exact atBit

/-! ## Changed symbols -/

section

variable {Symbol : Type*} [DecidableEq Symbol]

/-- The number of places in which two sequences differ. -/
def changes (left right : List Symbol) : Nat :=
  (List.zip left right).countP fun pair => pair.1 ≠ pair.2

theorem changes_append {left right : List Symbol}
    (sameLength : left.length = right.length) (more others : List Symbol) :
    changes (left ++ more) (right ++ others) =
      changes left right + changes more others := by
  rw [changes, List.zip_append sameLength, List.countP_append]
  rfl

theorem changes_cons (first other : Symbol) (rest others : List Symbol) :
    changes (first :: rest) (other :: others) =
      changes rest others + if first ≠ other then 1 else 0 := by
  simp [changes, List.countP_cons]

theorem changes_eq_zero_iff {left right : List Symbol}
    (sameLength : left.length = right.length) :
    changes left right = 0 ↔ left = right := by
  induction left generalizing right with
  | nil =>
      rw [List.length_eq_zero_iff.mp sameLength.symm]
      exact iff_of_true rfl rfl
  | cons first rest induction =>
      cases right with
      | nil => cases sameLength
      | cons other others =>
          rw [changes_cons, Nat.add_eq_zero_iff,
            induction (Nat.succ.inj sameLength), List.cons.injEq, and_comm]
          simp

/-- Sequences that differ in one place. -/
theorem exists_of_changes_eq_one {left right : List Symbol}
    (sameLength : left.length = right.length)
    (one : changes left right = 1) :
    ∃ before first other after,
      left = before ++ first :: after ∧
      right = before ++ other :: after ∧ first ≠ other := by
  induction left generalizing right with
  | nil => cases one
  | cons first rest induction =>
      cases right with
      | nil => cases sameLength
      | cons other others =>
          have restLength := Nat.succ.inj sameLength
          rw [changes_cons] at one
          by_cases same : first = other
          · subst same
            rw [if_neg (not_not.mpr rfl)] at one
            rcases induction restLength one with
              ⟨before, symbol, changed, after, rfl, rfl, differs⟩
            exact ⟨first :: before, symbol, changed, after, rfl, rfl, differs⟩
          · rw [if_pos same] at one
            have sameRest :=
              (changes_eq_zero_iff restLength).mp (Nat.succ.inj one)
            subst sameRest
            exact ⟨[], first, other, rest, rfl, rfl, same⟩

end

/-! ## The register -/

/-- One bit leaves the register. -/
def bit (poly register : BitVec width) : BitVec width :=
  if register.getLsbD 0 then (register >>> 1) ^^^ poly else register >>> 1

/-- The register takes a symbol. -/
def symbol (poly register : BitVec width) (taken : BitVec size) :
    BitVec width :=
  (bit poly)^[size] (register ^^^ taken.setWidth width)

/-- The register takes a sequence of symbols. -/
def run (poly register : BitVec width) (taken : List (BitVec size)) :
    BitVec width :=
  taken.foldl (symbol poly) register

theorem run_append (poly register : BitVec width)
    (first second : List (BitVec size)) :
    run poly register (first ++ second) =
      run poly (run poly register first) second :=
  List.foldl_append

section

variable {poly : BitVec width} (top : poly.msb = true)

include top

theorem bit_injective : Function.Injective (bit poly) := by
  intro left right same
  -- Only the polynomial reaches the top bit.
  have crossed (first second : BitVec width) :
      (first >>> 1) ^^^ poly ≠ second >>> 1 := by
    intro equal
    have atTop := congrArg BitVec.msb equal
    simp [top] at atTop
  rw [bit, bit] at same
  cases leftBit : left.getLsbD 0 <;> cases rightBit : right.getLsbD 0 <;>
    rw [leftBit, rightBit] at same
  · exact eq_of_shiftRight same (leftBit.trans rightBit.symm)
  · exact absurd same.symm (crossed right left)
  · exact absurd same (crossed left right)
  · apply eq_of_shiftRight ((BitVec.xor_left_inj poly).mp same)
    exact leftBit.trans rightBit.symm

theorem symbol_injective (taken : BitVec size) :
    Function.Injective (symbol poly · taken) := by
  intro left right same
  have shifted := (bit_injective top).iterate size same
  exact (BitVec.xor_left_inj _).mp shifted

theorem symbol_taken_injective (narrow : size ≤ width)
    (register : BitVec width) :
    Function.Injective (@symbol width size poly register) := by
  intro left right same
  have shifted := (bit_injective top).iterate size same
  have widened := (BitVec.xor_right_inj register).mp shifted
  have back := congrArg (BitVec.setWidth size) widened
  rwa [BitVec.setWidth_setWidth_of_le left narrow,
    BitVec.setWidth_setWidth_of_le right narrow, BitVec.setWidth_eq,
    BitVec.setWidth_eq] at back

theorem run_injective (taken : List (BitVec size)) :
    Function.Injective (run poly · taken) := by
  induction taken with
  | nil => exact fun _ _ same => same
  | cons first rest induction =>
      intro left right same
      exact symbol_injective top first (induction same)

/-- One changed symbol changes the register. -/
theorem run_ne_of_changed (narrow : size ≤ width) (register : BitVec width)
    (before after : List (BitVec size)) {taken changed : BitVec size}
    (differs : taken ≠ changed) :
    run poly register (before ++ taken :: after) ≠
      run poly register (before ++ changed :: after) := by
  intro same
  rw [run_append, run_append] at same
  have atSymbol := run_injective top after same
  exact differs (symbol_taken_injective top narrow _ atSymbol)

end

section

variable {poly : BitVec width} (odd : ones poly % 2 = 1)

include odd

theorem ones_bit (register : BitVec width) :
    ones (bit poly register) % 2 = ones register % 2 := by
  have shifted := ones_shiftRight register
  rw [bit]
  cases leaves : register.getLsbD 0 with
  | false =>
      rw [leaves] at shifted
      simp only [Bool.false_eq_true, if_false]
      rw [← shifted]
      rfl
  | true =>
      rw [leaves] at shifted
      have flipped := ones_xor (register >>> 1) poly
      simp only [if_true]
      simp only [Bool.toNat_true] at shifted
      omega

theorem ones_symbol (narrow : size ≤ width) (register : BitVec width)
    (taken : BitVec size) :
    ones (symbol poly register taken) % 2 =
      (ones register + ones taken) % 2 := by
  have kept (count : Nat) (start : BitVec width) :
      ones ((bit poly)^[count] start) % 2 = ones start % 2 := by
    induction count with
    | zero => rfl
    | succ count induction =>
        rw [Function.iterate_succ_apply', ones_bit odd, induction]
  rw [symbol, kept, ones_xor, ones_setWidth narrow]

/-- The register keeps the parity of what it has taken. -/
theorem ones_run (narrow : size ≤ width) (register : BitVec width)
    (taken : List (BitVec size)) :
    ones (run poly register taken) % 2 =
      (ones register + onesOf taken) % 2 := by
  induction taken generalizing register with
  | nil => rfl
  | cons first rest induction =>
      have atFirst := ones_symbol odd narrow register first
      have atRest := induction (symbol poly register first)
      change ones (run poly (symbol poly register first) rest) % 2 = _
      rw [onesOf]
      omega

end

end Endap.Library.Crc
