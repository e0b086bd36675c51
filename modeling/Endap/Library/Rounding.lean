import Mathlib.Algebra.Order.Group.Unbundled.Int
import Mathlib.Algebra.Order.Ring.Abs
import Mathlib.Algebra.Order.Ring.Int
import Mathlib.Tactic.Linarith
import Mathlib.Tactic.Ring

/-!
# Rounded quotients

The quotient of two integers, rounded to the nearest integer; a quotient in
the middle of two integers is rounded away from zero.  It is computed from
magnitudes, characterised by its distance from the quotient, and it is what
the usual code for it computes: half of the divisor is added to, or taken
from, the dividend before a division that truncates.
-/

namespace Endap.Library

/-- The rounded quotient of two magnitudes. -/
def roundMagnitude (dividend divisor : Nat) : Nat :=
  (2 * dividend + divisor) / (2 * divisor)

/-- The rounded quotient; it is zero when the divisor is. -/
def roundDiv (dividend divisor : Int) : Int :=
  dividend.sign * divisor.sign * roundMagnitude dividend.natAbs divisor.natAbs

/-- A number is the quotient, rounded to the nearest integer and away from
zero in the middle. -/
structure Rounds (dividend divisor rounded : Int) : Prop where
  nearest : 2 * |dividend - rounded * divisor| ≤ |divisor|
  away :
    2 * |dividend - rounded * divisor| = |divisor| →
    |dividend| < |rounded * divisor|

/-! ## Magnitudes -/

section

variable {dividend divisor : Nat}

theorem roundMagnitude_le (dividend divisor : Nat) :
    2 * (roundMagnitude dividend divisor * divisor) ≤
      2 * dividend + divisor := by
  have below := Nat.div_mul_le_self (2 * dividend + divisor) (2 * divisor)
  calc
    2 * (roundMagnitude dividend divisor * divisor) =
        roundMagnitude dividend divisor * (2 * divisor) := by ring
    _ ≤ 2 * dividend + divisor := below

theorem lt_roundMagnitude (positive : 0 < divisor) :
    2 * dividend <
      2 * (roundMagnitude dividend divisor * divisor) + divisor := by
  have above :=
    Nat.lt_div_mul_add
      (show 0 < 2 * divisor by omega) (a := 2 * dividend + divisor)
  have same :
      (2 * dividend + divisor) / (2 * divisor) * (2 * divisor) =
        2 * (roundMagnitude dividend divisor * divisor) := by
    rw [roundMagnitude]
    ring
  rw [same] at above
  omega

theorem roundMagnitude_eq (dividend divisor : Nat) :
    roundMagnitude dividend divisor =
      (dividend + divisor / 2) / divisor := by
  rw [roundMagnitude, ← Nat.div_div_eq_div_mul]
  congr 1
  omega

end

/-! ## Signs -/

theorem roundDiv_neg_left (dividend divisor : Int) :
    roundDiv (-dividend) divisor = -roundDiv dividend divisor := by
  simp only [roundDiv, Int.sign_neg, Int.natAbs_neg]
  ring

theorem roundDiv_neg_right (dividend divisor : Int) :
    roundDiv dividend (-divisor) = -roundDiv dividend divisor := by
  simp only [roundDiv, Int.sign_neg, Int.natAbs_neg]
  ring

theorem roundDiv_natCast {divisor : Nat} (dividend : Nat)
    (positive : 0 < divisor) :
    roundDiv (dividend : Int) (divisor : Int) =
      roundMagnitude dividend divisor := by
  rw [roundDiv, Int.sign_natCast_of_ne_zero positive.ne']
  rcases Nat.eq_zero_or_pos dividend with rfl | some
  · have none : roundMagnitude 0 divisor = 0 := by
      rw [roundMagnitude, Nat.div_eq_zero_iff]
      omega
    simp [none]
  · rw [Int.sign_natCast_of_ne_zero some.ne']
    simp

theorem Rounds.neg_left {dividend divisor rounded : Int}
    (rounds : Rounds dividend divisor rounded) :
    Rounds (-dividend) divisor (-rounded) := by
  have distance :
      |-dividend - -rounded * divisor| = |dividend - rounded * divisor| := by
    rw [← abs_neg]
    congr 1
    ring
  constructor
  · rw [distance]
    exact rounds.nearest
  · rw [distance, abs_neg, neg_mul, abs_neg]
    exact rounds.away

theorem Rounds.neg_right {dividend divisor rounded : Int}
    (rounds : Rounds dividend divisor rounded) :
    Rounds dividend (-divisor) (-rounded) := by
  constructor
  · rw [neg_mul_neg, abs_neg]
    exact rounds.nearest
  · rw [neg_mul_neg, abs_neg]
    exact rounds.away

/-! ## The nearest integer -/

theorem roundMagnitude_rounds {divisor : Nat} (dividend : Nat)
    (positive : 0 < divisor) :
    Rounds dividend divisor (roundMagnitude dividend divisor) := by
  have below := roundMagnitude_le dividend divisor
  have above := @lt_roundMagnitude dividend divisor positive
  zify at below above
  have upper : (0 : Int) < divisor := by exact_mod_cast positive
  constructor
  · rw [abs_of_pos upper]
    rcases abs_cases
      ((dividend : Int) - roundMagnitude dividend divisor * divisor) with
      ⟨size, _⟩ | ⟨size, _⟩
    · rw [size]
      linarith
    · rw [size]
      linarith
  · intro middle
    rw [abs_of_pos upper] at middle
    have nonneg : (0 : Int) ≤ roundMagnitude dividend divisor * divisor := by
      positivity
    rw [Nat.abs_cast, abs_of_nonneg nonneg]
    rcases abs_cases
      ((dividend : Int) - roundMagnitude dividend divisor * divisor) with
      ⟨size, _⟩ | ⟨size, _⟩
    · rw [size] at middle
      linarith
    · linarith

theorem roundDiv_rounds
    (dividend : Int) {divisor : Int} (nonzero : divisor ≠ 0) :
    Rounds dividend divisor (roundDiv dividend divisor) := by
  have positive : 0 < divisor.natAbs := Int.natAbs_pos.mpr nonzero
  have magnitudes :
      Rounds dividend.natAbs divisor.natAbs
        (roundDiv dividend.natAbs divisor.natAbs) := by
    rw [roundDiv_natCast _ positive]
    exact roundMagnitude_rounds _ positive
  rcases Int.natAbs_eq dividend with isDividend | isDividend
  · rcases Int.natAbs_eq divisor with isDivisor | isDivisor
    · rw [isDividend, isDivisor]
      exact magnitudes
    · rw [isDividend, isDivisor, roundDiv_neg_right]
      exact magnitudes.neg_right
  · rcases Int.natAbs_eq divisor with isDivisor | isDivisor
    · rw [isDividend, isDivisor, roundDiv_neg_left]
      exact magnitudes.neg_left
    · rw [isDividend, isDivisor, roundDiv_neg_right, roundDiv_neg_left]
      exact magnitudes.neg_left.neg_right

/-- A quotient that is an integer is not changed. -/
theorem roundDiv_mul (quotient : Int) {divisor : Int}
    (nonzero : divisor ≠ 0) :
    roundDiv (quotient * divisor) divisor = quotient := by
  have nearest := (roundDiv_rounds (quotient * divisor) nonzero).nearest
  have size : 0 < |divisor| := abs_pos.mpr nonzero
  rw [← sub_mul, abs_mul, ← mul_assoc] at nearest
  have small : 2 * |quotient - roundDiv (quotient * divisor) divisor| ≤ 1 :=
    le_of_mul_le_mul_right (by linarith) size
  have same : quotient - roundDiv (quotient * divisor) divisor = 0 := by
    rw [← Int.abs_lt_one_iff]
    omega
  omega

theorem roundDiv_zero_left (divisor : Int) : roundDiv 0 divisor = 0 := by
  simp [roundDiv]

/-- A larger dividend has a larger rounded quotient. -/
theorem roundDiv_mono {first second divisor : Int}
    (positive : 0 < divisor) (ordered : first ≤ second) :
    roundDiv first divisor ≤ roundDiv second divisor := by
  rcases eq_or_lt_of_le ordered with rfl | smaller
  · exact le_rfl
  by_contra above
  have low := (roundDiv_rounds first positive.ne').nearest
  have high := (roundDiv_rounds second positive.ne').nearest
  rw [abs_of_pos positive] at low high
  have lowBound := neg_abs_le (first - roundDiv first divisor * divisor)
  have highBound := le_abs_self (second - roundDiv second divisor * divisor)
  have apart :
      (roundDiv second divisor + 1) * divisor ≤
        roundDiv first divisor * divisor :=
    mul_le_mul_of_nonneg_right (by omega) positive.le
  rw [add_mul, one_mul] at apart
  linarith

/-- Two quotients with one rounded value are near each other. -/
theorem roundDiv_near
    {first firstDivisor second secondDivisor : Int}
    (nonzero : firstDivisor ≠ 0) (alsoNonzero : secondDivisor ≠ 0)
    (same : roundDiv first firstDivisor = roundDiv second secondDivisor) :
    |first * secondDivisor - second * firstDivisor| ≤
      |firstDivisor * secondDivisor| := by
  have near := (roundDiv_rounds first nonzero).nearest
  have alsoNear := (roundDiv_rounds second alsoNonzero).nearest
  rw [same] at near
  have split :
      first * secondDivisor - second * firstDivisor =
        (first - roundDiv second secondDivisor * firstDivisor) *
            secondDivisor -
          (second - roundDiv second secondDivisor * secondDivisor) *
            firstDivisor := by
    ring
  rw [split, abs_mul]
  refine (abs_sub _ _).trans ?_
  rw [abs_mul, abs_mul]
  have left := mul_le_mul_of_nonneg_right near (abs_nonneg secondDivisor)
  have right := mul_le_mul_of_nonneg_right alsoNear (abs_nonneg firstDivisor)
  linarith [mul_comm |firstDivisor| |secondDivisor|]

/-- A step of the dividend moves the rounded quotient by little. -/
theorem roundDiv_step (dividend step : Int) {divisor : Int}
    (nonzero : divisor ≠ 0) :
    |roundDiv (dividend + step) divisor - roundDiv dividend divisor| *
        |divisor| ≤
      |step| + |divisor| := by
  have here := (roundDiv_rounds dividend nonzero).nearest
  have next := (roundDiv_rounds (dividend + step) nonzero).nearest
  have split :
      (roundDiv (dividend + step) divisor - roundDiv dividend divisor) *
          divisor =
        step -
          ((dividend + step - roundDiv (dividend + step) divisor * divisor) -
            (dividend - roundDiv dividend divisor * divisor)) := by
    ring
  rw [← abs_mul, split]
  refine (abs_sub _ _).trans ?_
  have apart :=
    abs_sub
      (dividend + step - roundDiv (dividend + step) divisor * divisor)
      (dividend - roundDiv dividend divisor * divisor)
  linarith

/-! ## Divisions that truncate -/

theorem tdiv_natCast (dividend : Nat) {divisor : Nat}
    (positive : 0 < divisor) :
    ((dividend : Int) + (divisor : Int).tdiv 2).tdiv divisor =
      roundDiv dividend divisor := by
  rw [roundDiv_natCast dividend positive, roundMagnitude_eq]
  have half : (divisor : Int).tdiv 2 = ((divisor / 2 : Nat) : Int) :=
    Int.ofNat_tdiv divisor 2
  rw [half, ← Nat.cast_add]
  exact (Int.ofNat_tdiv (dividend + divisor / 2) divisor).symm

/-- The rounded quotient, computed with divisions that truncate. -/
theorem roundDiv_eq_tdiv (dividend : Int) {divisor : Int}
    (nonzero : divisor ≠ 0) :
    roundDiv dividend divisor =
      if xor (decide (dividend < 0)) (decide (divisor < 0)) then
        (dividend - divisor.tdiv 2).tdiv divisor
      else (dividend + divisor.tdiv 2).tdiv divisor := by
  have positive : 0 < divisor.natAbs := Int.natAbs_pos.mpr nonzero
  have magnitudes := tdiv_natCast dividend.natAbs positive
  by_cases below : dividend < 0
  · have isDividend : dividend = -(dividend.natAbs : Int) := by omega
    by_cases negative : divisor < 0
    · have isDivisor : divisor = -(divisor.natAbs : Int) := by omega
      rw [if_neg (by simp [below, negative])]
      generalize dividend.natAbs = amount at isDividend magnitudes
      generalize divisor.natAbs = size at isDivisor magnitudes
      rw [isDividend, isDivisor, roundDiv_neg_left, roundDiv_neg_right,
        neg_neg, Int.neg_tdiv, ← neg_add, Int.neg_tdiv, Int.tdiv_neg,
        neg_neg, magnitudes]
    · have isDivisor : divisor = (divisor.natAbs : Int) := by omega
      rw [if_pos (by simp [below, negative])]
      generalize dividend.natAbs = amount at isDividend magnitudes
      generalize divisor.natAbs = size at isDivisor magnitudes
      rw [isDividend, isDivisor, roundDiv_neg_left, ← neg_add', Int.neg_tdiv,
        magnitudes]
  · have isDividend : dividend = (dividend.natAbs : Int) := by omega
    by_cases negative : divisor < 0
    · have isDivisor : divisor = -(divisor.natAbs : Int) := by omega
      rw [if_pos (by simp [below, negative])]
      generalize dividend.natAbs = amount at isDividend magnitudes
      generalize divisor.natAbs = size at isDivisor magnitudes
      rw [isDividend, isDivisor, roundDiv_neg_right, Int.neg_tdiv,
        sub_neg_eq_add, Int.tdiv_neg, magnitudes]
    · have isDivisor : divisor = (divisor.natAbs : Int) := by omega
      rw [if_neg (by simp [below, negative])]
      generalize dividend.natAbs = amount at isDividend magnitudes
      generalize divisor.natAbs = size at isDivisor magnitudes
      rw [isDividend, isDivisor, magnitudes]

end Endap.Library
