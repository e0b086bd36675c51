import Endap.Library.Rounding
import Endap.Pve.Hysteresis

/-!
# The scaling of raw values

A raw value is clamped to the input range of its variable and then moved to
the scaled range by linear interpolation, rounded to the nearest integer.  The
differences that the interpolation works with are computed in 32 bits, so they
are those of the ranges only while the ranges are narrow enough.

When both ranges are too wide and equally wide, the two differences wrap to
numbers whose quotient is still that of the ranges.
-/

namespace Endap.Pve

open Endap.Library

/-! ## Differences in 32 bits -/

/-- A number as an `int32_t` holds it. -/
def wrapInt32 (value : Int) : Int := value.bmod (2 ^ 32)

variable {value : Int}

theorem wrapInt32_of_fits (fits : FitsInt32 value) : wrapInt32 value = value :=
  Int.bmod_eq_of_le fits.1 fits.2

theorem wrapInt32_fits (value : Int) : FitsInt32 (wrapInt32 value) :=
  ⟨Int.le_bmod (by decide), Int.bmod_lt (by decide)⟩

theorem fitsInt32_toInt (value : Int32) : FitsInt32 value.toInt :=
  ⟨value.le_toInt, value.toInt_lt⟩

theorem int32_sub_toInt (left right : Int32) :
    (left - right).toInt = wrapInt32 (left.toInt - right.toInt) :=
  Int32.toInt_sub left right

/-- A number that two `int32_t` differ by wraps at most once. -/
theorem wrapInt32_of_high
    (high : 2147483648 ≤ value) (below : value < 4294967296) :
    wrapInt32 value = value - 4294967296 := by
  rw [wrapInt32, Int.bmod_def]
  omega

theorem wrapInt32_of_low
    (low : value < -2147483648) (above : -4294967296 < value) :
    wrapInt32 value = value + 4294967296 := by
  rw [wrapInt32, Int.bmod_def]
  omega

theorem wrapInt32_eq_iff {other : Int} (fits : FitsInt32 other) :
    wrapInt32 value = other ↔ (4294967296 : Int) ∣ value - other := by
  rw [FitsInt32] at fits
  rw [wrapInt32, Int.bmod_def]
  omega

theorem wrapInt32_ne_zero (nonzero : value ≠ 0)
    (small : value.natAbs < 4294967296) : wrapInt32 value ≠ 0 := by
  intro wraps
  rw [wrapInt32_eq_iff (by decide)] at wraps
  omega

/-! ## The interpolation -/

/-- A number that an `int64_t` can hold is kept. -/
theorem bmod_int64 (low : -(2 ^ 63) ≤ value)
    (high : value < 2 ^ 63) : value.bmod (2 ^ 64) = value :=
  Int.bmod_eq_of_le low high

/-- The division of `pve_scale` rounds the quotient. -/
theorem roundedQuotient_toInt {numerator denominator : Int64}
    (small : numerator.toInt.natAbs ≤ 2 ^ 62)
    (narrow : denominator.toInt.natAbs ≤ 2 ^ 31)
    (nonzero : denominator.toInt ≠ 0) :
    (if xor (numerator < 0) (denominator < 0) then
        (numerator - denominator / 2) / denominator
      else (numerator + denominator / 2) / denominator).toInt =
      roundDiv numerator.toInt denominator.toInt := by
  have half : (denominator / 2).toInt = denominator.toInt.tdiv 2 := by
    have shrinks := Int.natAbs_tdiv_le_natAbs denominator.toInt 2
    rw [Int64.toInt_div]
    exact bmod_int64 (by simp; omega) (by simp; omega)
  have halfSmall : (denominator.toInt.tdiv 2).natAbs ≤ 2 ^ 31 :=
    (Int.natAbs_tdiv_le_natAbs _ _).trans narrow
  have quotient (dividend : Int64)
      (fits : dividend.toInt.natAbs < 2 ^ 63) :
      (dividend / denominator).toInt =
        dividend.toInt.tdiv denominator.toInt := by
    have shrinks := Int.natAbs_tdiv_le_natAbs dividend.toInt denominator.toInt
    rw [Int64.toInt_div]
    exact bmod_int64 (by omega) (by omega)
  have lower :
      (numerator - denominator / 2).toInt =
        numerator.toInt - denominator.toInt.tdiv 2 := by
    rw [Int64.toInt_sub, half]
    exact bmod_int64 (by omega) (by omega)
  have upper :
      (numerator + denominator / 2).toInt =
        numerator.toInt + denominator.toInt.tdiv 2 := by
    rw [Int64.toInt_add, half]
    exact bmod_int64 (by omega) (by omega)
  have signs (number : Int64) :
      decide (number < 0) = decide (number.toInt < 0) := by
    rw [decide_eq_decide, Int64.lt_iff_toInt_lt]
    rfl
  rw [roundDiv_eq_tdiv _ nonzero, signs, signs]
  split
  · rw [quotient _ (by omega), lower]
  · rw [quotient _ (by omega), upper]

theorem pveInterpolate_toInt
    (raw inputMin inputMax scaledMin scaledMax : Int32)
    (nonzero : wrapInt32 (inputMax.toInt - inputMin.toInt) ≠ 0) :
    (pveInterpolate raw inputMin inputMax scaledMin scaledMax).toInt =
      wrapInt32
        (scaledMin.toInt +
          roundDiv
            (wrapInt32 (raw.toInt - inputMin.toInt) *
              wrapInt32 (scaledMax.toInt - scaledMin.toInt))
            (wrapInt32 (inputMax.toInt - inputMin.toInt))) := by
  have bound (value : Int) : (wrapInt32 value).natAbs ≤ 2 ^ 31 := by
    have fits := wrapInt32_fits value
    rw [FitsInt32] at fits
    omega
  have numeratorBound (value other : Int) :
      (wrapInt32 value * wrapInt32 other).natAbs ≤ 2 ^ 62 := by
    rw [Int.natAbs_mul]
    exact (Nat.mul_le_mul (bound value) (bound other)).trans (by decide)
  have numerator :
      ((raw - inputMin).toInt64 * (scaledMax - scaledMin).toInt64).toInt =
        wrapInt32 (raw.toInt - inputMin.toInt) *
          wrapInt32 (scaledMax.toInt - scaledMin.toInt) := by
    have small :=
      numeratorBound (raw.toInt - inputMin.toInt)
        (scaledMax.toInt - scaledMin.toInt)
    rw [Int64.toInt_mul, Int32.toInt_toInt64, Int32.toInt_toInt64,
      int32_sub_toInt, int32_sub_toInt]
    exact bmod_int64 (by omega) (by omega)
  have denominator :
      (inputMax - inputMin).toInt64.toInt =
        wrapInt32 (inputMax.toInt - inputMin.toInt) := by
    rw [Int32.toInt_toInt64, int32_sub_toInt]
  have quotient :=
    roundedQuotient_toInt
      (numerator ▸ numeratorBound _ _) (denominator ▸ bound _)
      (denominator ▸ nonzero)
  rw [pveInterpolate, Int64.toInt_toInt32, Int64.toInt_add, quotient,
    numerator, denominator, Int32.toInt_toInt64, wrapInt32]
  exact Int.bmod_bmod_of_dvd (by decide)

/-! ## The scaling law -/

/-- The value that `pve_update` computes. -/
def PveConfig.scale (config : PveConfig) (raw : Int32) : Int32 :=
  pveScale raw config.inputMin config.inputMax config.scaledMin config.scaledMax

/-- The way from the lower to the upper end of the input range. -/
def PveConfig.inputSpan (config : PveConfig) : Int :=
  config.inputMax.toInt - config.inputMin.toInt

/-- The way from the lower to the upper end of the scaled range. -/
def PveConfig.scaledSpan (config : PveConfig) : Int :=
  config.scaledMax.toInt - config.scaledMin.toInt

/-- A raw value, clamped to the input range, which may be inverted. -/
def PveConfig.clamped (config : PveConfig) (raw : Int32) : Int :=
  max (min config.inputMin.toInt config.inputMax.toInt)
    (min raw.toInt (max config.inputMin.toInt config.inputMax.toInt))

/-- The scaled value over the integers. -/
def PveConfig.exactScale (config : PveConfig) (raw : Int32) : Int :=
  config.scaledMin.toInt +
    roundDiv
      ((config.clamped raw - config.inputMin.toInt) * config.scaledSpan)
      config.inputSpan

/-- The ranges run in the same direction. -/
def PveConfig.Rising (config : PveConfig) : Prop :=
  0 ≤ config.inputSpan * config.scaledSpan

/-- The ranges run in opposite directions. -/
def PveConfig.Falling (config : PveConfig) : Prop :=
  config.inputSpan * config.scaledSpan ≤ 0

/-- Scaling is rounded interpolation. -/
structure ScalingLaw (config : PveConfig) : Prop where
  value : ∀ raw, (config.scale raw).toInt = config.exactScale raw
  between :
    ∀ raw,
      min config.scaledMin.toInt config.scaledMax.toInt ≤
          (config.scale raw).toInt ∧
      (config.scale raw).toInt ≤
        max config.scaledMin.toInt config.scaledMax.toInt
  atMin : config.scale config.inputMin = config.scaledMin
  atMax : config.scale config.inputMax = config.scaledMax
  rising :
    config.Rising →
    ∀ raw later, raw ≤ later → config.scale raw ≤ config.scale later
  falling :
    config.Falling →
    ∀ raw later, raw ≤ later → config.scale later ≤ config.scale raw

/-- The differences of the ranges are computed well enough: there is no raw
value inside the input range, the scaled range is one value, both differences
fit into 32 bits, or neither does and the ranges are equally wide. -/
def PveConfig.ComputesSpans (config : PveConfig) : Prop :=
  config.inputSpan.natAbs = 1 ∨
  config.scaledSpan = 0 ∨
  FitsInt32 config.inputSpan ∧ FitsInt32 config.scaledSpan ∨
  ¬ FitsInt32 config.inputSpan ∧ ¬ FitsInt32 config.scaledSpan ∧
  config.scaledSpan.natAbs = config.inputSpan.natAbs

/-! ### Interpolation over the integers -/

section

variable {config : PveConfig}

theorem inputSpan_ne_zero
    (proper : config.inputMin ≠ config.inputMax) :
    config.inputSpan ≠ 0 := by
  intro none
  rw [PveConfig.inputSpan] at none
  exact proper (Int32.toInt_inj.mp (by omega))

/-- How far a raw value is inside the input range. -/
def PveConfig.depth (config : PveConfig) (raw : Int32) : Int :=
  |config.clamped raw - config.inputMin.toInt|

theorem depth_bounds (raw : Int32) :
    0 ≤ config.depth raw ∧ config.depth raw ≤ |config.inputSpan| := by
  rw [PveConfig.depth, PveConfig.clamped, PveConfig.inputSpan,
    Int.abs_eq_natAbs, Int.abs_eq_natAbs]
  omega

variable {raw later : Int32}

theorem depth_mono (ordered : raw ≤ later) :
    (0 ≤ config.inputSpan → config.depth raw ≤ config.depth later) ∧
    (config.inputSpan ≤ 0 → config.depth later ≤ config.depth raw) := by
  rw [Int32.le_iff_toInt_le] at ordered
  rw [PveConfig.depth, PveConfig.depth, PveConfig.clamped,
    PveConfig.clamped, PveConfig.inputSpan, Int.abs_eq_natAbs,
    Int.abs_eq_natAbs]
  omega

theorem depth_inputMin : config.depth config.inputMin = 0 := by
  rw [PveConfig.depth, PveConfig.clamped, Int.abs_eq_natAbs]
  omega

theorem depth_inputMax : config.depth config.inputMax = |config.inputSpan| := by
  rw [PveConfig.depth, PveConfig.clamped, PveConfig.inputSpan,
    Int.abs_eq_natAbs, Int.abs_eq_natAbs]
  omega

theorem exactScale_eq (raw : Int32) :
    config.exactScale raw =
      config.scaledMin.toInt +
        roundDiv (config.depth raw * config.scaledSpan)
          |config.inputSpan| := by
  rw [PveConfig.exactScale, PveConfig.depth]
  congr 1
  rcases le_total 0 config.inputSpan with upward | downward
  · have inside : 0 ≤ config.clamped raw - config.inputMin.toInt := by
      rw [PveConfig.inputSpan] at upward
      rw [PveConfig.clamped]
      omega
    rw [abs_of_nonneg upward, abs_of_nonneg inside]
  · have inside : config.clamped raw - config.inputMin.toInt ≤ 0 := by
      rw [PveConfig.inputSpan] at downward
      rw [PveConfig.clamped]
      omega
    rw [abs_of_nonpos downward, abs_of_nonpos inside, neg_mul,
      roundDiv_neg_left, roundDiv_neg_right, neg_neg]

theorem roundDiv_depth_mono
    (proper : config.inputMin ≠ config.inputMax) {first second : Int}
    (ordered : first ≤ second) :
    (0 ≤ config.scaledSpan →
        roundDiv (first * config.scaledSpan) |config.inputSpan| ≤
          roundDiv (second * config.scaledSpan) |config.inputSpan|) ∧
      (config.scaledSpan ≤ 0 →
      roundDiv (second * config.scaledSpan) |config.inputSpan| ≤
        roundDiv (first * config.scaledSpan) |config.inputSpan|) := by
  have positive : 0 < |config.inputSpan| :=
    abs_pos.mpr (inputSpan_ne_zero proper)
  constructor
  · intro upward
    exact roundDiv_mono positive (mul_le_mul_of_nonneg_right ordered upward)
  · intro downward
    exact roundDiv_mono positive (mul_le_mul_of_nonpos_right ordered downward)

theorem roundDiv_whole (proper : config.inputMin ≠ config.inputMax) :
    roundDiv (|config.inputSpan| * config.scaledSpan) |config.inputSpan| =
      config.scaledSpan := by
  rw [mul_comm]
  exact
    roundDiv_mul config.scaledSpan (abs_pos.mpr (inputSpan_ne_zero proper)).ne'

theorem exactScale_between
    (proper : config.inputMin ≠ config.inputMax) (raw : Int32) :
    min config.scaledMin.toInt config.scaledMax.toInt ≤ config.exactScale raw ∧
    config.exactScale raw ≤
      max config.scaledMin.toInt config.scaledMax.toInt := by
  have low := roundDiv_depth_mono proper (@depth_bounds config raw).1
  have high := roundDiv_depth_mono proper (@depth_bounds config raw).2
  rw [zero_mul, roundDiv_zero_left] at low
  rw [roundDiv_whole proper] at high
  rw [exactScale_eq]
  have span :
      config.scaledSpan = config.scaledMax.toInt - config.scaledMin.toInt := rfl
  rcases le_total 0 config.scaledSpan with upward | downward
  · have above := low.1 upward
    have below := high.1 upward
    omega
  · have above := high.2 downward
    have below := low.2 downward
    omega

theorem exactScale_rising
    (proper : config.inputMin ≠ config.inputMax) (rising : config.Rising)
    (ordered : raw ≤ later) :
    config.exactScale raw ≤ config.exactScale later := by
  have deeper := @depth_mono config raw later ordered
  rw [exactScale_eq, exactScale_eq]
  apply Int.add_le_add_left
  rw [PveConfig.Rising] at rising
  rcases lt_or_gt_of_ne (inputSpan_ne_zero proper) with inverted | upright
  · have downward : config.scaledSpan ≤ 0 :=
      nonpos_of_mul_nonneg_right rising inverted
    exact (roundDiv_depth_mono proper (deeper.2 inverted.le)).2 downward
  · have upward : 0 ≤ config.scaledSpan :=
      nonneg_of_mul_nonneg_right rising upright
    exact (roundDiv_depth_mono proper (deeper.1 upright.le)).1 upward

theorem exactScale_falling
    (proper : config.inputMin ≠ config.inputMax) (falling : config.Falling)
    (ordered : raw ≤ later) :
    config.exactScale later ≤ config.exactScale raw := by
  have deeper := @depth_mono config raw later ordered
  rw [exactScale_eq, exactScale_eq]
  apply Int.add_le_add_left
  rw [PveConfig.Falling] at falling
  rcases lt_or_gt_of_ne (inputSpan_ne_zero proper) with inverted | upright
  · have upward : 0 ≤ config.scaledSpan :=
      nonneg_of_mul_nonpos_right falling inverted
    exact (roundDiv_depth_mono proper (deeper.2 inverted.le)).1 upward
  · have downward : config.scaledSpan ≤ 0 :=
      nonpos_of_mul_nonpos_right falling upright
    exact (roundDiv_depth_mono proper (deeper.1 upright.le)).2 downward

theorem exactScale_inputMin :
    config.exactScale config.inputMin = config.scaledMin.toInt := by
  rw [exactScale_eq, depth_inputMin, zero_mul, roundDiv_zero_left, add_zero]

theorem exactScale_inputMax (proper : config.inputMin ≠ config.inputMax) :
    config.exactScale config.inputMax = config.scaledMax.toInt := by
  rw [exactScale_eq, depth_inputMax, roundDiv_whole proper,
    PveConfig.scaledSpan]
  omega

theorem ScalingLaw.of_value
    (proper : config.inputMin ≠ config.inputMax)
    (value : ∀ raw, (config.scale raw).toInt = config.exactScale raw) :
    ScalingLaw config where
  value := value
  between raw := by
    rw [value raw]
    exact exactScale_between proper raw
  atMin := Int32.toInt_inj.mp ((value _).trans exactScale_inputMin)
  atMax := Int32.toInt_inj.mp ((value _).trans (exactScale_inputMax proper))
  rising rising raw later ordered := by
    rw [Int32.le_iff_toInt_le, value raw, value later]
    exact exactScale_rising proper rising ordered
  falling falling raw later ordered := by
    rw [Int32.le_iff_toInt_le, value raw, value later]
    exact exactScale_falling proper falling ordered

/-! ### Raw values inside the input range -/

/-- An offset from the lower end that lies inside the input range. -/
def Inside (offset span : Int) : Prop :=
  0 < offset ∧ offset < span ∨ span < offset ∧ offset < 0

/-- The machine and the integers agree at an offset, up to a wrap. -/
def AgreesAt (inputSpan scaledSpan offset : Int) : Prop :=
  (4294967296 : Int) ∣
    roundDiv (wrapInt32 offset * wrapInt32 scaledSpan)
        (wrapInt32 inputSpan) -
      roundDiv (offset * scaledSpan) inputSpan

theorem scale_outside
    (proper : config.inputMin ≠ config.inputMax)
    (outside : ¬ Inside (raw.toInt - config.inputMin.toInt) config.inputSpan) :
    (config.scale raw).toInt = config.exactScale raw := by
  rw [Inside, PveConfig.inputSpan] at outside
  have apart : config.inputMin.toInt ≠ config.inputMax.toInt :=
    fun same => proper (Int32.toInt_inj.mp same)
  have atMin (shallow : config.depth raw = 0) :
      config.scaledMin.toInt = config.exactScale raw := by
    rw [exactScale_eq, shallow, zero_mul, roundDiv_zero_left, add_zero]
  have atMax (deep : config.depth raw = |config.inputSpan|) :
      config.scaledMax.toInt = config.exactScale raw := by
    rw [exactScale_eq, deep, roundDiv_whole proper, PveConfig.scaledSpan]
    omega
  rw [PveConfig.depth, PveConfig.clamped, PveConfig.inputSpan,
    Int.abs_eq_natAbs, Int.abs_eq_natAbs] at atMax
  rw [PveConfig.depth, PveConfig.clamped, Int.abs_eq_natAbs] at atMin
  rw [PveConfig.scale, pveScale, if_neg (Ne.symm proper)]
  simp only [Int32.lt_iff_toInt_lt, Int32.le_iff_toInt_le, ge_iff_le]
  split
  · split
    · exact atMin (by omega)
    · split
      · exact atMax (by omega)
      · omega
  · split
    · exact atMin (by omega)
    · split
      · exact atMax (by omega)
      · omega

theorem scale_inside
    (proper : config.inputMin ≠ config.inputMax)
    (inside : Inside (raw.toInt - config.inputMin.toInt) config.inputSpan) :
    (config.scale raw).toInt = config.exactScale raw ↔
    AgreesAt config.inputSpan config.scaledSpan
      (raw.toInt - config.inputMin.toInt) := by
  have minFits := fitsInt32_toInt config.inputMin
  have maxFits := fitsInt32_toInt config.inputMax
  have nonzero :
      wrapInt32 (config.inputMax.toInt - config.inputMin.toInt) ≠ 0 := by
    refine wrapInt32_ne_zero (inputSpan_ne_zero proper) ?_
    rw [FitsInt32] at minFits maxFits
    omega
  have exact :
      config.exactScale raw =
        config.scaledMin.toInt +
          roundDiv
            ((raw.toInt - config.inputMin.toInt) * config.scaledSpan)
            config.inputSpan := by
    have within : config.clamped raw = raw.toInt := by
      rw [Inside, PveConfig.inputSpan] at inside
      rw [PveConfig.clamped]
      omega
    rw [PveConfig.exactScale, within]
  have interpolated :
      config.scale raw =
        pveInterpolate raw config.inputMin config.inputMax config.scaledMin
          config.scaledMax := by
    rw [Inside, PveConfig.inputSpan] at inside
    rw [PveConfig.scale, pveScale, if_neg (Ne.symm proper)]
    simp only [Int32.lt_iff_toInt_lt, Int32.le_iff_toInt_le, ge_iff_le]
    split
    · rw [if_neg (by omega), if_neg (by omega)]
    · rw [if_neg (by omega), if_neg (by omega)]
  have fits : FitsInt32 (config.exactScale raw) := by
    have between := exactScale_between proper raw
    have low := fitsInt32_toInt config.scaledMin
    have high := fitsInt32_toInt config.scaledMax
    rw [FitsInt32] at low high ⊢
    omega
  rw [interpolated, pveInterpolate_toInt _ _ _ _ _ nonzero,
    wrapInt32_eq_iff fits, exact, add_sub_add_left_eq_sub]
  rfl

/-- The values are right if and only if the machine and the integers agree at
every offset inside the input range. -/
theorem scale_value_iff (proper : config.inputMin ≠ config.inputMax) :
    (∀ raw, (config.scale raw).toInt = config.exactScale raw) ↔
    ∀ offset,
      Inside offset config.inputSpan →
      AgreesAt config.inputSpan config.scaledSpan offset := by
  constructor
  · intro value offset inside
    have isRaw :
        (Int32.ofInt (config.inputMin.toInt + offset)).toInt =
          config.inputMin.toInt + offset := by
      have minFits := fitsInt32_toInt config.inputMin
      have maxFits := fitsInt32_toInt config.inputMax
      rw [FitsInt32] at minFits maxFits
      rw [Inside, PveConfig.inputSpan] at inside
      exact Int32.toInt_ofInt_of_le (by omega) (by omega)
    have isOffset :
        (Int32.ofInt (config.inputMin.toInt + offset)).toInt -
          config.inputMin.toInt = offset := by
      rw [isRaw]
      omega
    have agrees := (scale_inside proper (isOffset.symm ▸ inside)).mp (value _)
    rwa [isOffset] at agrees
  · intro agrees raw
    by_cases inside :
        Inside (raw.toInt - config.inputMin.toInt) config.inputSpan
    · exact (scale_inside proper inside).mpr (agrees _ inside)
    · exact scale_outside proper inside

end

/-! ### Where the differences wrap -/

section

variable {inputSpan scaledSpan : Int}

theorem agrees_of_fits
    (inputFits : FitsInt32 inputSpan) (scaledFits : FitsInt32 scaledSpan)
    {offset : Int} (inside : Inside offset inputSpan) :
    AgreesAt inputSpan scaledSpan offset := by
  have offsetFits : FitsInt32 offset := by
    rw [Inside] at inside
    rw [FitsInt32] at inputFits ⊢
    omega
  rw [AgreesAt, wrapInt32_of_fits inputFits, wrapInt32_of_fits scaledFits,
    wrapInt32_of_fits offsetFits, sub_self]
  exact dvd_zero _

theorem agrees_of_point (inputSpan offset : Int) :
    AgreesAt inputSpan 0 offset := by
  have zero : wrapInt32 0 = 0 := by decide
  rw [AgreesAt, zero, mul_zero, mul_zero, roundDiv_zero_left,
    roundDiv_zero_left, sub_zero]
  exact dvd_zero _

theorem agrees_of_wide
    (inputWide : ¬ FitsInt32 inputSpan) (nonzero : wrapInt32 inputSpan ≠ 0)
    (small : inputSpan.natAbs < 4294967296)
    (scaledWide : ¬ FitsInt32 scaledSpan)
    (equal : scaledSpan.natAbs = inputSpan.natAbs) (offset : Int) :
    AgreesAt inputSpan scaledSpan offset := by
  have turn : (4294967296 : Int) ∣ wrapInt32 offset - offset := by
    rw [wrapInt32, Int.bmod_def]
    omega
  have nonzeroSpan : inputSpan ≠ 0 := by
    rw [FitsInt32] at inputWide
    omega
  rw [AgreesAt]
  rcases Int.natAbs_eq_natAbs_iff.mp equal with same | opposite
  · rw [same, roundDiv_mul _ nonzero, roundDiv_mul _ nonzeroSpan]
    exact turn
  · have wraps : wrapInt32 (-inputSpan) = -wrapInt32 inputSpan := by
      rw [opposite] at scaledWide
      rw [FitsInt32] at inputWide scaledWide
      rcases le_total 0 inputSpan with upward | downward
      · rw [@wrapInt32_of_low (-inputSpan) (by omega) (by omega),
          @wrapInt32_of_high inputSpan (by omega) (by omega)]
        omega
      · rw [@wrapInt32_of_high (-inputSpan) (by omega) (by omega),
          @wrapInt32_of_low inputSpan (by omega) (by omega)]
        omega
    rw [opposite, wraps, mul_neg, mul_neg, roundDiv_neg_left,
      roundDiv_neg_left, roundDiv_mul _ nonzero,
      roundDiv_mul _ nonzeroSpan]
    omega

/-- Multiples of a number that start at zero and move by less than the number
are all zero. -/
theorem eq_zero_of_small_steps (gap : Nat → Int) (last : Nat)
    (start : gap 0 = 0)
    (multiple : ∀ index ≤ last, (4294967296 : Int) ∣ gap index)
    (step : ∀ index < last, |gap (index + 1) - gap index| < 4294967296) :
    ∀ index ≤ last, gap index = 0 := by
  intro index
  induction index with
  | zero => exact fun _ => start
  | succ index induction =>
      intro within
      have before := induction (by omega)
      have here := multiple (index + 1) within
      have small := step index (by omega)
      rw [before, sub_zero, abs_lt] at small
      omega

theorem wide_product {width : Int} (half : 2147483648 ≤ width)
    (below : width < 4294967296) :
    |(width - 4294967296) * width| ≤ 4611686018427387904 := by
  rw [abs_le]
  constructor
  · nlinarith [sq_nonneg (width - 2147483648)]
  · nlinarith

/-- What the machine divides by and multiplies with, when both signs are taken
from the input range. -/
structure Wrapped
    (width divisor span factor : Int) : Prop where
  wide : 2 ≤ width
  below : width < 4294967296
  spanBelow : |span| < 4294967296
  divisorIs :
    width ≤ 2147483648 ∧ divisor = width ∨
    2147483648 ≤ width ∧ divisor = width - 4294967296
  factorIs :
    |span| ≤ 2147483648 ∧ factor = span ∨
      2147483648 ≤ span ∧ factor = span - 4294967296 ∨
      span ≤ -2147483648 ∧ factor = span + 4294967296

theorem gap_le (low most : Int) {gap size amount : Int}
    (scaled : gap * size ≤ amount + size) (atLeast : low ≤ size)
    (positive : 0 < low) (some : 0 ≤ most) (few : amount < most * low) :
    gap ≤ most := by
  by_contra more
  have above : most * size ≤ (gap - 1) * size :=
    mul_le_mul_of_nonneg_right (by omega) (by omega)
  have least : most * low ≤ most * size :=
    mul_le_mul_of_nonneg_left atLeast some
  linarith

namespace Wrapped

variable {width divisor span factor : Int}

theorem factor_le (wrapped : Wrapped width divisor span factor) :
    |factor| ≤ 2147483648 := by
  have below := wrapped.spanBelow
  rw [abs_lt] at below
  rcases wrapped.factorIs with ⟨fits, rfl⟩ | ⟨high, rfl⟩ | ⟨low, rfl⟩
  · exact fits
  · rw [abs_le]
    omega
  · rw [abs_le]
    omega

theorem step (wrapped : Wrapped width divisor span factor) (index : Int) :
    |(roundDiv ((index + 1) * factor) divisor -
          roundDiv ((index + 1) * span) width) -
        (roundDiv (index * factor) divisor -
          roundDiv (index * span) width)| < 4294967296 := by
  have wide := wrapped.wide
  have below := wrapped.below
  have factorSmall := wrapped.factor_le
  have spanSmall := wrapped.spanBelow
  have nonzero : divisor ≠ 0 := by
    have divisorIs := wrapped.divisorIs
    omega
  have moved := roundDiv_step (index * factor) factor nonzero
  have movedToo := roundDiv_step (index * span) span (show width ≠ 0 by omega)
  rw [← add_one_mul] at moved movedToo
  rw [abs_of_nonneg (show 0 ≤ width by omega)] at movedToo
  rw [sub_sub_sub_comm]
  refine (abs_sub _ _).trans_lt ?_
  rcases wrapped.divisorIs with ⟨narrow, isWidth⟩ | ⟨high, isRest⟩
  · rw [isWidth, abs_of_nonneg (show 0 ≤ width by omega)] at moved
    have first :=
      gap_le 2 1073741825 moved wide (by decide) (by decide) (by omega)
    have second :=
      gap_le 2 2147483648 movedToo wide (by decide) (by decide) (by omega)
    rw [isWidth]
    omega
  · rw [abs_of_nonpos (show divisor ≤ 0 by omega)] at moved
    have first :=
      gap_le 1 2147483649 moved (by omega) (by decide) (by decide) (by omega)
    have second :=
      gap_le 2147483648 2 movedToo high (by decide) (by decide) (by omega)
    omega

theorem turn (wrapped : Wrapped width divisor span factor)
    (differs : factor ≠ span) : |factor - span| = 4294967296 := by
  rcases wrapped.factorIs with ⟨_, isSpan⟩ | ⟨_, isLess⟩ | ⟨_, isMore⟩
  · exact absurd isSpan differs
  · rw [isLess, Int.abs_eq_natAbs]
    omega
  · rw [isMore, Int.abs_eq_natAbs]
    omega

/-- With a divisor that is a turn away from the width the two fractions are
far apart. -/
theorem cross_far (wrapped : Wrapped width divisor span factor)
    (nonzero : span ≠ 0) (isRest : divisor = width - 4294967296)
    (unequal : factor = span ∨ |span| ≠ width) :
    4294967296 ≤ |factor * width - span * divisor| := by
  have spanSmall := wrapped.spanBelow
  rw [abs_lt] at spanSmall
  rcases wrapped.factorIs with ⟨_, isSpan⟩ | ⟨_, isLess⟩ | ⟨_, isMore⟩
  · have product :
        factor * width - span * divisor = span * 4294967296 := by
      rw [isSpan, isRest]
      ring
    rw [product, Int.abs_eq_natAbs]
    omega
  · have product :
        factor * width - span * divisor = (span - width) * 4294967296 := by
      rw [isLess, isRest]
      ring
    have differs : |span| ≠ width := unequal.resolve_left (by omega)
    rw [Int.abs_eq_natAbs] at differs
    rw [product, Int.abs_eq_natAbs]
    omega
  · have product :
        factor * width - span * divisor = (span + width) * 4294967296 := by
      rw [isMore, isRest]
      ring
    have differs : |span| ≠ width := unequal.resolve_left (by omega)
    rw [Int.abs_eq_natAbs] at differs
    rw [product, Int.abs_eq_natAbs]
    omega

/-- The quotients are far apart somewhere, unless the differences fit or both
are too wide and equal. -/
theorem apart (wrapped : Wrapped width divisor span factor)
    (nonzero : span ≠ 0) (wraps : divisor ≠ width ∨ factor ≠ span)
    (unequal : divisor = width ∨ factor = span ∨ |span| ≠ width) :
    ∃ index : Nat,
      (index : Int) < width ∧ index < 2147483648 ∧
      |divisor * width| <
        |index * factor * width - index * span * divisor| := by
  have wide := wrapped.wide
  have below := wrapped.below
  -- With an exact divisor one step is a turn; else the last index is far.
  rcases wrapped.divisorIs with ⟨narrow, isWidth⟩ | ⟨high, isRest⟩
  · refine ⟨1, by omega, by omega, ?_⟩
    have turn := wrapped.turn (wraps.resolve_left (absurd isWidth))
    have gap :
        ((1 : Nat) : Int) * factor * width - (1 : Nat) * span * divisor =
          (factor - span) * width := by
      rw [isWidth]
      push_cast
      ring
    rw [gap, isWidth, abs_mul, abs_mul, turn,
      abs_of_nonneg (show 0 ≤ width by omega)]
    nlinarith
  · refine ⟨2147483647, by omega, by omega, ?_⟩
    have room := wide_product high below
    have far :=
      wrapped.cross_far nonzero isRest (unequal.resolve_left (by omega))
    have scaled :
        ((2147483647 : Nat) : Int) * factor * width -
            (2147483647 : Nat) * span * divisor =
          2147483647 * (factor * width - span * divisor) := by
      push_cast
      ring
    have size : |(2147483647 : Int)| = 2147483647 := by decide
    rw [scaled, abs_mul 2147483647, size, isRest]
    rw [isRest] at far
    omega

theorem disagrees (wrapped : Wrapped width divisor span factor)
    (nonzero : span ≠ 0) (wraps : divisor ≠ width ∨ factor ≠ span)
    (unequal : divisor = width ∨ factor = span ∨ |span| ≠ width) :
    ∃ index : Nat,
      (index : Int) < width ∧ index < 2147483648 ∧
      ¬ (4294967296 : Int) ∣
        roundDiv (index * factor) divisor -
          roundDiv (index * span) width := by
  have wide := wrapped.wide
  have nonzeroDivisor : divisor ≠ 0 := by
    have divisorIs := wrapped.divisorIs
    have below := wrapped.below
    omega
  rcases wrapped.apart nonzero wraps unequal with
    ⟨last, within, small, far⟩
  by_contra agrees
  push Not at agrees
  have same :=
    eq_zero_of_small_steps
      (fun index : Nat =>
        roundDiv (index * factor) divisor - roundDiv (index * span) width)
      last
      (by simp [roundDiv_zero_left])
      (fun index atMost => agrees index (by omega) (by omega))
      (fun index _ => by
        have step := wrapped.step index
        push_cast
        exact step)
      last le_rfl
  have near :=
    roundDiv_near nonzeroDivisor (show width ≠ 0 by omega) (sub_eq_zero.mp same)
  exact absurd far (not_lt.mpr near)

end Wrapped

theorem wrapped_of_spans
    (wide : 2 ≤ inputSpan.natAbs) (below : inputSpan.natAbs < 4294967296)
    (spanBelow : scaledSpan.natAbs < 4294967296) :
    (0 < inputSpan →
        Wrapped inputSpan (wrapInt32 inputSpan) scaledSpan
          (wrapInt32 scaledSpan)) ∧
      (inputSpan < 0 →
      Wrapped (-inputSpan) (-wrapInt32 inputSpan) scaledSpan
        (wrapInt32 scaledSpan)) := by
  have spanSmall : |scaledSpan| < 4294967296 := by
    rw [Int.abs_eq_natAbs]
    omega
  have factorIs :
      |scaledSpan| ≤ 2147483648 ∧ wrapInt32 scaledSpan = scaledSpan ∨
        2147483648 ≤ scaledSpan ∧
            wrapInt32 scaledSpan = scaledSpan - 4294967296 ∨
          scaledSpan ≤ -2147483648 ∧
          wrapInt32 scaledSpan = scaledSpan + 4294967296 := by
    by_cases high : 2147483648 ≤ scaledSpan
    · exact .inr (.inl ⟨high, wrapInt32_of_high high (by omega)⟩)
    by_cases low : scaledSpan < -2147483648
    · exact .inr (.inr ⟨low.le, wrapInt32_of_low low (by omega)⟩)
    refine .inl ⟨?_, wrapInt32_of_fits ⟨by omega, by omega⟩⟩
    rw [Int.abs_eq_natAbs]
    omega
  constructor
  · intro upward
    refine ⟨by omega, by omega, spanSmall, ?_, factorIs⟩
    by_cases high : 2147483648 ≤ inputSpan
    · exact .inr ⟨high, wrapInt32_of_high high (by omega)⟩
    · exact .inl ⟨by omega, wrapInt32_of_fits ⟨by omega, by omega⟩⟩
  · intro downward
    refine ⟨by omega, by omega, spanSmall, ?_, factorIs⟩
    by_cases low : inputSpan < -2147483648
    · have wraps := wrapInt32_of_low low (by omega)
      exact .inr ⟨by omega, by omega⟩
    · have keeps : wrapInt32 inputSpan = inputSpan :=
        wrapInt32_of_fits ⟨by omega, by omega⟩
      exact .inl ⟨by omega, by omega⟩

/-- The machine and the integers disagree somewhere when a difference does not
fit, unless both do not and the ranges are equally wide. -/
theorem disagrees_of_misfit
    (wide : 2 ≤ inputSpan.natAbs) (below : inputSpan.natAbs < 4294967296)
    (spanBelow : scaledSpan.natAbs < 4294967296)
    (nonzero : scaledSpan ≠ 0)
    (misfit : ¬ (FitsInt32 inputSpan ∧ FitsInt32 scaledSpan))
    (unequal :
      FitsInt32 inputSpan ∨ FitsInt32 scaledSpan ∨
      scaledSpan.natAbs ≠ inputSpan.natAbs) :
    ∃ offset,
      Inside offset inputSpan ∧ ¬ AgreesAt inputSpan scaledSpan offset := by
  have wrapped := wrapped_of_spans wide below spanBelow
  have keeps {value : Int} (same : wrapInt32 value = value) :
      FitsInt32 value := by
    have fits := wrapInt32_fits value
    rwa [same] at fits
  have wraps :
      wrapInt32 inputSpan ≠ inputSpan ∨ wrapInt32 scaledSpan ≠ scaledSpan := by
    by_contra same
    push Not at same
    exact misfit ⟨keeps same.1, keeps same.2⟩
  have apart :
      wrapInt32 inputSpan = inputSpan ∨ wrapInt32 scaledSpan = scaledSpan ∨
      scaledSpan.natAbs ≠ inputSpan.natAbs :=
    unequal.imp wrapInt32_of_fits (Or.imp_left wrapInt32_of_fits)
  have indexFits {index : Nat} (small : index < 2147483648) :
      wrapInt32 index = index ∧ wrapInt32 (-index) = -index :=
    ⟨wrapInt32_of_fits ⟨by omega, by omega⟩,
      wrapInt32_of_fits ⟨by omega, by omega⟩⟩
  rcases lt_or_gt_of_ne (show inputSpan ≠ 0 by omega) with
    downward | upward
  · rcases (wrapped.2 downward).disagrees nonzero (by omega)
      (by rw [Int.abs_eq_natAbs]; omega) with
      ⟨index, within, small, differs⟩
    have positive : index ≠ 0 := by
      rintro rfl
      simp [roundDiv_zero_left] at differs
    refine ⟨-index, .inr ⟨by omega, by omega⟩, ?_⟩
    rw [AgreesAt, (indexFits small).2, neg_mul, neg_mul, roundDiv_neg_left,
      roundDiv_neg_left, ← roundDiv_neg_right, ← roundDiv_neg_right]
    exact differs
  · rcases (wrapped.1 upward).disagrees nonzero (by omega)
      (by rw [Int.abs_eq_natAbs]; omega) with
      ⟨index, within, small, differs⟩
    have positive : index ≠ 0 := by
      rintro rfl
      simp [roundDiv_zero_left] at differs
    refine ⟨index, .inl ⟨by omega, within⟩, ?_⟩
    rw [AgreesAt, (indexFits small).1]
    exact differs

end

/-! ## When the law holds -/

theorem spans_lt (config : PveConfig) :
    config.inputSpan.natAbs < 4294967296 ∧
    config.scaledSpan.natAbs < 4294967296 := by
  have minFits := fitsInt32_toInt config.inputMin
  have maxFits := fitsInt32_toInt config.inputMax
  have lowFits := fitsInt32_toInt config.scaledMin
  have highFits := fitsInt32_toInt config.scaledMax
  rw [FitsInt32] at minFits maxFits lowFits highFits
  rw [PveConfig.inputSpan, PveConfig.scaledSpan]
  omega

/-- Scaling is rounded interpolation if and only if the differences of the
ranges are computed well enough. -/
theorem pve_scaling_law_iff (config : PveConfig)
    (proper : config.inputMin ≠ config.inputMax) :
    ScalingLaw config ↔ config.ComputesSpans := by
  have small := spans_lt config
  have nonzero := inputSpan_ne_zero proper
  constructor
  · intro law
    by_contra misses
    rw [PveConfig.ComputesSpans] at misses
    push Not at misses
    rcases misses with ⟨notOne, notPoint, misfit, unequal⟩
    have disagrees :=
      disagrees_of_misfit (by omega) small.1 small.2 notPoint
        (fun fits => misfit fits.1 fits.2) (by tauto)
    rcases disagrees with ⟨offset, inside, differs⟩
    exact differs ((scale_value_iff proper).mp law.value offset inside)
  · intro computes
    refine ScalingLaw.of_value proper ((scale_value_iff proper).mpr ?_)
    intro offset inside
    rcases computes with narrow | point | fits | ⟨wide, alsoWide, equal⟩
    · rw [Inside] at inside
      omega
    · rw [point]
      exact agrees_of_point _ _
    · exact agrees_of_fits fits.1 fits.2 inside
    · exact
        agrees_of_wide wide (wrapInt32_ne_zero nonzero small.1) small.1
          alsoWide equal offset

def converterConfig : PveConfig :=
  { inputMin := 0, inputMax := 4095, scaledMin := 0, scaledMax := 1000 }

theorem converterConfig_scales : ScalingLaw converterConfig := by
  refine (pve_scaling_law_iff converterConfig (by decide)).mpr ?_
  rw [PveConfig.ComputesSpans, FitsInt32, FitsInt32]
  decide

/-- The whole range of `int32_t`, scaled to a thousand steps. -/
def fullRangeConfig : PveConfig :=
  { inputMin := Int32.minValue
    inputMax := Int32.maxValue
    scaledMin := 0
    scaledMax := 1000 }

/-- A raw value in the middle of the range is scaled to a value outside of the
scaled range. -/
theorem fullRange_scales_outside :
    fullRangeConfig.inputMin ≠ fullRangeConfig.inputMax ∧
    (fullRangeConfig.scale 1).toInt = -1000 ∧
    fullRangeConfig.exactScale 1 = 500 ∧
    ¬ ScalingLaw fullRangeConfig := by
  have low : (fullRangeConfig.scale 1).toInt = -1000 := by decide
  have exact : fullRangeConfig.exactScale 1 = 500 := by decide
  refine ⟨by decide, low, exact, ?_⟩
  intro law
  have same := law.value 1
  rw [low, exact] at same
  exact absurd same (by decide)

end Endap.Pve
