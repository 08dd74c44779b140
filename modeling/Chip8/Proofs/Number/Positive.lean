import Mathlib
import Chip8.Number.Binary64

/-!
# Positive doubles

The arithmetic of doubles works on their parts, a sign, a mantissa and an
exponent, and rounds what comes out. Rounding keeps a positive number positive
unless it lies below all doubles, and so does packing its parts into the bits of
a double; a number that is too large becomes infinite. So a positive whole number
is a positive double, and where that is finite so is one divided by it: no double
is large enough for its reciprocal to vanish.
-/

namespace Chip8

open Float.Model Float.Model.UnpackedFloat

/-- The parts of a positive double: it is infinite, or its mantissa and its exponent are no smaller
and no wider than those of a double. -/
inductive IsPositive : UnpackedFloat -> Prop
  | infinity : IsPositive (.infinity .positive)
  | finite
      {mantissa : Nat}
      {exponent : Int}
      (positive : 0 < mantissa)
      (narrow : mantissa < 2 ^ 53)
      (fine : -1074 ≤ exponent) :
      IsPositive (.finite .positive mantissa exponent positive)

/-! ## Rounding -/

variable {mantissa other : Nat} {exponent otherExponent : Int}

/-- Each bit that is dropped halves the mantissa. -/
theorem mantissa_shiftRight (extended : ExtendedMantissa) (count : Nat) :
    (extended >>> count).mantissa = extended.mantissa / 2 ^ count := by
  induction count with
  | zero => exact (Nat.div_one _).symm
  | succ count hypothesis =>
      change (extended >>> count).mantissa / 2 = _
      rw [hypothesis, Nat.div_div_eq_div_mul, Nat.pow_succ]

theorem mantissa_ofMantissaAndAccuracy (mantissa : Nat) (accuracy : Accuracy) :
    (ExtendedMantissa.ofMantissaAndAccuracy mantissa accuracy).mantissa = mantissa := by
  cases accuracy with
  | exact => rfl
  | inexact order => cases order <;> rfl

theorem mantissa_le_rounded (extended : ExtendedMantissa) :
    extended.mantissa ≤ extended.roundedMantissa := by
  obtain ⟨mantissa, roundBit, stickyBit⟩ := extended
  cases roundBit <;> cases stickyBit <;>
    simp [ExtendedMantissa.roundedMantissa, ExtendedMantissa.accuracy,
      Accuracy.roundToNearestEven]

/-- A positive number that does not lie below all doubles keeps a bit when it is brought to an
exponent of a double. -/
theorem shiftToTargetExponent_bounds
    (positive : 0 < mantissa)
    (reaches : -1074 ≤ mantissa.log2 + exponent)
    (accuracy : Accuracy) :
    let shifted := shiftToTargetExponent .binary64 mantissa exponent accuracy
    0 < shifted.1.mantissa ∧ shifted.1.mantissa < 2 ^ 53 ∧ -1074 ≤ shifted.2 := by
  simp only [shiftToTargetExponent, shiftToExponent, mantissa_shiftRight,
    mantissa_ofMantissaAndAccuracy, Format.targetExponent, totalExponent, Format.mantissaBits,
    Format.minExponent]
  generalize shift : (max _ _ - exponent : Int).toNat = count
  obtain ⟨kept, cut, fine⟩ :
      count ≤ mantissa.log2 ∧ mantissa.log2 + 1 ≤ 53 + count ∧ -1074 ≤ exponent + count := by
    omega
  refine ⟨Nat.div_pos ?_ (Nat.two_pow_pos count), ?_, fine⟩
  · exact (Nat.le_log2 (Nat.ne_of_gt positive)).mp kept
  · rw [Nat.div_lt_iff_lt_mul (Nat.two_pow_pos count), ← Nat.pow_add]
    exact Nat.lt_of_lt_of_le Nat.lt_log2_self (Nat.pow_le_pow_right (by decide) cut)

/-- A positive number that does not lie below all doubles is positive when it is rounded. -/
theorem isPositive_roundWithAccuracy
    (positive : 0 < mantissa)
    (reaches : -1074 ≤ mantissa.log2 + exponent)
    (accuracy : Accuracy) :
    IsPositive (roundWithAccuracy .binary64 .positive mantissa exponent accuracy) := by
  obtain ⟨kept, _, fine⟩ := shiftToTargetExponent_bounds positive reaches accuracy
  unfold roundWithAccuracy
  generalize shiftToTargetExponent .binary64 mantissa exponent accuracy = first at kept fine
  obtain ⟨extended, shifted⟩ := first
  -- Rounding may have carried into one more bit, and then there is another shift.
  have rounds : 0 < extended.roundedMantissa :=
    Nat.lt_of_lt_of_le kept (mantissa_le_rounded extended)
  have reaches : -1074 ≤ extended.roundedMantissa.log2 + shifted := by omega
  obtain ⟨left, narrow, final⟩ := shiftToTargetExponent_bounds rounds reaches .exact
  dsimp only
  rw [dif_neg (Nat.ne_of_gt left)]
  exact .finite left narrow final

/-- The position of the leading bit of a product is at least the sum of those of its factors. -/
theorem log2_add_log2_le (left : 0 < mantissa) (right : 0 < other) :
    mantissa.log2 + other.log2 ≤ (mantissa * other).log2 := by
  rw [Nat.le_log2 (Nat.ne_of_gt (Nat.mul_pos left right)), Nat.pow_add]
  exact Nat.mul_le_mul (Nat.log2_self_le (Nat.ne_of_gt left))
    (Nat.log2_self_le (Nat.ne_of_gt right))

/-- Each bit that is appended moves the leading bit on by one. -/
theorem log2_add_le_log2_shiftLeft (positive : 0 < mantissa) (count : Nat) :
    mantissa.log2 + count ≤ (mantissa <<< count).log2 := by
  have product := log2_add_log2_le positive (Nat.two_pow_pos count)
  rw [Nat.log2_two_pow, ← Nat.shiftLeft_eq] at product
  exact product

theorem isPositive_round
    (positive : 0 < mantissa)
    (reaches : -1074 ≤ mantissa.log2 + exponent) :
    IsPositive (UnpackedFloat.round .binary64 .positive mantissa exponent) := by
  unfold UnpackedFloat.round decreaseExponent
  dsimp only
  generalize (exponent - _ : Int).toNat = count
  have widened := log2_add_le_log2_shiftLeft positive count
  apply isPositive_roundWithAccuracy (Nat.shiftLeft_pos_iff.mpr positive)
  omega

/-! ## Packing -/

/-- A double of positive sign is positive unless it is zero or has the highest exponent. -/
theorem isPositive_unpack_packComponents
    {biased : BitVec 11}
    {fraction : BitVec 52}
    (finite : biased ≠ -1#11)
    (nonzero : biased ≠ 0#11 ∨ fraction ≠ 0#52) :
    IsPositive
      (UnpackedFloat.unpack .binary64
        (packComponents .binary64 .positive biased fraction)) := by
  simp only [UnpackedFloat.unpack, unpackExponent_packComponents, unpackMantissa_packComponents,
    unpackSign_packComponents, if_neg finite]
  split
  · rename_i subnormal
    rw [dif_neg (nonzero.resolve_left (absurd subnormal))]
    apply IsPositive.finite _ (Nat.lt_trans fraction.isLt (by decide))
    simp [subnormal, Format.exponentBias]
  · rename_i normal
    apply IsPositive.finite _ (1#1 ++ fraction).isLt
    have counted : biased.toNat ≠ 0 := by
      intro absent
      exact normal (BitVec.eq_of_toNat_eq absent)
    simp only [Format.exponentBias]
    omega

/-- The parts of a positive double are positive when they are read back from its bits. -/
theorem IsPositive.unpack_pack {value : UnpackedFloat} (positive : IsPositive value) :
    IsPositive (Float.Model.pack value).unpack := by
  cases positive with
  | infinity => exact .infinity
  | @finite mantissa exponent positive narrow fine =>
      simp only [Float.Model.unpack, Float.Model.pack, UnpackedFloat.pack, UInt64.toBitVec_ofBitVec]
      have width := (Nat.log2_lt (Nat.ne_of_gt positive)).mpr narrow
      split
      · exact .infinity
      · rename_i fits
        simp only [Format.exponentBias] at fits
        split
        · apply isPositive_unpack_packComponents
          · intro highest
            have field : (exponent + 1023 + 52).toNat % 2 ^ 11 = 2047 :=
              congrArg BitVec.toNat highest
            omega
          · left
            intro lowest
            have field : (exponent + 1023 + 52).toNat % 2 ^ 11 = 0 :=
              congrArg BitVec.toNat lowest
            omega
        · rename_i subnormal
          apply isPositive_unpack_packComponents (by decide)
          right
          intro empty
          have field : mantissa % 2 ^ 52 = 0 := congrArg BitVec.toNat empty
          simp only [Format.mantissaBits] at subnormal
          have short : mantissa < 2 ^ 52 := (Nat.log2_lt (Nat.ne_of_gt positive)).mp (by omega)
          omega

/-- The exponent of a double has an upper bound. -/
theorem exponent_le_of_unpack
    {model : Float.Model}
    {sign : Sign}
    {positive : 0 < mantissa}
    (parts : model.unpack = .finite sign mantissa exponent positive) :
    exponent ≤ 971 := by
  simp only [Float.Model.unpack, UnpackedFloat.unpack] at parts
  generalize @unpackExponent .binary64 model.toBits.toBitVec = biased at parts
  have bound : biased.toNat < 2048 := biased.isLt
  split at parts
  · split at parts <;> contradiction
  · rename_i highest
    have below : biased.toNat ≠ 2047 := by
      intro field
      exact highest (BitVec.eq_of_toNat_eq field)
    simp only [Format.exponentBias] at parts
    split at parts
    · rename_i lowest
      have zero : biased.toNat = 0 := congrArg BitVec.toNat lowest
      split at parts
      · contradiction
      · injection parts
        omega
    · injection parts
      omega

/-! ## Products and reciprocals -/

/-- A positive number stays positive when it is multiplied by one that is at least one. -/
theorem IsPositive.mul
    {value : UnpackedFloat}
    (factor : IsPositive value)
    (positive : 0 < other)
    (large : 0 ≤ other.log2 + otherExponent) :
    IsPositive
      (UnpackedFloat.mul .binary64 value (.finite .positive other otherExponent positive)) := by
  cases factor with
  | infinity => exact .infinity
  | @finite mantissa exponent left narrow fine =>
      have widened := log2_add_log2_le left positive
      apply isPositive_roundWithAccuracy (Nat.mul_pos left positive)
      omega

/-- One divided by a positive number is positive where the number is as small as doubles are. -/
theorem isPositive_reciprocal
    (positive : 0 < mantissa)
    (narrow : mantissa < 2 ^ 53)
    (bounded : exponent ≤ 971) :
    IsPositive
      (UnpackedFloat.div .binary64 (.finite .positive (2 ^ 52) (-52) (by decide))
        (.finite .positive mantissa exponent positive)) := by
  simp only [UnpackedFloat.div, divCore, Format.targetExponent, totalExponent, Format.mantissaBits,
    Format.minExponent, Nat.log2_two_pow]
  generalize found : (min (-52 - exponent) _ : Int) = lower
  obtain ⟨fine, wide⟩ : -1074 ≤ lower ∧ 53 ≤ 52 + (-52 - exponent - lower).toNat := by
    omega
  have quotient : 0 < 2 ^ 52 <<< (-52 - exponent - lower).toNat / mantissa := by
    apply Nat.div_pos _ positive
    rw [Nat.shiftLeft_eq, ← Nat.pow_add]
    exact Nat.le_trans (Nat.le_of_lt narrow) (Nat.pow_le_pow_right (by decide) wide)
  exact isPositive_roundWithAccuracy quotient (by omega) _

/-! ## Doubles -/

theorem unpack_zero : (0 : Float).toModel.unpack = .zero .positive := by
  rfl

theorem unpack_one :
    (1 : Float).toModel.unpack = .finite .positive (2 ^ 52) (-52) (by decide) := by
  rfl

theorem zero_lt_of_isPositive {value : Float} (positive : IsPositive value.toModel.unpack) :
    0 < value := by
  apply decide_eq_true
  change UnpackedFloat.lt (0 : Float).toModel.unpack value.toModel.unpack = true
  generalize value.toModel.unpack = parts at positive
  rw [unpack_zero]
  cases positive <;> rfl

/-- One divided by a finite positive double is positive. -/
theorem isPositive_one_div
    {value : Float}
    (positive : IsPositive value.toModel.unpack)
    (finite : value.isInf = false) :
    IsPositive (1 / value).toModel.unpack := by
  change IsPositive
    (Float.Model.pack
      (UnpackedFloat.div .binary64 (1 : Float).toModel.unpack value.toModel.unpack)).unpack
  change value.toModel.unpack.isInf = false at finite
  apply IsPositive.unpack_pack
  rw [unpack_one]
  generalize parts : value.toModel.unpack = read at positive finite ⊢
  cases positive with
  | infinity => contradiction
  | finite positive narrow fine =>
      exact isPositive_reciprocal positive narrow (exponent_le_of_unpack parts)

theorem isPositive_ofUInt64 {number : UInt64} (positive : 0 < number.toNat) :
    IsPositive (Float.Model.ofUInt64 number).unpack := by
  apply IsPositive.unpack_pack
  have above : compare (number.toNat : Int) 0 = .gt := Int.compare_eq_gt.mpr (by omega)
  rw [UnpackedFloat.ofUInt64, UnpackedFloat.ofNat, UnpackedFloat.ofInt,
    UnpackedFloat.normalize, above]
  exact isPositive_round positive (by omega)

/-- A positive number without decimal places is positive however many digits it has. -/
theorem isPositive_ofScientific {number : Nat} (positive : 0 < number) :
    IsPositive (Float.Model.ofScientific number 0).unpack := by
  apply IsPositive.unpack_pack
  have large : ¬(0 : Int) > 2 ^ Format.exponentBits .binary64 := by decide
  have small : ¬(0 : Int) < -(2 ^ Format.exponentBits .binary64 + number.log2) := by
    change ¬(0 : Int) < -(2 ^ 11 + number.log2)
    omega
  have shifted : 0 < number <<< 53 := Nat.shiftLeft_pos_iff.mpr positive
  have product : UnpackedFloat.ofScientific .binary64 number 0 =
      roundWithAccuracy .binary64 .positive (number <<< 53 * 1) (-53 + 0) .exact := by
    rw [UnpackedFloat.ofScientific, dif_neg (Nat.ne_of_gt positive), if_neg large, if_neg small,
      if_pos (Int.le_refl 0)]
    rfl
  have widened := log2_add_le_log2_shiftLeft positive 53
  rw [product, Nat.mul_one]
  exact isPositive_roundWithAccuracy shifted (by omega) _

theorem isPositive_ofNat {number : Nat} (positive : 0 < number) :
    IsPositive (Float.ofNat number).toModel.unpack := by
  change IsPositive (Float.ofScientific number false 0).toModel.unpack
  unfold Float.ofScientific
  split
  · rename_i small
    -- A number that a double holds exactly is multiplied by the power `10 ^ 0`.
    change IsPositive
      (Float.Model.mul (Float.Model.ofUInt64 number.toUInt64) (1 : Float).toModel).unpack
    have kept : number.toUInt64.toNat = number := by
      apply UInt64.toNat_ofNat_of_lt'
      exact Nat.lt_trans small.1 (by decide)
    apply IsPositive.unpack_pack
    rw [unpack_one]
    apply IsPositive.mul (isPositive_ofUInt64 (by omega))
    decide
  · exact isPositive_ofScientific positive

/-- The double nearest to a positive whole number is positive, and so is one divided by it. -/
theorem zero_lt_one_div_of_nearestDouble
    {number : Int}
    {nearest : Float}
    (positive : 0 < number)
    (found : nearestDouble? number = some nearest) :
    0 < 1 / nearest := by
  have parts : IsPositive nearest.toModel.unpack ∧ nearest.isInf = false := by
    simp only [nearestDouble?] at found
    obtain ⟨natural, rfl⟩ := Int.eq_ofNat_of_zero_le (Int.le_of_lt positive)
    split at found
    · contradiction
    · rename_i bounded
      cases found
      exact ⟨isPositive_ofNat (by omega), by simpa using bounded⟩
  exact zero_lt_of_isPositive (isPositive_one_div parts.1 parts.2)

end Chip8
