import Mathlib
import Chip8.Number.Binary64

/-!
# Equal doubles

Two doubles are equal when they have the same parts or both are zero, and a double
that is no number equals none. So a number that is divided by one of two equal
doubles has the same quotient by the other, unless it is divided by zero. A
quotient is no number only if one is divided by what is no number.
-/

namespace Chip8

open Float.Model Float.Model.UnpackedFloat

/-! ## Comparing -/

/-- Parts that compare as equal are the same, unless both are those of a zero. -/
theorem eq_of_compare
    {left right : UnpackedFloat}
    (same : left.compare right = some .eq) :
    left = right ∨ ∃ sign other, left = .zero sign ∧ right = .zero other := by
  unfold UnpackedFloat.compare at same
  -- What is left are two infinities, two zeros, and two finite numbers of either sign.
  split at same <;> try contradiction
  case h_3 sign other =>
      left
      cases sign <;> cases other <;> first | rfl | contradiction
  case h_12 sign other => exact .inr ⟨sign, other, rfl, rfl⟩
  case h_13 =>
      left
      simp only [Option.some.injEq, Ordering.swap_eq_eq, Ordering.then_eq_eq,
        Int.compare_eq_eq, Nat.compare_eq_eq] at same
      obtain ⟨rfl, rfl⟩ := same
      rfl
  case h_16 =>
      left
      simp only [Option.some.injEq, Ordering.then_eq_eq, Int.compare_eq_eq,
        Nat.compare_eq_eq] at same
      obtain ⟨rfl, rfl⟩ := same
      rfl

theorem compare_self {parts : UnpackedFloat} (number : parts.isNaN = false) :
    parts.compare parts = some .eq := by
  cases parts with
  | notANumber => contradiction
  | infinity sign => cases sign <;> rfl
  | zero sign => rfl
  | finite sign mantissa exponent positive =>
      cases sign <;> simp [UnpackedFloat.compare, Ordering.swap]

variable {value other : Float}

theorem beq_iff_compare :
    (value == other) = true ↔
      value.toModel.unpack.compare other.toModel.unpack = some .eq := by
  change (value.toModel.unpack.compare other.toModel.unpack == some .eq) = true ↔ _
  rw [beq_iff_eq]

/-- A double equals itself if it is a number. -/
theorem beq_self_of_number (number : value.isNaN = false) : (value == value) = true :=
  beq_iff_compare.mpr (compare_self number)

/-- Equal doubles have the same parts, unless they are zero. -/
theorem unpack_eq_of_beq
    (same : (value == other) = true)
    (nonzero : (other == 0) = false) :
    value.toModel.unpack = other.toModel.unpack := by
  rcases eq_of_compare (beq_iff_compare.mp same) with equal | ⟨_, sign, _, zero⟩
  · exact equal
  · have vanishes : (other == 0) = true := by
      rw [beq_iff_compare, zero]
      rfl
    rw [vanishes] at nonzero
    contradiction

/-- Of equal doubles both are zero or none is. -/
theorem beq_zero_eq_of_beq (same : (value == other) = true) : (value == 0) = (other == 0) := by
  change UnpackedFloat.beq value.toModel.unpack _ = UnpackedFloat.beq other.toModel.unpack _
  rcases eq_of_compare (beq_iff_compare.mp same) with equal | ⟨_, _, left, right⟩
  · rw [equal]
  · rw [left, right]
    rfl

/-- Equal doubles that are not zero divide alike. -/
theorem div_eq_of_beq
    (dividend : Float)
    (same : (value == other) = true)
    (nonzero : (other == 0) = false) :
    dividend / value = dividend / other := by
  change Float.ofModel (pack (UnpackedFloat.div .binary64 _ value.toModel.unpack)) =
    Float.ofModel (pack (UnpackedFloat.div .binary64 _ other.toModel.unpack))
  rw [unpack_eq_of_beq same nonzero]

/-! ## What is no number -/

/-- The bits of no number: the highest exponent, and some bit after it. -/
theorem isNaN_unpack_iff {word : BitVec 64} :
    (UnpackedFloat.unpack .binary64 word).isNaN = true ↔
      @unpackExponent .binary64 word = -1#11 ∧ @unpackMantissa .binary64 word ≠ 0#52 := by
  simp only [UnpackedFloat.unpack]
  split
  · rename_i highest
    split <;> simp [UnpackedFloat.isNaN, *]
  · rename_i finite
    simp only [finite, false_and, iff_false, Bool.not_eq_true]
    split
    · split <;> rfl
    · rfl

/-- A double stands for no number exactly where it is none. -/
theorem ofFloat_eq_notANumber_iff :
    Magnitude.ofFloat value = .notANumber ↔ value.isNaN = true := by
  change _ ↔ (UnpackedFloat.unpack .binary64 value.toBits.toBitVec).isNaN = true
  rw [isNaN_unpack_iff, ne_eq, ← BitVec.toNat_inj (y := -1#11), ← BitVec.toNat_inj (y := 0#52)]
  have exponent : (@unpackExponent .binary64 value.toBits.toBitVec).toNat =
      value.toBits.toNat % Magnitude.signBit / Magnitude.exponentUnit := by
    simp only [unpackExponent, Magnitude.signBit, Magnitude.exponentUnit, BitVec.extractLsb,
      BitVec.toNat_cast, BitVec.extractLsb'_toNat, UInt64.toNat_toBitVec, Nat.shiftRight_eq_div_pow]
    omega
  have mantissa : (@unpackMantissa .binary64 value.toBits.toBitVec).toNat =
      value.toBits.toNat % Magnitude.exponentUnit := by
    simp [unpackMantissa, Magnitude.exponentUnit, BitVec.extractLsb]
  rw [exponent, mantissa]
  change _ ↔ _ = Magnitude.exponentLimit ∧ ¬_ = 0
  unfold Magnitude.ofFloat
  dsimp only
  split
  · split <;> simp [*]
  · rename_i finite
    refine iff_of_false ?_ fun highest => finite highest.1
    split <;> simp

/-- What is packed is read back as no number only if it was none. -/
theorem isNaN_unpack_pack (parts : UnpackedFloat) :
    (pack parts).unpack.isNaN = parts.isNaN := by
  have finite : ∀ {sign biased fraction}, biased ≠ -1#11 ->
      (UnpackedFloat.unpack .binary64 (packComponents .binary64 sign biased fraction)).isNaN =
        false := by
    intro sign biased fraction notHighest
    rw [Bool.eq_false_iff, ne_eq, isNaN_unpack_iff, unpackExponent_packComponents]
    exact fun highest => notHighest highest.1
  change (UnpackedFloat.unpack .binary64 (UnpackedFloat.pack .binary64 parts)).isNaN = _
  fun_cases UnpackedFloat.pack .binary64 parts with
  | case1 => rfl
  | case2 sign | case3 sign | case4 sign => cases sign <;> rfl
  | case5 sign mantissa exponent positive bits biased fits normal =>
      apply finite
      intro highest
      have field : biased % 2 ^ 11 = 2047 := congrArg BitVec.toNat highest
      simp only [Nat.not_le] at fits
      omega
  | case6 sign => exact finite (by decide)

/-- A finite number divided by what is not zero is a number exactly where that is. -/
theorem isNaN_div
    {dividend : Float}
    (finite : dividend.toModel.unpack.isFinite = true)
    (nonzero : (value == 0) = false) :
    (dividend / value).isNaN = value.isNaN := by
  change (pack (UnpackedFloat.div .binary64 dividend.toModel.unpack
    value.toModel.unpack)).unpack.isNaN = value.toModel.unpack.isNaN
  change UnpackedFloat.beq value.toModel.unpack _ = false at nonzero
  rw [isNaN_unpack_pack]
  generalize value.toModel.unpack = divisor at nonzero ⊢
  generalize dividend.toModel.unpack = parts at finite ⊢
  cases divisor with
  | notANumber => cases parts <;> rfl
  | infinity sign => cases parts <;> first | rfl | contradiction
  | zero sign => contradiction
  | finite sign mantissa exponent positive =>
      cases parts with
      | zero other => rfl
      | finite other =>
          simp only [UnpackedFloat.div, roundWithAccuracy]
          split <;> rfl
      | notANumber | infinity other => contradiction

end Chip8
