import StructuralLint.Decimal.Binary
import StructuralLint.Proofs.Order
import Mathlib

/-!
# Counts against doubles

A rule compares a count with a threshold after it has made a double of the count.  Nothing is lost
on the way: a count below `2 ^ 53` is a double itself, and two doubles that are not negative compare
as the rational numbers that their bits stand for.  So the comparison of the doubles is the
comparison of the count with the exact value of the threshold.

Both halves go through the form in which doubles are compared: a significand of 53 bits, and an
exponent that is the least one only for the numbers that are too small for such a significand.  In
this form the exponents decide before the significands do.
-/

namespace StructuralLint.Decimal

open Float.Model Float.Model.UnpackedFloat

namespace Binary

/-- The number that a magnitude stands for. -/
def value (magnitude : Binary) : ℚ :=
  magnitude.significand * 2 ^ magnitude.exponent

/-- The magnitudes of doubles other than zero. -/
structure IsNormalized (magnitude : Binary) : Prop where
  positive : 0 < magnitude.significand
  below : magnitude.significand < 2 ^ 53
  lowest : -1074 ≤ magnitude.exponent
  full : -1074 < magnitude.exponent → 2 ^ 52 ≤ magnitude.significand

section Comparison

variable {left right : Binary}

theorem value_lt_of_exponent_lt
    (normalizedLeft : left.IsNormalized)
    (normalizedRight : right.IsNormalized)
    (lower : left.exponent < right.exponent) :
    left.value < right.value := by
  have full : (2 ^ 52 : ℚ) ≤ right.significand := by
    exact_mod_cast normalizedRight.full (normalizedLeft.lowest.trans_lt lower)
  have below : (left.significand : ℚ) < 2 ^ 53 := by
    exact_mod_cast normalizedLeft.below
  calc (left.significand : ℚ) * 2 ^ left.exponent
    _ < 2 ^ 53 * 2 ^ left.exponent := by gcongr
    _ = 2 ^ 52 * 2 ^ (left.exponent + 1) := by
      rw [zpow_add_one₀ two_ne_zero]
      ring
    _ ≤ 2 ^ 52 * 2 ^ right.exponent := by
      gcongr
      · exact one_le_two
      · omega
    _ ≤ right.significand * 2 ^ right.exponent := by gcongr

/-- Doubles compare as the numbers they stand for. -/
theorem isLE_compare_iff
    (normalizedLeft : left.IsNormalized)
    (normalizedRight : right.IsNormalized) :
    ((compare left.exponent right.exponent).then
        (compare left.significand right.significand)).isLE = true ↔
      left.value ≤ right.value := by
  rcases lt_trichotomy left.exponent right.exponent with lower | same | higher
  · have below := value_lt_of_exponent_lt normalizedLeft normalizedRight lower
    rw [compare_lt_iff_lt.mpr lower]
    exact iff_of_true rfl below.le
  · rw [same, compare_eq_iff_eq.mpr rfl, Ordering.eq_then, Nat.isLE_compare, value, value, same,
      mul_le_mul_iff_left₀ (by positivity), Nat.cast_le]
  · have above := value_lt_of_exponent_lt normalizedRight normalizedLeft higher
    rw [compare_gt_iff_gt.mpr higher]
    exact iff_of_false Bool.false_ne_true above.not_ge

end Comparison

/-- The magnitude of a count, with a significand of 53 bits. -/
def ofCount (count : Nat) : Binary :=
  { significand := count * 2 ^ (52 - count.log2), exponent := count.log2 - 52 }

section Counts

variable {count : Nat} (positive : 0 < count) (small : count < 2 ^ 53)

include positive

theorem full_ofCount : 2 ^ 52 ≤ (ofCount count).significand := by
  calc 2 ^ 52
    _ ≤ 2 ^ (count.log2 + (52 - count.log2)) := Nat.pow_le_pow_right two_pos (by omega)
    _ = 2 ^ count.log2 * 2 ^ (52 - count.log2) := Nat.pow_add ..
    _ ≤ count * 2 ^ (52 - count.log2) := by
      gcongr
      exact Nat.log2_self_le positive.ne'

include small

theorem log2_le_of_small : count.log2 ≤ 52 :=
  Nat.le_of_lt_succ ((Nat.log2_lt positive.ne').mpr small)

theorem below_ofCount : (ofCount count).significand < 2 ^ 53 := by
  have atMost := log2_le_of_small positive small
  calc count * 2 ^ (52 - count.log2)
    _ < 2 ^ (count.log2 + 1) * 2 ^ (52 - count.log2) := by
      gcongr
      exact Nat.lt_log2_self
    _ = 2 ^ (count.log2 + 1 + (52 - count.log2)) := (Nat.pow_add ..).symm
    _ = 2 ^ 53 := by
      congr 1
      omega

theorem isNormalized_ofCount : (ofCount count).IsNormalized where
  positive := two_pos.trans_le ((by decide : 2 ≤ 2 ^ 52).trans (full_ofCount positive))
  below := below_ofCount positive small
  lowest := show (-1074 : Int) ≤ count.log2 - 52 by omega
  full := fun _ => full_ofCount positive

theorem value_ofCount : (ofCount count).value = count := by
  have atMost := log2_le_of_small positive small
  have opposite : (count.log2 : Int) - 52 = -((52 - count.log2 : Nat) : Int) := by omega
  rw [value, ofCount, opposite]
  simp

end Counts

end Binary

/-! ## Rounding what is exact -/

section Exact

variable {significand : Nat} {exponent : Int}
variable (full : 2 ^ 52 ≤ significand) (below : significand < 2 ^ 53)

theorem repeat_shiftRightOne_mul_two_pow (significand steps : Nat) :
    Nat.repeat ExtendedMantissa.shiftRightOne steps ⟨significand * 2 ^ steps, false, false⟩ =
      ⟨significand, false, false⟩ := by
  induction steps generalizing significand with
  | zero => simp [Nat.repeat]
  | succ steps ih =>
      have earlier := ih (significand * 2)
      rw [Nat.repeat, Nat.pow_succ', ← Nat.mul_assoc, earlier]
      simp [ExtendedMantissa.shiftRightOne]

include full below

theorem log2_mul_two_pow (steps : Nat) : (significand * 2 ^ steps).log2 = 52 + steps := by
  have nonzero : significand * 2 ^ steps ≠ 0 := by positivity
  rw [Nat.log2_eq_iff nonzero]
  constructor
  · rw [Nat.pow_add]
    gcongr
  · rw [show 52 + steps + 1 = 53 + steps by omega, Nat.pow_add]
    gcongr

variable (lowest : -1074 ≤ exponent)

include lowest

theorem shiftToTargetExponent_mul_two_pow (steps : Nat) :
    shiftToTargetExponent .binary64 (significand * 2 ^ steps) (exponent - steps) .exact =
      (⟨significand, false, false⟩, exponent) := by
  have target :
      Format.binary64.targetExponent
          (totalExponent (significand * 2 ^ steps) (exponent - steps)) = exponent := by
    simp only [Format.targetExponent, totalExponent, log2_mul_two_pow full below,
      Format.mantissaBits, Format.minExponent]
    omega
  have amount : (exponent - (exponent - steps)).toNat = steps := by omega
  rw [shiftToTargetExponent, target, shiftToExponent, amount]
  refine Prod.ext (repeat_shiftRightOne_mul_two_pow significand steps) ?_
  show exponent - steps + steps = exponent
  omega

/-- Rounding only takes back a shift that lost nothing. -/
theorem roundWithAccuracy_mul_two_pow (sign : Sign) (steps : Nat) :
    roundWithAccuracy .binary64 sign (significand * 2 ^ steps) (exponent - steps) .exact =
      .finite sign significand exponent (two_pos.trans_le ((by decide : 2 ≤ 2 ^ 52).trans full)) :=
    by
  have again := shiftToTargetExponent_mul_two_pow full below lowest 0
  rw [Nat.pow_zero, Nat.mul_one, Nat.cast_zero, sub_zero] at again
  have nonzero : significand ≠ 0 := by omega
  simp only [roundWithAccuracy, shiftToTargetExponent_mul_two_pow full below lowest]
  simp [ExtendedMantissa.roundedMantissa, ExtendedMantissa.accuracy,
    Accuracy.roundToNearestEven, again, nonzero]

end Exact

/-! ## The bits of a double -/

section Bits

theorem toNat_unpackMantissa (bits : BitVec Format.binary64.numBits) :
    (unpackMantissa bits).toNat = bits.toNat % 2 ^ 52 := by
  simp [unpackMantissa, BitVec.extractLsb]

theorem toNat_unpackExponent (bits : BitVec Format.binary64.numBits) :
    (unpackExponent bits).toNat = bits.toNat / 2 ^ 52 % 2 ^ 11 := by
  simp [unpackExponent, BitVec.extractLsb, Nat.shiftRight_eq_div_pow]

theorem toNat_one_append {width : Nat} (vector : BitVec width) :
    (1#1 ++ vector).toNat = 2 ^ width + vector.toNat := by
  rw [BitVec.toNat_append, ← Nat.shiftLeft_add_eq_or_of_lt vector.isLt]
  simp [Nat.shiftLeft_eq]

theorem unpack_pack_finite
    {sign : Sign} {significand : Nat} {exponent : Int} {positive : 0 < significand}
    (full : 2 ^ 52 ≤ significand)
    (below : significand < 2 ^ 53)
    (lowest : -1074 ≤ exponent)
    (highest : exponent ≤ 971) :
    (Float.Model.pack (.finite sign significand exponent positive)).unpack =
      .finite sign significand exponent positive := by
  have log : significand.log2 = 52 := by simpa using log2_mul_two_pow full below 0
  have biased :
      (exponent + Format.binary64.exponentBias +
          Format.binary64.mantissaBitsWithoutImplicit).toNat = (exponent + 1075).toNat := by
    show (exponent + (2 ^ (11 - 1) - 1 : Nat) + (52 : Nat)).toNat = (exponent + 1075).toNat
    omega
  have field : (BitVec.ofNat 11 (exponent + 1075).toNat).toNat = (exponent + 1075).toNat := by
    rw [BitVec.toNat_ofNat]
    omega
  have fraction : (BitVec.ofNat 52 significand).toNat = significand - 2 ^ 52 := by
    rw [BitVec.toNat_ofNat]
    omega
  have notSpecial : BitVec.ofNat 11 (exponent + 1075).toNat ≠ -1#11 := by
    intro special
    have special := congrArg BitVec.toNat special
    rw [field] at special
    simp at special
    omega
  have notTiny : BitVec.ofNat 11 (exponent + 1075).toNat ≠ 0#11 := by
    intro tiny
    have tiny := congrArg BitVec.toNat tiny
    rw [field] at tiny
    simp at tiny
    omega
  have bias : ((Format.binary64.exponentBias : Nat) : Int) = 1023 := rfl
  show UnpackedFloat.unpack .binary64 (UnpackedFloat.pack .binary64 _) = _
  rw [UnpackedFloat.pack]
  simp only [log, biased]
  rw [if_neg (by omega), if_pos (by simp [Format.mantissaBits]), UnpackedFloat.unpack]
  simp only [unpackMantissa_packComponents, unpackExponent_packComponents,
    unpackSign_packComponents, Sign.ofBitVec_toBitVec]
  rw [if_neg notSpecial, if_neg notTiny]
  simp only [toNat_one_append, fraction, field, bias]
  simp
  omega

/-- A finite double is zero, or its parts are those of the magnitude that its bits stand for. -/
theorem unpack_eq_zero_or_finite {number : Float} (finite : number.isFinite = true) :
    (∃ sign,
        number.toModel.unpack = .zero sign ∧ (Binary.ofFloat number).significand = 0) ∨
      ∃ sign positive,
        number.toModel.unpack =
            .finite sign (Binary.ofFloat number).significand (Binary.ofFloat number).exponent
              positive ∧
          (Binary.ofFloat number).IsNormalized := by
  let bits : BitVec Format.binary64.numBits := number.toModel.toBits.toBitVec
  have fraction : (unpackMantissa bits).toNat = number.toBits.toNat % Nat.pow 2 52 :=
    toNat_unpackMantissa bits
  have scale : (unpackExponent bits).toNat = number.toBits.toNat / Nat.pow 2 52 % Nat.pow 2 11 :=
    toNat_unpackExponent bits
  have fractionBelow : (unpackMantissa bits).toNat < 2 ^ 52 := (unpackMantissa bits).isLt
  have bias : ((Format.binary64.exponentBias : Nat) : Int) = 1023 := rfl
  have notSpecial : unpackExponent bits ≠ -1#11 := by
    intro special
    have finite : (UnpackedFloat.unpack .binary64 bits).isFinite = true := finite
    rw [UnpackedFloat.unpack] at finite
    simp only [if_pos special] at finite
    split at finite <;> contradiction
  show (∃ sign, UnpackedFloat.unpack .binary64 bits = _ ∧ _) ∨
    ∃ sign positive, UnpackedFloat.unpack .binary64 bits = _ ∧ _
  simp only [UnpackedFloat.unpack, Binary.ofFloat, ← fraction, ← scale, if_neg notSpecial]
  by_cases tiny : unpackExponent bits = 0#11
  · have unscaled : (unpackExponent bits).toNat = 0 := by
      rw [tiny]
      rfl
    simp only [if_pos tiny, unscaled, beq_self_eq_true, if_true]
    by_cases zero : unpackMantissa bits = 0#52
    · left
      rw [dif_pos zero]
      exact ⟨_, rfl, by rw [zero]; rfl⟩
    · right
      have positive : 0 < (unpackMantissa bits).toNat := by
        simpa [BitVec.toNat_pos, BitVec.pos_iff_ne_zero] using zero
      rw [dif_neg zero]
      exact ⟨_, positive, rfl, positive, fractionBelow.trans (by decide), le_rfl,
        fun above => absurd above (lt_irrefl _)⟩
  · right
    have scaled : 0 < (unpackExponent bits).toNat := by
      simpa [BitVec.toNat_pos, BitVec.pos_iff_ne_zero] using tiny
    have unequal : ((unpackExponent bits).toNat == 0) = false := by
      simpa using scaled.ne'
    simp only [if_neg tiny, unequal, toNat_one_append, bias]
    refine ⟨_, Nat.add_pos_left (by decide) _, rfl, Nat.add_pos_left (by decide) _, ?_, ?_,
      fun _ => Nat.le_add_right _ _⟩
    · show 2 ^ 52 + (unpackMantissa bits).toNat < 2 ^ 53
      omega
    · show -1074 ≤ ((unpackExponent bits).toNat : Int) - 1075
      omega

end Bits

/-! ## The double of a count -/

section Counts

variable {count : Nat}

/-- A count becomes a double by a product with one, which is rounded like any product. -/
theorem unpack_ofNat_eq_mul_one (small : count < 2 ^ 53) :
    (Float.ofNat count).toModel.unpack =
      (Float.Model.pack
        (UnpackedFloat.mul .binary64
          (Float.Model.pack (UnpackedFloat.normalize .binary64 count 0 .positive)).unpack
          (.finite .positive (2 ^ 52) (-52) (by decide)))).unpack := by
  have word : count.toUInt64.toNat = count := by
    rw [Nat.toUInt64_eq, UInt64.toNat_ofNat_of_lt' (small.trans (by decide))]
  have one :
      (Float.ofBits 0x3FF0000000000000).toModel.unpack =
        .finite .positive (2 ^ 52) (-52) (by decide) := rfl
  have product :
      Float.ofNat count = count.toUInt64.toFloat * Float.ofBits 0x3FF0000000000000 := by
    show Float.ofScientific count false 0 = _
    rw [Float.ofScientific, dif_pos ⟨small, by decide⟩]
    rfl
  rw [product]
  show (Float.Model.pack
      (UnpackedFloat.mul .binary64
        (Float.Model.pack
          (UnpackedFloat.normalize .binary64 (count.toUInt64.toNat : Nat) 0 .positive)).unpack
        (Float.ofBits 0x3FF0000000000000).toModel.unpack)).unpack = _
  rw [one, word]

theorem unpack_ofNat_zero : (Float.ofNat 0).toModel.unpack = .zero .positive := by
  rw [unpack_ofNat_eq_mul_one (by decide)]
  rfl

variable (positive : 0 < count) (small : count < 2 ^ 53)

include positive small

theorem normalize_count :
    UnpackedFloat.normalize .binary64 count 0 .positive =
      .finite .positive (Binary.ofCount count).significand (Binary.ofCount count).exponent
        (Binary.isNormalized_ofCount positive small).positive := by
  have atMost := Binary.log2_le_of_small positive small
  have target : Format.binary64.targetExponent (totalExponent count 0) = count.log2 - 52 := by
    simp only [Format.targetExponent, totalExponent, Format.mantissaBits, Format.minExponent]
    omega
  have amount : (0 - ((count.log2 : Int) - 52)).toNat = 52 - count.log2 := by omega
  have lowered : (0 : Int) - ((52 - count.log2 : Nat) : Int) = count.log2 - 52 := by omega
  have compared : compare (count : Int) 0 = .gt := compare_gt_iff_gt.mpr (by omega)
  rw [UnpackedFloat.normalize, compared]
  simp only [UnpackedFloat.round, Int.toNat_natCast, target, decreaseExponent, amount,
    Nat.shiftLeft_eq, lowered]
  simpa [Binary.ofCount] using
    roundWithAccuracy_mul_two_pow (Binary.full_ofCount positive)
      (Binary.below_ofCount positive small) (Binary.isNormalized_ofCount positive small).lowest
      .positive 0

/-- The double of a count is the count. -/
theorem unpack_ofNat :
    (Float.ofNat count).toModel.unpack =
      .finite .positive (Binary.ofCount count).significand (Binary.ofCount count).exponent
        (Binary.isNormalized_ofCount positive small).positive := by
  have full := Binary.full_ofCount positive
  have below := Binary.below_ofCount positive small
  have lowest := (Binary.isNormalized_ofCount positive small).lowest
  have highest : (Binary.ofCount count).exponent ≤ 971 := by
    have atMost := Binary.log2_le_of_small positive small
    show (count.log2 : Int) - 52 ≤ 971
    omega
  rw [unpack_ofNat_eq_mul_one small, normalize_count positive small,
    unpack_pack_finite full below lowest highest, UnpackedFloat.mul]
  show (Float.Model.pack
      (roundWithAccuracy .binary64 .positive ((Binary.ofCount count).significand * 2 ^ 52)
        ((Binary.ofCount count).exponent - (52 : Nat)) .exact)).unpack = _
  rw [roundWithAccuracy_mul_two_pow full below lowest .positive 52,
    unpack_pack_finite full below lowest highest]

end Counts

/-! ## Comparison -/

/-- A double whose sign is negative is below zero, unless it is zero itself. -/
theorem lt_zero_of_unpack_eq_finite_negative
    {number : Float} {significand : Nat} {exponent : Int} {positive : 0 < significand}
    (parts : number.toModel.unpack = .finite .negative significand exponent positive) :
    number < 0 := by
  rw [lt_iff_compare_eq_lt, parts, show (0 : Float).toModel.unpack = _ from unpack_ofNat_zero]
  rfl

/--
The double of a count is at most a double that is not negative exactly when the count is at most
the number which that double stands for.
-/
theorem ofNat_le_iff
    {count : Nat} {limit : Float}
    (small : count < 2 ^ 53)
    (finite : limit.isFinite = true)
    (notNegative : ¬ limit < 0) :
    Float.ofNat count ≤ limit ↔ (count : ℚ) ≤ (Binary.ofFloat limit).value := by
  rw [le_iff_isLE_compare]
  rcases unpack_eq_zero_or_finite finite with
    ⟨sign, zero, none⟩ | ⟨_ | _, positive, parts, normalized⟩
  · have value : (Binary.ofFloat limit).value = 0 := by
      rw [Binary.value, none, Nat.cast_zero, zero_mul]
    rcases Nat.eq_zero_or_pos count with rfl | some
    · rw [unpack_ofNat_zero, zero, value]
      exact iff_of_true rfl Nat.cast_zero.le
    · rw [unpack_ofNat some small, zero, value]
      exact iff_of_false Bool.false_ne_true (Nat.cast_pos.mpr some).not_ge
  · exact absurd (lt_zero_of_unpack_eq_finite_negative parts) notNegative
  · rcases Nat.eq_zero_or_pos count with rfl | some
    · rw [unpack_ofNat_zero, parts, Nat.cast_zero]
      refine iff_of_true rfl ?_
      rw [Binary.value]
      positivity
    · rw [unpack_ofNat some small, parts, ← Binary.value_ofCount some small]
      exact Binary.isLE_compare_iff (Binary.isNormalized_ofCount some small) normalized

end StructuralLint.Decimal
