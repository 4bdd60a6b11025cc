import Mathlib.Algebra.Order.Field.Power
import Mathlib.Data.Rat.Floor
import Mathlib.Tactic.FieldSimp
import Mathlib.Tactic.Ring
import Standardize.Proofs.Floating.Whole

/-!
Contract: numbers of 64 bits rounded to integers of 32 bits.

Owns:
- the number that the cut of a pattern stands for;
- the nearest integer, halves going away from zero, with what lies outside the range at
  its ends and what is not a number at zero;
- integers of 32 bits, which are rounded to themselves.

Does not own: elements of 32 bits.
-/

set_option autoImplicit false

namespace Standardize

namespace Unpacked

open Float.Model

/-! ## The nearest integer -/

/-- The nearest integer, halves going away from zero. -/
def awayFromZero (number : ℚ) : ℤ :=
  if number < 0 then -round (-number) else round number

/-- What lies outside the range of 32 bits goes to its ends. -/
def saturated (number : ℤ) : ℤ :=
  max (-2 ^ 31) (min number (2 ^ 31 - 1))

/-- The integer of 32 bits that a number is stored as; zero for what is not a number. -/
def nearestInteger : UnpackedFloat → ℤ
  | .notANumber => 0
  | .infinity .negative => -2 ^ 31
  | .infinity .positive => 2 ^ 31 - 1
  | .zero _ => 0
  | .finite sign significand exponent _ =>
      saturated (awayFromZero (sign.apply significand * 2 ^ exponent))

private theorem awayFromZero_of_nonneg {number : ℚ} (nonneg : 0 ≤ number) :
    awayFromZero number = round number :=
  if_neg nonneg.not_gt

private theorem awayFromZero_neg {number : ℚ} (positive : 0 < number) :
    awayFromZero (-number) = -round number := by
  unfold awayFromZero
  rw [if_pos (neg_neg_of_pos positive), neg_neg]

private theorem nearestInteger_of_positive
    {significand : Nat}
    (positive : 0 < significand)
    (exponent : ℤ) :
    nearestInteger (.finite .positive significand exponent positive) =
      saturated (round ((significand : ℚ) * 2 ^ exponent)) := by
  have nonneg : (0 : ℚ) ≤ significand * 2 ^ exponent := by positivity
  rw [← awayFromZero_of_nonneg nonneg]
  rfl

private theorem nearestInteger_of_negative
    {significand : Nat}
    (positive : 0 < significand)
    (exponent : ℤ) :
    nearestInteger (.finite .negative significand exponent positive) =
      saturated (-round ((significand : ℚ) * 2 ^ exponent)) := by
  have above : (0 : ℚ) < significand * 2 ^ exponent := by positivity
  have negated : ((UnpackedFloat.Sign.negative.apply significand : ℤ) : ℚ) * 2 ^ exponent =
      -(significand * 2 ^ exponent) := by
    change ((-significand : ℤ) : ℚ) * _ = _
    push_cast
    ring
  unfold nearestInteger
  dsimp only
  rw [negated, awayFromZero_neg above]

private theorem saturated_of_int32 (value : Int32) : saturated value.toInt = value.toInt := by
  have lower := value.le_toInt
  have upper := value.toInt_lt
  unfold saturated
  omega

private theorem nearestInteger_bounds (number : UnpackedFloat) :
    -2 ^ 31 ≤ nearestInteger number ∧ nearestInteger number < 2 ^ 31 := by
  cases number with
  | notANumber => exact ⟨by decide, by decide⟩
  | infinity sign => cases sign <;> exact ⟨by decide, by decide⟩
  | zero sign =>
      change -2 ^ 31 ≤ (0 : ℤ) ∧ (0 : ℤ) < 2 ^ 31
      omega
  | finite sign significand exponent positive =>
      unfold nearestInteger saturated
      dsimp only
      omega

/-- Digits after the point are rounded by adding a half and dropping them. -/
private theorem round_div_pow (significand shift : Nat) :
    round ((significand : ℚ) / 2 ^ (shift + 1)) =
      ((significand + 2 ^ shift) / 2 ^ (shift + 1) : Nat) := by
  have half : (significand : ℚ) / 2 ^ (shift + 1) + 1 / 2 =
      ((significand + 2 ^ shift : Nat) : ℚ) / ((2 ^ (shift + 1) : Nat) : ℚ) := by
    push_cast
    field_simp
    ring
  rw [round_eq, half, Rat.floor_natCast_div_natCast]
  exact (Int.natCast_ediv _ _).symm

end Unpacked

namespace Binary64

open Float.Model Unpacked

/-! ## The cut of a pattern -/

def Fields.sign (fields : Fields) : UnpackedFloat.Sign :=
  if fields.negative then .negative else .positive

/-- The number that a cut stands for. The lowest exponent is that of subnormal numbers,
which stand where the next one does. -/
def Fields.unpacked (fields : Fields) : UnpackedFloat :=
  if fields.exponent = specialExponent then
    if fields.fraction = 0 then .infinity fields.sign else .notANumber
  else if positive : 0 < fields.significand then
    .finite fields.sign fields.significand (max fields.exponent 1 - 1075) positive
  else .zero fields.sign

private theorem sign_ofBits (bits : UInt64) :
    (Fields.ofBits bits).sign =
      .ofBitVec (@UnpackedFloat.unpackSign Format.binary64 bits.toBitVec) := by
  have bitsLt := bits.toNat_lt
  have place := @toNat_unpackSign Format.binary64 bits.toBitVec
  have zeroIff : @UnpackedFloat.unpackSign Format.binary64 bits.toBitVec = 0#1 ↔
      bits.toNat < 2 ^ 63 := by
    rw [← BitVec.toNat_inj, place]
    change bits.toNat / 2 ^ 63 % 2 = 0 ↔ _
    omega
  unfold Fields.sign UnpackedFloat.Sign.ofBitVec
  rw [negative_ofBits]
  by_cases low : bits.toNat < 2 ^ 63
  · rw [if_pos (zeroIff.2 low), decide_eq_false (Nat.not_le.2 low), if_neg Bool.false_ne_true]
  · rw [if_neg (mt zeroIff.1 low), decide_eq_true (Nat.not_lt.1 low), if_pos rfl]

section Cut

variable {fields : Fields}

theorem Fields.significand_of_subnormal (subnormal : fields.exponent = 0) :
    fields.significand = fields.fraction :=
  if_pos subnormal

theorem Fields.significand_of_normal (normal : fields.exponent ≠ 0) :
    fields.significand = 2 ^ 52 + fields.fraction :=
  if_neg normal

theorem Fields.unpacked_of_pos
    (finite : fields.exponent ≠ specialExponent)
    (positive : 0 < fields.significand) :
    fields.unpacked =
      .finite fields.sign fields.significand (max fields.exponent 1 - 1075) positive := by
  unfold Fields.unpacked
  rw [if_neg finite, dif_pos positive]

/-- A finite number other than zero has one cut. -/
theorem Fields.eq_of_unpacked
    {sign : UnpackedFloat.Sign}
    {significand : Nat}
    {exponent : ℤ}
    {positive : 0 < significand}
    (unpacked : fields.unpacked = .finite sign significand exponent positive) :
    fields.significand = significand ∧ ((max fields.exponent 1 : Nat) : ℤ) = exponent + 1075 := by
  by_cases special : fields.exponent = specialExponent
  · unfold Fields.unpacked at unpacked
    rw [if_pos special] at unpacked
    by_cases infinite : fields.fraction = 0
    · rw [if_pos infinite] at unpacked
      cases unpacked
    · rw [if_neg infinite] at unpacked
      cases unpacked
  by_cases some : 0 < fields.significand
  · rw [Fields.unpacked_of_pos special some] at unpacked
    injection unpacked with signEq significandEq exponentEq
    exact ⟨significandEq, by omega⟩
  · unfold Fields.unpacked at unpacked
    rw [if_neg special, dif_neg some] at unpacked
    cases unpacked

end Cut

/-- **A number is what its pattern is cut into.** -/
theorem unpack_eq_unpacked (number : Float) :
    number.toModel.unpack = (Fields.ofBits number.toBits).unpacked := by
  obtain ⟨fields, cut⟩ : ∃ fields, Fields.ofBits number.toBits = fields := ⟨_, rfl⟩
  have signEq := sign_ofBits number.toBits
  have exponentEq : (Fields.ofBits number.toBits).exponent =
      (@UnpackedFloat.unpackExponent Format.binary64 number.toBits.toBitVec).toNat :=
    (exponent_ofBits _).trans (@toNat_unpackExponent Format.binary64 _).symm
  have fractionEq : (Fields.ofBits number.toBits).fraction =
      (@UnpackedFloat.unpackMantissa Format.binary64 number.toBits.toBitVec).toNat :=
    (fraction_ofBits _).trans (@toNat_unpackMantissa Format.binary64 _).symm
  rw [cut] at signEq exponentEq fractionEq ⊢
  have special : @UnpackedFloat.unpackExponent Format.binary64 number.toBits.toBitVec = -1#_ ↔
      fields.exponent = specialExponent := by
    rw [exponentEq, ← BitVec.toNat_inj]
    rfl
  have lowest : @UnpackedFloat.unpackExponent Format.binary64 number.toBits.toBitVec = 0#_ ↔
      fields.exponent = 0 := by
    rw [exponentEq, ← BitVec.toNat_inj]
    rfl
  have zero : @UnpackedFloat.unpackMantissa Format.binary64 number.toBits.toBitVec = 0#_ ↔
      fields.fraction = 0 := by
    rw [fractionEq, ← BitVec.toNat_inj]
    rfl
  change ofParts (.ofBitVec (@UnpackedFloat.unpackSign Format.binary64 number.toBits.toBitVec))
    (@UnpackedFloat.unpackExponent Format.binary64 number.toBits.toBitVec)
    (@UnpackedFloat.unpackMantissa Format.binary64 number.toBits.toBitVec) = _
  rw [← signEq]
  unfold ofParts
  -- The exponent tells first the special patterns and then the subnormal ones from the rest.
  by_cases infinite : fields.exponent = specialExponent
  · rw [if_pos (special.2 infinite)]
    unfold Fields.unpacked
    rw [if_pos infinite]
    exact if_congr zero rfl rfl
  rw [if_neg (mt special.1 infinite)]
  by_cases subnormal : fields.exponent = 0
  · have significand := Fields.significand_of_subnormal subnormal
    rw [if_pos (lowest.2 subnormal)]
    by_cases none : fields.fraction = 0
    · rw [dif_pos (zero.2 none)]
      unfold Fields.unpacked
      rw [if_neg infinite, dif_neg (by omega)]
    · rw [dif_neg (mt zero.1 none), Fields.unpacked_of_pos infinite (by omega),
        UnpackedFloat.finite.injEq, ← exponentEq, ← fractionEq, significand, subnormal]
      exact ⟨rfl, rfl, rfl⟩
  · have significand := Fields.significand_of_normal subnormal
    have place : max fields.exponent 1 = fields.exponent := by omega
    rw [if_neg (mt lowest.1 subnormal), Fields.unpacked_of_pos infinite (by omega),
      UnpackedFloat.finite.injEq, toNat_leading, ← exponentEq, ← fractionEq, significand, place]
    exact ⟨rfl, rfl, rfl⟩

/-! ## Stored integers -/

section Rounding

variable {fields : Fields}

/-- The magnitude of a finite number. -/
def Fields.magnitude (fields : Fields) : ℚ :=
  fields.significand * 2 ^ ((max fields.exponent 1 : Nat) - 1075 : ℤ)

theorem Fields.roundedMagnitude_of_lt (below : fields.exponent < 1075) :
    (fields.roundedMagnitude : ℤ) = round fields.magnitude := by
  obtain ⟨shift, shiftEq⟩ : ∃ shift, 1075 - max fields.exponent 1 = shift + 1 :=
    ⟨1075 - max fields.exponent 1 - 1, by omega⟩
  have place : ((max fields.exponent 1 : Nat) - 1075 : ℤ) = -((shift + 1 : Nat) : ℤ) := by omega
  unfold Fields.roundedMagnitude Fields.magnitude
  rw [if_neg (Nat.not_le.2 below), place, zpow_neg, zpow_natCast, ← div_eq_mul_inv,
    round_div_pow]
  simp only [shiftEq, Nat.pow_eq, Nat.add_sub_cancel]

/-- Numbers beyond the digits of a significand are whole, and none of them is below the
significand. -/
theorem Fields.le_round_magnitude (above : 1075 ≤ fields.exponent) :
    (fields.significand : ℤ) ≤ round fields.magnitude := by
  obtain ⟨shift, shiftEq⟩ : ∃ shift, max fields.exponent 1 = 1075 + shift :=
    ⟨max fields.exponent 1 - 1075, by omega⟩
  have place : ((max fields.exponent 1 : Nat) - 1075 : ℤ) = (shift : ℤ) := by omega
  have whole : fields.magnitude = ((fields.significand * 2 ^ shift : Nat) : ℚ) := by
    unfold Fields.magnitude
    rw [place, zpow_natCast]
    push_cast
    rfl
  rw [whole, round_natCast]
  exact Int.ofNat_le.2 (Nat.le_mul_of_pos_right _ (Nat.two_pow_pos shift))

/-- Up to a bound that is low enough, the significand may stand for a whole number. -/
theorem Fields.min_roundedMagnitude {bound : Nat} (low : bound ≤ 2 ^ 52) :
    ((min fields.roundedMagnitude bound : Nat) : ℤ) = min (round fields.magnitude) bound := by
  by_cases below : fields.exponent < 1075
  · rw [← Fields.roundedMagnitude_of_lt below]
    exact Nat.cast_min _ _
  · have above := Nat.not_lt.1 below
    have least := Fields.le_round_magnitude above
    -- Both are at least `2 ^ 52`, so that the bound is the minimum on either side.
    have leading := @Fields.significand_of_normal fields (by omega)
    have stands : fields.roundedMagnitude = fields.significand := if_pos above
    rw [stands]
    omega

theorem Fields.nearestInt32_of_finite (finite : fields.exponent ≠ specialExponent) :
    fields.nearestInt32 =
      saturated (if fields.negative then -round fields.magnitude else round fields.magnitude) := by
  have nonneg : 0 ≤ round fields.magnitude := by
    unfold Fields.magnitude
    rw [round_eq]
    positivity
  unfold Fields.nearestInt32 saturated
  rw [if_neg fun special => finite special.1]
  cases fields.negative with
  | true =>
      have low := @Fields.min_roundedMagnitude fields (Nat.pow 2 31) (by decide)
      rw [if_pos rfl, if_pos rfl, low]
      simp only [Nat.pow_eq]
      omega
  | false =>
      have low := @Fields.min_roundedMagnitude fields (Nat.pow 2 31 - 1) (by decide)
      rw [if_neg Bool.false_ne_true, if_neg Bool.false_ne_true, low]
      simp only [Nat.pow_eq]
      omega

/-- **The rounding of a pattern** is that of the number it stands for. -/
theorem Fields.nearestInt32_eq : fields.nearestInt32 = nearestInteger fields.unpacked := by
  by_cases special : fields.exponent = specialExponent
  · unfold Fields.nearestInt32 Fields.unpacked
    rw [if_pos special]
    by_cases infinite : fields.fraction = 0
    · have stands : fields.roundedMagnitude = 2 ^ 52 := by
        unfold Fields.roundedMagnitude
        rw [if_pos (by rw [special]; decide),
          Fields.significand_of_normal (by rw [special]; decide), infinite, Nat.add_zero]
      rw [if_neg fun notANumber => notANumber.2 infinite, if_pos infinite, stands]
      unfold Fields.sign
      cases fields.negative <;> rfl
    · rw [if_pos ⟨special, infinite⟩, if_neg infinite]
      rfl
  rw [Fields.nearestInt32_of_finite special]
  by_cases positive : 0 < fields.significand
  · rw [Fields.unpacked_of_pos special positive]
    unfold Fields.sign
    cases fields.negative with
    | true => exact (nearestInteger_of_negative positive _).symm
    | false => exact (nearestInteger_of_positive positive _).symm
  · have none : fields.magnitude = 0 := by
      unfold Fields.magnitude
      rw [Nat.eq_zero_of_not_pos positive, Nat.cast_zero, zero_mul]
    unfold Fields.unpacked
    rw [if_neg special, dif_neg positive, none, round_zero, neg_zero, ite_self]
    rfl

end Rounding

theorem toInt_toInt32_eq_nearestInt32 (number : Float) :
    (IntegerStorage.toInt32 number).toInt = (Fields.ofBits number.toBits).nearestInt32 := by
  obtain ⟨lower, upper⟩ := nearestInteger_bounds (Fields.ofBits number.toBits).unpacked
  rw [← Fields.nearestInt32_eq] at lower upper
  exact Int32.toInt_ofInt_of_le lower upper

/-- **What a number is stored as** is the nearest integer of the range. -/
theorem toInt_toInt32 (number : Float) :
    (IntegerStorage.toInt32 number).toInt = nearestInteger number.toModel.unpack := by
  rw [toInt_toInt32_eq_nearestInt32, Fields.nearestInt32_eq, unpack_eq_unpacked]

/-- The zeros that a count is given do not change it. -/
theorem count_mul_rest {count : Nat} (short : count.log2 ≤ 52) :
    ((count * 2 ^ (52 - count.log2) : Nat) : ℚ) * 2 ^ ((count.log2 : ℤ) - 52) = count := by
  have place : (count.log2 : ℤ) - 52 = -((52 - count.log2 : Nat) : ℤ) := by omega
  rw [place, zpow_neg, zpow_natCast]
  push_cast
  field_simp

/-- **An integer is rounded to itself.** -/
theorem toInt32_ofInt32 (value : Int32) :
    IntegerStorage.toInt32 (IntegerStorage.ofInt32 value : Float) = value := by
  rw [← Int32.toInt_inj, toInt_toInt32]
  rcases Nat.eq_zero_or_pos value.toInt.natAbs with zero | nonzero
  · have isZero : value = 0 := by
      rw [← Int32.toInt_inj]
      exact Int.natAbs_eq_zero.1 zero
    rw [isZero]
    rfl
  · have lower := value.le_toInt
    have upper := value.toInt_lt
    have digits : value.toInt.natAbs.log2 < 53 :=
      (Nat.log2_lt nonzero.ne').2 (by omega)
    have kept := saturated_of_int32 value
    rw [unpack_ofInt32 nonzero]
    unfold signOf
    by_cases below : value.toInt < 0
    · rw [if_pos below, nearestInteger_of_negative, count_mul_rest (by omega), round_natCast]
      exact (congrArg saturated (by omega)).trans kept
    · rw [if_neg below, nearestInteger_of_positive, count_mul_rest (by omega), round_natCast]
      exact (congrArg saturated (by omega)).trans kept

end Binary64

end Standardize
