import Standardize.Proofs.Floating.Binary32
import Standardize.Proofs.Floating.Nearest

/-!
Contract: elements of 32 bits exchanged with integers of 32 bits.

Owns:
- the numbers of 64 bits that elements widen to, which are narrowed without loss;
- `Short` integers, which are among them;
- the integers that elements are rounded to, which are short apart from the largest;
- the exchange of an element with an integer, which a second one leaves as it is.

Does not own: the rounding of numbers that no element widens to.
-/

set_option autoImplicit false

namespace Standardize

namespace Binary32

open Float.Model

/-! ## Numbers that elements widen to -/

/-- Every cut of a finite pattern is that of an element. -/
theorem exists_fields_eq
    {fields : Fields}
    (finite : fields.exponent < specialExponent)
    (fractionLt : fields.fraction < 2 ^ 23) :
    ∃ value : Float32, Fields.ofBits value.toBits = fields := by
  unfold specialExponent at finite
  obtain ⟨bits, bitsEq⟩ : ∃ bits : UInt32, bits.toNat =
      fields.exponent * 2 ^ 23 + fields.fraction + if fields.negative then 2 ^ 31 else 0 := by
    refine ⟨.ofNat _, UInt32.toNat_ofNat_of_lt' ?_⟩
    change _ < 2 ^ 32
    split <;> omega
  have kept : (Float32.ofBits bits).toBits = bits := by
    apply toBits_ofBits
    rw [bitsEq]
    split <;> omega
  have exponentEq : (Fields.ofBits bits).exponent = fields.exponent := by
    rw [exponent_ofBits, bitsEq]
    split <;> omega
  have fractionEq : (Fields.ofBits bits).fraction = fields.fraction := by
    rw [fraction_ofBits, bitsEq]
    split <;> omega
  have negativeEq : (Fields.ofBits bits).negative = fields.negative := by
    rw [negative_ofBits, bitsEq]
    cases fields.negative with
    | false => exact decide_eq_false (by rw [if_neg Bool.false_ne_true]; omega)
    | true => exact decide_eq_true (Nat.le_add_left _ _)
  refine ⟨Float32.ofBits bits, ?_⟩
  rw [kept]
  cases fields
  cases cut : Fields.ofBits bits
  rw [cut] at exponentEq fractionEq negativeEq
  cases exponentEq
  cases fractionEq
  cases negativeEq
  rfl

/-- **Numbers with few digits are elements**, if their exponent is one of elements above the
subnormal range. -/
theorem exists_widen_eq
    {number : Float}
    (lower : 897 ≤ (Binary64.Fields.ofBits number.toBits).exponent)
    (upper : (Binary64.Fields.ofBits number.toBits).exponent ≤ 1150)
    (short : 2 ^ 29 ∣ (Binary64.Fields.ofBits number.toBits).fraction) :
    ∃ value : Float32, widen value = number := by
  have wideBits := Binary64.fields_toNat number.toBits
  have fractionLt := Binary64.fraction_lt number.toBits
  obtain ⟨wide, cut⟩ : ∃ wide, Binary64.Fields.ofBits number.toBits = wide := ⟨_, rfl⟩
  rw [cut] at wideBits fractionLt lower upper short
  obtain ⟨fraction, fractionEq⟩ := short
  obtain ⟨value, fields⟩ := @exists_fields_eq ⟨wide.negative, wide.exponent - 896, fraction⟩
    (by unfold specialExponent; dsimp only; omega) (by dsimp only; omega)
  have magnitude : Fields.widenedMagnitude ⟨wide.negative, wide.exponent - 896, fraction⟩ =
      wide.exponent * 2 ^ 52 + wide.fraction := by
    unfold Fields.widenedMagnitude specialExponent
    simp only [Nat.pow_eq]
    rw [if_neg (by omega), if_neg (by omega)]
    omega
  refine ⟨value, ?_⟩
  unfold widen
  dsimp only
  simp only [fields, magnitude, Nat.pow_eq]
  rw [wideBits, UInt64.ofNat_toNat]
  exact Binary64.pack_unpack number

/-! ## Short integers -/

/-- Whole numbers of at most 24 digits before their zeros. -/
def Short (number : Nat) : Prop :=
  ∃ digits place, digits < 2 ^ 24 ∧ number = digits * 2 ^ place

private theorem short_of_lt {number : Nat} (few : number < 2 ^ 24) : Short number :=
  ⟨number, 0, few, (Nat.mul_one number).symm⟩

/-- The digits of a short number leave room for zeros in the fraction. -/
theorem Short.dvd_mul_rest
    {number : Nat}
    (short : Short number)
    (positive : 0 < number)
    (few : number.log2 ≤ 52) :
    2 ^ 29 ∣ number * 2 ^ (52 - number.log2) := by
  obtain ⟨digits, place, digitsLt, rfl⟩ := short
  have digitsPos : 0 < digits := Nat.pos_of_mul_pos_right positive
  have leading : digits.log2 < 24 := (Nat.log2_lt digitsPos.ne').2 digitsLt
  rw [Unpacked.log2_mul_pow digitsPos] at few ⊢
  rw [Nat.mul_assoc, ← Nat.pow_add]
  exact (Nat.pow_dvd_pow 2 (by omega)).mul_left digits

/-- **Short integers are elements.** -/
theorem exists_widen_eq_ofInt32 {value : Int32} (short : Short value.toInt.natAbs) :
    ∃ element : Float32, widen element = IntegerStorage.ofInt32 value := by
  rcases Nat.eq_zero_or_pos value.toInt.natAbs with zero | nonzero
  · have isZero : value = 0 := Int32.toInt_inj.1 (Int.natAbs_eq_zero.1 zero)
    rw [isZero]
    exact ⟨0.0, by decide +kernel⟩
  · have lower := value.le_toInt
    have upper := value.toInt_lt
    have digits : value.toInt.natAbs.log2 < 32 := (Nat.log2_lt nonzero.ne').2 (by omega)
    have unpacked := Binary64.unpack_ofInt32 nonzero
    rw [Binary64.unpack_eq_unpacked] at unpacked
    obtain ⟨significand, exponent⟩ := Binary64.Fields.eq_of_unpacked unpacked
    have normal : (Binary64.Fields.ofBits (IntegerStorage.ofInt32 value : Float).toBits).exponent ≠
        0 := by
      omega
    have leading := Binary64.Fields.significand_of_normal normal
    have zeros := short.dvd_mul_rest nonzero (by omega)
    apply exists_widen_eq
    · omega
    · omega
    · omega

/-! ## Rounded elements -/

/-- Where an element has digits before the point, its fraction ends in zeros. -/
private theorem dvd_fraction_widen
    {value : Float32}
    (finite : value.isFinite = true)
    (above : 897 ≤ (Binary64.Fields.ofBits (widen value).toBits).exponent) :
    2 ^ 29 ∣ (Binary64.Fields.ofBits (widen value).toBits).fraction := by
  have belowSpecial := isFinite_iff.1 finite
  have fractionLt := fraction_lt value.toBits
  rw [exponent_widen finite] at above
  rw [fraction_widen finite]
  generalize Fields.ofBits value.toBits = fields at above belowSpecial fractionLt ⊢
  unfold Fields.widenedMagnitude at above ⊢
  rw [if_neg belowSpecial.ne] at above ⊢
  by_cases subnormal : fields.exponent = 0
  · rw [if_pos subnormal] at above ⊢
    by_cases zero : fields.fraction = 0
    · rw [if_pos zero]
      exact Nat.dvd_zero _
    · have leadLt : fields.fraction.log2 < 23 := (Nat.log2_lt zero).2 fractionLt
      have rest := sub_leading_mul_lt (show fields.fraction.log2 ≤ 52 by omega)
      -- The exponent of a subnormal element is at most 896.
      rw [if_neg zero] at above
      simp only [Nat.pow_eq] at above
      omega
  · rw [if_neg subnormal]
    simp only [Nat.pow_eq]
    omega

/-- A half that is added to short numbers is dropped again, or leaves few digits. -/
private theorem short_roundedMagnitude
    {wide : Binary64.Fields}
    (below : wide.exponent < 1075)
    (fractionLt : wide.fraction < 2 ^ 52)
    (few : 1046 ≤ wide.exponent → 2 ^ 29 ∣ wide.fraction) :
    Short wide.roundedMagnitude := by
  unfold Binary64.Fields.roundedMagnitude
  rw [if_neg (Nat.not_le.2 below)]
  simp only [Nat.pow_eq]
  by_cases small : wide.exponent < 1046
  · have significandLt : wide.significand < 2 ^ 53 := by
      unfold Binary64.Fields.significand
      simp only [Nat.pow_eq]
      split <;> omega
    obtain ⟨rest, restEq⟩ : ∃ rest, 1075 - max wide.exponent 1 = rest + 30 :=
      ⟨1075 - max wide.exponent 1 - 30, by omega⟩
    have some : 0 < 2 ^ rest := Nat.two_pow_pos rest
    -- Of 53 digits 30 or more come after the point, and a carry adds at most one.
    apply short_of_lt
    apply Nat.div_lt_of_lt_mul
    rw [restEq, Nat.pow_add, show rest + 30 - 1 = rest + 29 by omega, Nat.pow_add]
    omega
  · obtain ⟨rest, fractionEq⟩ := few (by omega)
    have leading := @Binary64.Fields.significand_of_normal wide (by omega)
    obtain ⟨shift, shiftEq⟩ : ∃ shift, 1075 - max wide.exponent 1 = shift + 1 :=
      ⟨1075 - max wide.exponent 1 - 1, by omega⟩
    have split : 2 ^ 29 = 2 ^ (28 - shift) * 2 ^ (shift + 1) := by
      rw [← Nat.pow_add]
      congr 1
      omega
    have digits : wide.significand = (2 ^ 23 + rest) * 2 ^ (28 - shift) * 2 ^ (shift + 1) := by
      rw [Nat.mul_assoc, ← split]
      omega
    have dropped : 2 ^ shift / 2 ^ (shift + 1) = 0 :=
      Nat.div_eq_of_lt (Nat.pow_lt_pow_right (by decide) (Nat.lt_succ_self shift))
    refine ⟨2 ^ 23 + rest, 28 - shift, by omega, ?_⟩
    rw [shiftEq, Nat.add_sub_cancel, digits, Nat.add_comm,
      Nat.add_mul_div_right _ _ (Nat.two_pow_pos _), dropped, Nat.zero_add]

/-- Only the upper end of the range is not short. -/
private theorem short_or_largest
    {wide : Binary64.Fields}
    (reached : Short wide.roundedMagnitude ∨ 2 ^ 31 ≤ wide.roundedMagnitude) :
    Short wide.nearestInt32.natAbs ∨ wide.nearestInt32 = 2 ^ 31 - 1 := by
  have ends : Short (2 ^ 31) := ⟨1, 31, by decide, by decide⟩
  unfold Binary64.Fields.nearestInt32
  simp only [Nat.pow_eq]
  by_cases notANumber : wide.exponent = Binary64.specialExponent ∧ wide.fraction ≠ 0
  · rw [if_pos notANumber]
    exact .inl (short_of_lt (by decide))
  rw [if_neg notANumber]
  cases wide.negative with
  | true =>
      rw [if_pos rfl, Int.natAbs_neg, Int.natAbs_natCast]
      rcases Nat.le_total wide.roundedMagnitude (2 ^ 31) with inside | outside
      · rw [Nat.min_eq_left inside]
        rcases reached with short | above
        · exact .inl short
        · exact .inl ((Nat.le_antisymm inside above).symm ▸ ends)
      · rw [Nat.min_eq_right outside]
        exact .inl ends
  | false =>
      rw [if_neg Bool.false_ne_true, Int.natAbs_natCast]
      rcases Nat.lt_or_ge wide.roundedMagnitude (2 ^ 31) with inside | outside
      · rw [Nat.min_eq_left (by omega)]
        exact .inl (reached.resolve_right (Nat.not_le.2 inside))
      · rw [Nat.min_eq_right (by omega)]
        exact .inr rfl

private theorem short_or_largest_of_isFinite {value : Float32} (finite : value.isFinite = true) :
    Short (IntegerStorage.toInt32 (widen value)).toInt.natAbs ∨
      (IntegerStorage.toInt32 (widen value)).toInt = 2 ^ 31 - 1 := by
  rw [Binary64.toInt_toInt32_eq_nearestInt32]
  apply short_or_largest
  by_cases below : (Binary64.Fields.ofBits (widen value).toBits).exponent < 1075
  · left
    apply short_roundedMagnitude below (Binary64.fraction_lt _)
    intro above
    exact dvd_fraction_widen finite (by omega)
  · right
    have above := Nat.not_lt.1 below
    have leading := @Binary64.Fields.significand_of_normal
      (Binary64.Fields.ofBits (widen value).toBits) (by omega)
    unfold Binary64.Fields.roundedMagnitude
    rw [if_pos above]
    omega

/-- **An element is rounded to a short integer** or to the largest one. -/
theorem short_or_largest_toInt32_widen (value : Float32) :
    Short (IntegerStorage.toInt32 (widen value)).toInt.natAbs ∨
      (IntegerStorage.toInt32 (widen value)).toInt = 2 ^ 31 - 1 := by
  rcases isFinite_or_special value with finite | rfl | ⟨sign, rfl⟩
  · exact short_or_largest_of_isFinite finite
  · exact .inl (short_of_lt (by decide +kernel))
  · cases sign with
    | negative => exact .inl ⟨1, 31, by decide, by decide +kernel⟩
    | positive => exact .inr (by decide +kernel)

/-! ## The exchange -/

/-- **A stored integer that is read as an element is stored as itself again.** The largest
one is read as the next power of two, which goes back to the end of the range. -/
theorem toInt32_widen_narrow (value : Float32) :
    IntegerStorage.toInt32
        (widen (narrow (IntegerStorage.ofInt32 (IntegerStorage.toInt32 (widen value))))) =
      IntegerStorage.toInt32 (widen value) := by
  rcases short_or_largest_toInt32_widen value with short | largest
  · obtain ⟨element, widened⟩ := exists_widen_eq_ofInt32 short
    rw [← widened, narrow_widen, widened, Binary64.toInt32_ofInt32]
  · have last : IntegerStorage.toInt32 (widen value) = Int32.ofInt (2 ^ 31 - 1) := by
      rw [← largest, Int32.ofInt_toInt]
    rw [last]
    decide +kernel

end Binary32

end Standardize
