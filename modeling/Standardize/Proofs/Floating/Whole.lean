import Standardize.Proofs.Floating.Signs

/-!
Contract: whole numbers in floating point.

Owns:
- rounding that drops nothing but zeros, which changes nothing;
- counts below `2 ^ 53` and integers of 32 bits as numbers of 64 bits, whose leading digit
  is moved to the place where patterns have it.

Does not own: counts that have more digits.
-/

set_option autoImplicit false

namespace Standardize

namespace Unpacked

open Float.Model Float.Model.UnpackedFloat

/-! ## Exact rounding -/

private theorem shiftRight_exact (significand count : Nat) :
    ExtendedMantissa.ofMantissaAndAccuracy (significand * 2 ^ count) .exact >>> count =
      ExtendedMantissa.ofMantissaAndAccuracy significand .exact := by
  induction count generalizing significand with
  | zero => rw [Nat.pow_zero, Nat.mul_one]; rfl
  | succ count inductionHypothesis =>
      -- The last of the zeros is what the last shift drops.
      have doubled := inductionHypothesis (significand * 2)
      rw [Nat.mul_assoc, ← Nat.pow_succ'] at doubled
      change (ExtendedMantissa.ofMantissaAndAccuracy _ .exact >>> count).shiftRightOne = _
      rw [doubled]
      simp [ExtendedMantissa.shiftRightOne, ExtendedMantissa.ofMantissaAndAccuracy]

theorem log2_mul_pow {significand : Nat} (positive : 0 < significand) (count : Nat) :
    (significand * 2 ^ count).log2 = significand.log2 + count := by
  rw [← Nat.shiftLeft_eq, log2_shiftLeft positive]

/-- A count of few digits is given the rest as zeros. -/
private theorem log2_mul_rest
    {count : Nat}
    (positive : 0 < count)
    (short : count < 2 ^ 53) :
    (count * 2 ^ (52 - count.log2)).log2 = 52 := by
  have digits : count.log2 < 53 := (Nat.log2_lt positive.ne').2 short
  rw [log2_mul_pow positive]
  omega

private theorem shiftToTargetExponent_exact
    {significand count : Nat}
    {exponent : Int}
    (whole : significand.log2 = 52)
    (normal : -1022 ≤ 52 + count + exponent) :
    shiftToTargetExponent Format.binary64 (significand * 2 ^ count) exponent .exact =
      (ExtendedMantissa.ofMantissaAndAccuracy significand .exact, exponent + count) := by
  have positive : 0 < significand := by
    rcases Nat.eq_zero_or_pos significand with rfl | positive
    · simp at whole
    · exact positive
  have digits := log2_mul_pow positive count
  rw [whole] at digits
  have dropped : (((significand * 2 ^ count).log2 : Int) + exponent - 52 - exponent).toNat =
      count := by
    omega
  unfold shiftToTargetExponent shiftToExponent
  rw [targetExponent_of_normal (by omega)]
  dsimp only
  rw [dropped, shiftRight_exact]

/-- **Zeros are dropped without loss.** -/
theorem roundWithAccuracy_exact
    (sign : Sign)
    {significand count : Nat}
    {exponent : Int}
    (whole : significand.log2 = 52)
    (normal : -1022 ≤ 52 + count + exponent)
    (positive : 0 < significand) :
    roundWithAccuracy Format.binary64 sign (significand * 2 ^ count) exponent .exact =
      .finite sign significand (exponent + count) positive := by
  have first := shiftToTargetExponent_exact whole normal
  have second := @shiftToTargetExponent_exact significand 0 (exponent + count) whole (by omega)
  rw [Nat.pow_zero, Nat.mul_one, Nat.cast_zero, Int.add_zero] at second
  rw [roundWithAccuracy_of_shifts sign first second]
  exact dif_neg positive.ne'

/-- **A number of few digits is not rounded.** -/
theorem round_exact
    (sign : Sign)
    {number : Nat}
    (positive : 0 < number)
    (short : number < 2 ^ 53) :
    UnpackedFloat.round Format.binary64 sign number 0 =
      .finite sign (number * 2 ^ (52 - number.log2)) (number.log2 - 52)
        (Nat.mul_pos positive (Nat.two_pow_pos _)) := by
  have digits : number.log2 < 53 := (Nat.log2_lt positive.ne').2 short
  have whole := log2_mul_rest positive short
  have added : ((0 : Int) - (number.log2 + 0 - 52)).toNat = 52 - number.log2 := by omega
  have exact := @roundWithAccuracy_exact sign _ 0 (number.log2 - 52) whole (by omega)
    (Nat.mul_pos positive (Nat.two_pow_pos _))
  rw [Nat.pow_zero, Nat.mul_one, Nat.cast_zero, Int.add_zero] at exact
  rw [round_of_shift (by rw [targetExponent_of_normal (by omega), added]), Nat.shiftLeft_eq,
    ← exact, show (0 : Int) - ((52 - number.log2 : Nat) : Int) = number.log2 - 52 by omega]

end Unpacked

namespace Binary64

open Float.Model Unpacked

/-! ## Counts and integers -/

theorem unpack_ofCount
    {count : Nat}
    (positive : 0 < count)
    (short : count < 2 ^ 53) :
    (Arithmetic.ofCount count : Float).toModel.unpack =
      .finite .positive (count * 2 ^ (52 - count.log2)) (count.log2 - 52)
        (Nat.mul_pos positive (Nat.two_pow_pos _)) := by
  have digits : count.log2 < 53 := (Nat.log2_lt positive.ne').2 short
  have whole := log2_mul_rest positive short
  have moved : 0 < count * 2 ^ (52 - count.log2) := Nat.mul_pos positive (Nat.two_pow_pos _)
  have same : count.toUInt64.toNat = count := Nat.mod_eq_of_lt (by omega)
  have converted : UnpackedFloat.ofNat Format.binary64 count =
      .finite .positive (count * 2 ^ (52 - count.log2)) (count.log2 - 52) moved :=
    (normalize_natCast Format.binary64 positive 0 .positive).trans
      (round_exact .positive positive short)
  have kept : (Float.Model.pack (.finite .positive (count * 2 ^ (52 - count.log2))
      (count.log2 - 52) moved)).unpack = _ :=
    unpack_pack_of_whole .positive moved whole (by omega) (by omega)
  have one : (Float.ofBits 0x3FF0000000000000).toModel.unpack =
      .finite .positive (2 ^ 52) (-52) (Nat.two_pow_pos 52) := rfl
  have product := @roundWithAccuracy_exact .positive _ 52 ((count.log2 : Int) - 52 + -52) whole
    (by omega) moved
  have place : (count.log2 : Int) - 52 + -52 + (52 : Nat) = count.log2 - 52 := by omega
  rw [unpack_ofCount_of_lt short, same, converted, kept, one]
  change (Float.Model.pack
    (UnpackedFloat.roundWithAccuracy Format.binary64 .positive _ _ _)).unpack = _
  rw [product, place]
  exact kept

/-- The sign of an integer; zero has that of the positive ones. -/
def signOf (number : Int) : UnpackedFloat.Sign :=
  if number < 0 then .negative else .positive

/-- **Integers of 32 bits are exact.** -/
theorem unpack_ofInt32 {value : Int32} (nonzero : 0 < value.toInt.natAbs) :
    (IntegerStorage.ofInt32 value : Float).toModel.unpack =
      .finite (signOf value.toInt) (value.toInt.natAbs * 2 ^ (52 - value.toInt.natAbs.log2))
        (value.toInt.natAbs.log2 - 52) (Nat.mul_pos nonzero (Nat.two_pow_pos _)) := by
  have lower := value.le_toInt
  have upper := value.toInt_lt
  change (Float.ofInt value.toInt).toModel.unpack = _
  generalize value.toInt = number at nonzero lower upper ⊢
  cases number with
  | ofNat count => exact unpack_ofCount nonzero (by omega)
  | negSucc count =>
      have some : 0 < count + 1 := Nat.succ_pos count
      have short : count + 1 < 2 ^ 53 := by omega
      have digits : (count + 1).log2 < 53 := (Nat.log2_lt some.ne').2 short
      have whole := log2_mul_rest some short
      have moved : 0 < (count + 1) * 2 ^ (52 - (count + 1).log2) :=
        Nat.mul_pos some (Nat.two_pow_pos _)
      have kept : (Float.Model.pack (.finite .negative ((count + 1) * 2 ^ (52 - (count + 1).log2))
          ((count + 1).log2 - 52) moved)).unpack = _ :=
        unpack_pack_of_whole .negative moved whole (by omega) (by omega)
      change (Float.Model.pack
        (Arithmetic.ofCount (count + 1) : Float).toModel.unpack.neg).unpack = _
      have sign : signOf (Int.negSucc count) = .negative := if_pos (Int.negSucc_lt_zero count)
      rw [unpack_ofCount some short, sign]
      exact kept

end Binary64

end Standardize
