import Mathlib.Data.Nat.Log
import Mathlib.Data.Nat.Sqrt
import Mathlib.Tactic.Positivity
import Standardize.Proofs.Floating.Unpacked

/-!
Contract: the place of the leading digit of a rounded result.

Owns:
- the leading digits of products, quotients and roots of whole numbers;
- `Full`, positive numbers of 64 bits with all digits, by the places between which the
  leading one stands, which rounding moves by at most one;
- products, quotients and square roots of such numbers, and the patterns that keep them.

Does not own: the digits that follow the leading one.
-/

set_option autoImplicit false

namespace Standardize.Unpacked

open Float.Model Float.Model.UnpackedFloat

/-! ## Leading digits -/

theorem log2_eq_of_bounds
    {number place : Nat}
    (lower : 2 ^ place ≤ number)
    (upper : number < 2 ^ (place + 1)) :
    number.log2 = place := by
  have positive : number ≠ 0 := by
    have := Nat.two_pow_pos place
    omega
  exact (Nat.log2_eq_iff positive).2 ⟨lower, upper⟩

theorem log2_shiftLeft {number : Nat} (positive : 0 < number) (count : Nat) :
    (number <<< count).log2 = number.log2 + count := by
  have lower := Nat.log2_self_le positive.ne'
  have upper := Nat.lt_log2_self (n := number)
  apply log2_eq_of_bounds
  · rw [Nat.shiftLeft_eq, Nat.pow_add]
    gcongr
  · rw [Nat.shiftLeft_eq, Nat.add_right_comm, Nat.pow_add]
    gcongr

private theorem log2_div_pow (number count : Nat) :
    (number / 2 ^ count).log2 = number.log2 - count := by
  rw [Nat.log2_eq_log_two, Nat.log2_eq_log_two, Nat.log_div_base_pow]

private theorem log2_add_bounds (left right : Nat) :
    max left.log2 right.log2 ≤ (left + right).log2 ∧
      (left + right).log2 ≤ max left.log2 right.log2 + 1 := by
  constructor
  · simp only [Nat.log2_eq_log_two]
    exact max_le (Nat.log_mono_right (by omega)) (Nat.log_mono_right (by omega))
  · by_cases zero : left + right = 0
    · simp [zero]
    · have leftUpper := Nat.lt_log2_self (n := left)
      have rightUpper := Nat.lt_log2_self (n := right)
      have leftLonger : 2 ^ (left.log2 + 1) ≤ 2 ^ (max left.log2 right.log2 + 1) :=
        Nat.pow_le_pow_right (by decide) (by omega)
      have rightLonger : 2 ^ (right.log2 + 1) ≤ 2 ^ (max left.log2 right.log2 + 1) :=
        Nat.pow_le_pow_right (by decide) (by omega)
      rw [← Nat.lt_succ_iff, Nat.log2_lt zero, Nat.pow_succ]
      omega

private theorem log2_mul_bounds
    {left right : Nat}
    (leftPositive : 0 < left)
    (rightPositive : 0 < right) :
    left.log2 + right.log2 ≤ (left * right).log2 ∧
      (left * right).log2 ≤ left.log2 + right.log2 + 1 := by
  have positive : left * right ≠ 0 := (Nat.mul_pos leftPositive rightPositive).ne'
  constructor
  · rw [Nat.le_log2 positive, Nat.pow_add]
    exact Nat.mul_le_mul (Nat.log2_self_le leftPositive.ne') (Nat.log2_self_le rightPositive.ne')
  · rw [← Nat.lt_succ_iff, Nat.log2_lt positive,
      show (left.log2 + right.log2 + 1).succ = left.log2 + 1 + (right.log2 + 1) by omega,
      Nat.pow_add]
    exact Nat.mul_lt_mul'' Nat.lt_log2_self Nat.lt_log2_self

theorem log2_div_bounds
    {left right : Nat}
    (rightPositive : 0 < right)
    (longer : right.log2 < left.log2) :
    left.log2 ≤ (left / right).log2 + right.log2 + 1 ∧
      (left / right).log2 + right.log2 ≤ left.log2 := by
  obtain ⟨place, leftPlace⟩ : ∃ place, left.log2 = right.log2 + 1 + place :=
    ⟨left.log2 - (right.log2 + 1), by omega⟩
  have leftPositive : left ≠ 0 := by
    rintro rfl
    exact Nat.not_lt_zero _ longer
  have leftLower := Nat.log2_self_le leftPositive
  have leftUpper := Nat.lt_log2_self (n := left)
  have rightLower := Nat.log2_self_le rightPositive.ne'
  have rightUpper := Nat.lt_log2_self (n := right)
  have lower : 2 ^ place ≤ left / right := by
    rw [Nat.le_div_iff_mul_le rightPositive]
    calc 2 ^ place * right
        ≤ 2 ^ place * 2 ^ (right.log2 + 1) := Nat.mul_le_mul_left _ rightUpper.le
      _ = 2 ^ left.log2 := by rw [← Nat.pow_add, leftPlace, Nat.add_comm]
      _ ≤ left := leftLower
  have upper : left / right < 2 ^ (place + 2) := by
    rw [Nat.div_lt_iff_lt_mul rightPositive]
    calc left
        < 2 ^ (left.log2 + 1) := leftUpper
      _ = 2 ^ (place + 2) * 2 ^ right.log2 := by rw [← Nat.pow_add, leftPlace]; congr 1; omega
      _ ≤ 2 ^ (place + 2) * right := Nat.mul_le_mul_left _ rightLower
  have positive : left / right ≠ 0 := by
    have := Nat.two_pow_pos place
    omega
  have atLeast := (Nat.le_log2 positive).2 lower
  have below := (Nat.log2_lt positive).2 upper
  omega

private theorem log2_sqrt (number : Nat) : number.sqrt.log2 = number.log2 / 2 := by
  by_cases zero : number = 0
  · rw [zero]
    rfl
  · have lower := Nat.log2_self_le zero
    have upper := Nat.lt_log2_self (n := number)
    apply log2_eq_of_bounds
    · rw [Nat.le_sqrt', ← Nat.pow_mul]
      exact (Nat.pow_le_pow_right (by decide) (by omega)).trans lower
    · rw [Nat.sqrt_lt', ← Nat.pow_mul]
      exact upper.trans_le (Nat.pow_le_pow_right (by decide) (by omega))

/-! ## Rounding -/

/-- A positive number of 64 bits that has all digits, the leading one between two places. -/
inductive Full (low high : Int) : UnpackedFloat → Prop
  | intro
      {significand : Nat}
      {exponent : Int}
      {positive : 0 < significand}
      (whole : significand.log2 = 52)
      (lower : low ≤ 52 + exponent)
      (upper : 52 + exponent ≤ high) :
      Full low high (.finite .positive significand exponent positive)

theorem mantissa_ofMantissaAndAccuracy (significand : Nat) (accuracy : Accuracy) :
    (ExtendedMantissa.ofMantissaAndAccuracy significand accuracy).mantissa = significand := by
  cases accuracy with
  | exact => rfl
  | inexact side => cases side <;> rfl

theorem mantissa_shiftRight (extended : ExtendedMantissa) (count : Nat) :
    (extended >>> count).mantissa = extended.mantissa / 2 ^ count := by
  induction count with
  | zero => exact (Nat.div_one _).symm
  | succ count inductionHypothesis =>
      change (extended >>> count).mantissa / 2 = _
      rw [inductionHypothesis, Nat.div_div_eq_div_mul, Nat.pow_succ]

/-- Rounding to nearest keeps a significand or takes the next one. -/
theorem roundedMantissa_eq_or (extended : ExtendedMantissa) :
    extended.roundedMantissa = extended.mantissa ∨
      extended.roundedMantissa = extended.mantissa + 1 := by
  unfold ExtendedMantissa.roundedMantissa
  cases extended.accuracy with
  | exact => exact .inl rfl
  | inexact side =>
      cases side with
      | lt => exact .inl rfl
      | gt => exact .inr rfl
      | eq =>
          refine (Nat.mod_two_eq_zero_or_one extended.mantissa).imp ?_ ?_ <;> intro rest
          · exact congrArg (extended.mantissa + ·) rest
          · exact congrArg (extended.mantissa + ·) rest

private theorem mantissaBits_binary64 : Format.binary64.mantissaBits = 53 :=
  rfl

/-- Above the subnormal range, 53 digits are kept. -/
theorem targetExponent_of_normal
    {significand : Nat}
    {exponent : Int}
    (normal : -1022 ≤ significand.log2 + exponent) :
    Format.binary64.targetExponent (totalExponent significand exponent) =
      significand.log2 + exponent - 52 := by
  simp only [Format.targetExponent, totalExponent, mantissaBits_binary64, Format.minExponent]
  omega

/-- Digits are dropped until as many are left as are kept. -/
private theorem shiftToTargetExponent_of_long
    {significand : Nat}
    {exponent : Int}
    (long : 52 ≤ significand.log2)
    (normal : -1022 ≤ significand.log2 + exponent)
    (accuracy : Accuracy) :
    (shiftToTargetExponent Format.binary64 significand exponent accuracy).1.mantissa =
        significand / 2 ^ (significand.log2 - 52) ∧
      (shiftToTargetExponent Format.binary64 significand exponent accuracy).2 =
        significand.log2 + exponent - 52 := by
  have dropped : (significand.log2 + exponent - 52 - exponent).toNat = significand.log2 - 52 := by
    omega
  unfold shiftToTargetExponent shiftToExponent
  dsimp only
  rw [targetExponent_of_normal normal, dropped, mantissa_shiftRight, mantissa_ofMantissaAndAccuracy]
  exact ⟨rfl, by omega⟩

/-- Only a significand of ones has one digit more after it is rounded up. -/
private theorem log2_roundedMantissa
    {extended : ExtendedMantissa}
    (whole : extended.mantissa.log2 = 52) :
    extended.roundedMantissa.log2 = 52 ∨ extended.roundedMantissa.log2 = 53 := by
  have some : extended.mantissa ≠ 0 := by
    intro zero
    simp [zero] at whole
  have lower := Nat.log2_self_le some
  have upper := Nat.lt_log2_self (n := extended.mantissa)
  rw [whole] at lower upper
  rcases roundedMantissa_eq_or extended with same | next
  · rw [same]
    exact .inl whole
  · rw [next]
    by_cases ones : extended.mantissa + 1 < 2 ^ 53
    · exact .inl (log2_eq_of_bounds (by omega) ones)
    · exact .inr (log2_eq_of_bounds (by omega) (by omega))

/-- A number is shifted, rounded, and shifted again where rounding added a digit. -/
theorem roundWithAccuracy_of_shifts
    {format : Format}
    (sign : Sign)
    {significand : Nat}
    {exponent place last : Int}
    {accuracy : Accuracy}
    {shifted final : ExtendedMantissa}
    (first : shiftToTargetExponent format significand exponent accuracy = (shifted, place))
    (second : shiftToTargetExponent format shifted.roundedMantissa place .exact = (final, last)) :
    roundWithAccuracy format sign significand exponent accuracy =
      if none : final.mantissa = 0 then .zero sign
      else .finite sign final.mantissa last (Nat.pos_of_ne_zero none) := by
  unfold roundWithAccuracy
  rw [first]
  dsimp only
  rw [second]

/-- A rounded number keeps its sign, and is finite or zero. -/
theorem roundWithAccuracy_cases
    {format : Format}
    (sign : Sign)
    (significand : Nat)
    (exponent : Int)
    (accuracy : Accuracy) :
    roundWithAccuracy format sign significand exponent accuracy = .zero sign ∨
      ∃ digits place positive,
        roundWithAccuracy format sign significand exponent accuracy =
          .finite sign digits place positive := by
  rcases first : shiftToTargetExponent format significand exponent accuracy with ⟨shifted, place⟩
  rcases second : shiftToTargetExponent format shifted.roundedMantissa place .exact with
    ⟨final, last⟩
  rw [roundWithAccuracy_of_shifts sign first second]
  by_cases none : final.mantissa = 0
  · exact .inl (dif_pos none)
  · exact .inr ⟨_, _, _, dif_neg none⟩

/-- **Rounding moves the leading digit by at most one place.** -/
theorem full_roundWithAccuracy
    {significand : Nat}
    {exponent : Int}
    (long : 52 ≤ significand.log2)
    (normal : -1022 ≤ significand.log2 + exponent)
    (accuracy : Accuracy) :
    Full (significand.log2 + exponent) (significand.log2 + exponent + 1)
      (roundWithAccuracy Format.binary64 .positive significand exponent accuracy) := by
  have kept := shiftToTargetExponent_of_long long normal accuracy
  rcases first : shiftToTargetExponent Format.binary64 significand exponent accuracy with
    ⟨extended, place⟩
  rw [first] at kept
  obtain ⟨digits, rfl⟩ := kept
  have whole : extended.mantissa.log2 = 52 := by
    rw [digits, log2_div_pow]
    omega
  have grown := log2_roundedMantissa whole
  have stillLong : 52 ≤ extended.roundedMantissa.log2 := by omega
  have stillNormal :
      -1022 ≤ extended.roundedMantissa.log2 + (significand.log2 + exponent - 52) := by omega
  have last := shiftToTargetExponent_of_long stillLong stillNormal .exact
  rcases second : shiftToTargetExponent Format.binary64 extended.roundedMantissa
    (significand.log2 + exponent - 52) .exact with ⟨final, finalPlace⟩
  rw [second] at last
  obtain ⟨finalDigits, rfl⟩ := last
  have finalWhole : final.mantissa.log2 = 52 := by
    rw [finalDigits, log2_div_pow]
    omega
  have positive : final.mantissa ≠ 0 := by
    intro zero
    simp [zero] at finalWhole
  rw [roundWithAccuracy_of_shifts .positive first second, dif_neg positive]
  exact .intro finalWhole (by omega) (by omega)

/-- A number with few digits is given more before it is rounded. -/
theorem round_of_shift
    {sign : Sign}
    {significand added : Nat}
    {exponent : Int}
    (shifted :
      (exponent - Format.binary64.targetExponent (totalExponent significand exponent)).toNat =
        added) :
    UnpackedFloat.round Format.binary64 sign significand exponent =
      roundWithAccuracy Format.binary64 sign (significand <<< added) (exponent - added) .exact := by
  subst shifted
  rfl

theorem full_round
    {significand : Nat}
    {exponent : Int}
    (positive : 0 < significand)
    (normal : -1022 ≤ significand.log2 + exponent) :
    Full (significand.log2 + exponent) (significand.log2 + exponent + 1)
      (UnpackedFloat.round Format.binary64 .positive significand exponent) := by
  obtain ⟨added, addedEq⟩ :
      ∃ added : Nat, (exponent - (significand.log2 + exponent - 52)).toNat = added :=
    ⟨_, rfl⟩
  have digits := log2_shiftLeft positive added
  have rounded := full_roundWithAccuracy (by omega : 52 ≤ (significand <<< added).log2)
    (by omega : -1022 ≤ (significand <<< added).log2 + (exponent - added)) .exact
  have place : ((significand <<< added).log2 : Int) + (exponent - added) =
      significand.log2 + exponent := by
    omega
  rw [place] at rounded
  rw [round_of_shift (by rw [targetExponent_of_normal normal, addedEq])]
  exact rounded

theorem normalize_natCast
    (format : Format)
    {significand : Nat}
    (positive : 0 < significand)
    (exponent : Int)
    (zeroSign : Sign) :
    UnpackedFloat.normalize format significand exponent zeroSign =
      UnpackedFloat.round format .positive significand exponent := by
  have above : compare (significand : Int) 0 = .gt := Int.compare_eq_gt.2 (by omega)
  unfold UnpackedFloat.normalize
  rw [above]
  rfl

theorem Full.mono
    {low high lower higher : Int}
    {number : UnpackedFloat}
    (full : Full low high number)
    (below : lower ≤ low)
    (above : high ≤ higher) :
    Full lower higher number := by
  cases full with
  | intro whole lowest highest => exact .intro whole (below.trans lowest) (highest.trans above)

theorem Full.isFinite {low high : Int} {number : UnpackedFloat} (full : Full low high number) :
    number.isFinite = true := by
  cases full with
  | intro => rfl

/-- The leading digit of a power of two is its only one. -/
theorem full_power
    {number : UnpackedFloat}
    {exponent : Int}
    {positive : 0 < 2 ^ 52}
    (power : number = .finite .positive (2 ^ 52) exponent positive) :
    Full (52 + exponent) (52 + exponent) number := by
  rw [power]
  exact .intro Nat.log2_two_pow (le_refl _) (le_refl _)

/-! ## Patterns -/

/-- A number of either sign with all digits is kept by its pattern if there is an exponent
for it. -/
theorem unpack_pack_of_whole
    (sign : Sign)
    {significand : Nat}
    {exponent : Int}
    (positive : 0 < significand)
    (whole : significand.log2 = 52)
    (lower : -1074 ≤ exponent)
    (upper : exponent ≤ 971) :
    UnpackedFloat.unpack Format.binary64 (UnpackedFloat.pack Format.binary64
        (.finite sign significand exponent positive)) =
      .finite sign significand exponent positive := by
  obtain ⟨stored, rfl⟩ : ∃ stored : BitVec 11, exponent = stored.toNat - 1075 := by
    refine ⟨BitVec.ofNat 11 (exponent + 1075).toNat, ?_⟩
    rw [BitVec.toNat_ofNat, Nat.mod_eq_of_lt (by omega)]
    omega
  obtain ⟨fraction, rfl⟩ : ∃ fraction : BitVec 52, significand = (1#1 ++ fraction).toNat := by
    have least := Nat.log2_self_le positive.ne'
    have below := Nat.lt_log2_self (n := significand)
    rw [whole] at least below
    refine ⟨BitVec.ofNat 52 (significand - 2 ^ 52), ?_⟩
    rw [toNat_leading, BitVec.toNat_ofNat, Nat.mod_eq_of_lt (by omega)]
    omega
  have finite : stored ≠ -1#11 := by
    rintro rfl
    exact absurd upper (by decide)
  have some : stored ≠ 0#11 := by
    rintro rfl
    exact absurd lower (by decide)
  exact @unpack_pack_normal Format.binary64 sign stored fraction finite some positive

/-- The highest exponent is that of infinity. -/
theorem unpack_pack_of_high
    (sign : Sign)
    {significand : Nat}
    {exponent : Int}
    (positive : 0 < significand)
    (high : 971 < exponent) :
    UnpackedFloat.unpack Format.binary64 (UnpackedFloat.pack Format.binary64
        (.finite sign significand exponent positive)) =
      .infinity sign := by
  have packed : UnpackedFloat.pack Format.binary64 (.finite sign significand exponent positive) =
      packedInfinity _ sign := by
    unfold UnpackedFloat.pack
    dsimp only [Format.binary64, Format.exponentBias]
    rw [if_pos (by omega)]
  rw [packed]
  cases sign <;> rfl

/-- A number with all digits is kept by its pattern, unless its exponent is too high for
one. -/
theorem Full.unpack_pack
    {low high : Int}
    {number : UnpackedFloat}
    (full : Full low high number)
    (normal : -1022 ≤ low) :
    UnpackedFloat.unpack Format.binary64 (UnpackedFloat.pack Format.binary64 number) = number ∨
      1023 < high ∧
        UnpackedFloat.unpack Format.binary64 (UnpackedFloat.pack Format.binary64 number) =
          .infinity .positive := by
  cases full with
  | @intro significand exponent positive whole lower upper =>
      by_cases infinite : 971 < exponent
      · exact .inr ⟨by omega, unpack_pack_of_high .positive positive infinite⟩
      · exact .inl (unpack_pack_of_whole .positive positive whole (by omega) (by omega))

/-- A number of 64 bits as it is stored: with all digits, or with the lowest exponent. -/
structure Stored (significand : Nat) (exponent : Int) : Prop where
  short : significand < 2 ^ 53
  lowest : -1074 ≤ exponent
  whole : 2 ^ 52 ≤ significand ∨ exponent = -1074

/-- A pattern stands for a number as it is stored. -/
theorem stored_of_unpack
    {bits : BitVec Format.binary64.numBits}
    {sign : Sign}
    {significand : Nat}
    {exponent : Int}
    {positive : 0 < significand}
    (unpacked : UnpackedFloat.unpack Format.binary64 bits =
      .finite sign significand exponent positive) :
    Stored significand exponent ∧ exponent ≤ 971 := by
  have fractionLt : (unpackMantissa bits).toNat < 2 ^ 52 := (unpackMantissa bits).isLt
  unfold UnpackedFloat.unpack at unpacked
  dsimp only at unpacked
  by_cases special : unpackExponent bits = -1#_
  · rw [if_pos special] at unpacked
    by_cases infinite : unpackMantissa bits = 0#_
    · rw [if_pos infinite] at unpacked
      cases unpacked
    · rw [if_neg infinite] at unpacked
      cases unpacked
  rw [if_neg special] at unpacked
  have below : (unpackExponent bits).toNat + 1 < 2 ^ 11 := toNat_lt_of_ne_allOnes special
  by_cases subnormal : unpackExponent bits = 0#_
  · rw [if_pos subnormal] at unpacked
    by_cases zero : unpackMantissa bits = 0#_
    · rw [dif_pos zero] at unpacked
      cases unpacked
    · rw [dif_neg zero] at unpacked
      injection unpacked with signEq significandEq exponentEq
      have place : exponent = -1074 := by
        rw [← exponentEq, subnormal]
        rfl
      exact ⟨⟨by omega, by omega, .inr place⟩, by omega⟩
  · rw [if_neg subnormal] at unpacked
    injection unpacked with signEq significandEq exponentEq
    have above := BitVec.toNat_pos_of_ne_zero subnormal
    have leading : (1#1 ++ unpackMantissa bits).toNat = 2 ^ 52 + (unpackMantissa bits).toNat :=
      toNat_leading (unpackMantissa bits)
    have place : (unpackExponent bits).toNat - (1075 : Int) = exponent := exponentEq
    exact ⟨⟨by omega, by omega, .inl (by omega)⟩, by omega⟩

/-- The leading digit of a pattern stands between those of the smallest and the largest
number. -/
theorem log2_bounds_of_unpack
    {bits : BitVec Format.binary64.numBits}
    {sign : Sign}
    {significand : Nat}
    {exponent : Int}
    {positive : 0 < significand}
    (unpacked : UnpackedFloat.unpack Format.binary64 bits =
      .finite sign significand exponent positive) :
    -1074 ≤ significand.log2 + exponent ∧ significand.log2 + exponent ≤ 1023 := by
  obtain ⟨stored, highest⟩ := stored_of_unpack unpacked
  have digits := (Nat.log2_lt positive.ne').2 stored.short
  have lowest := stored.lowest
  omega

/-! ## Operations -/

theorem Full.add
    {low high otherLow otherHigh : Int}
    {left right : UnpackedFloat}
    (leftFull : Full low high left)
    (rightFull : Full otherLow otherHigh right)
    (normal : -1022 ≤ max low otherLow) :
    Full (max low otherLow) (max high otherHigh + 2) (left.add Format.binary64 right) := by
  cases leftFull with
  | @intro leftDigits leftExponent leftPositive leftWhole leftLower leftUpper =>
      cases rightFull with
      | @intro rightDigits rightExponent rightPositive rightWhole rightLower rightUpper =>
          obtain ⟨least, leastEq⟩ : ∃ least, min leftExponent rightExponent = least := ⟨_, rfl⟩
          have leftPlace := log2_shiftLeft leftPositive (leftExponent - least).toNat
          have rightPlace := log2_shiftLeft rightPositive (rightExponent - least).toNat
          obtain ⟨lower, upper⟩ := log2_add_bounds
            (leftDigits <<< (leftExponent - least).toNat)
            (rightDigits <<< (rightExponent - least).toNat)
          obtain ⟨digits, digitsEq⟩ : ∃ digits : Nat,
              leftDigits <<< (leftExponent - least).toNat +
                rightDigits <<< (rightExponent - least).toNat = digits := ⟨_, rfl⟩
          rw [digitsEq, leftPlace, rightPlace, leftWhole, rightWhole] at lower upper
          have positive : 0 < digits := by
            rw [← digitsEq, Nat.shiftLeft_eq]
            positivity
          have rounded := full_round positive (by omega : -1022 ≤ digits.log2 + least)
          have sum : UnpackedFloat.add Format.binary64
              (.finite .positive leftDigits leftExponent leftPositive)
              (.finite .positive rightDigits rightExponent rightPositive) =
              UnpackedFloat.round Format.binary64 .positive digits least := by
            rw [← normalize_natCast Format.binary64 positive least .positive, ← digitsEq,
              Nat.cast_add, ← leastEq]
            rfl
          rw [sum]
          exact rounded.mono (by omega) (by omega)

theorem Full.mul
    {low high otherLow otherHigh : Int}
    {left right : UnpackedFloat}
    (leftFull : Full low high left)
    (rightFull : Full otherLow otherHigh right)
    (normal : -1022 ≤ low + otherLow) :
    Full (low + otherLow) (high + otherHigh + 2) (left.mul Format.binary64 right) := by
  cases leftFull with
  | @intro leftDigits leftExponent leftPositive leftWhole leftLower leftUpper =>
      cases rightFull with
      | @intro rightDigits rightExponent rightPositive rightWhole rightLower rightUpper =>
          obtain ⟨lower, upper⟩ := log2_mul_bounds leftPositive rightPositive
          rw [leftWhole, rightWhole] at lower upper
          have rounded := full_roundWithAccuracy
            (by omega : 52 ≤ (leftDigits * rightDigits).log2)
            (by omega : -1022 ≤ (leftDigits * rightDigits).log2 + (leftExponent + rightExponent))
            .exact
          exact rounded.mono (by omega) (by omega)

/-- The dividend is shifted to a lower exponent before it is divided. -/
theorem div_of_target
    {sign otherSign : Sign}
    {significand otherSignificand shift : Nat}
    {exponent otherExponent target : Int}
    {positive : 0 < significand}
    {otherPositive : 0 < otherSignificand}
    (lowered :
      min (exponent - otherExponent) (Format.binary64.targetExponent
        (totalExponent significand exponent - totalExponent otherSignificand otherExponent)) =
        target)
    (shifted : (exponent - otherExponent - target).toNat = shift) :
    UnpackedFloat.div Format.binary64 (.finite sign significand exponent positive)
        (.finite otherSign otherSignificand otherExponent otherPositive) =
      roundWithAccuracy Format.binary64 (sign / otherSign)
        (significand <<< shift / otherSignificand) target
        (accuracyOfFraction (significand <<< shift % otherSignificand) otherSignificand) := by
  subst lowered shifted
  rfl

theorem Full.div
    {low high otherLow otherHigh : Int}
    {left right : UnpackedFloat}
    (leftFull : Full low high left)
    (rightFull : Full otherLow otherHigh right)
    (normal : -1021 ≤ low - otherHigh) :
    Full (low - otherHigh - 1) (high - otherLow + 1) (left.div Format.binary64 right) := by
  cases leftFull with
  | @intro leftDigits leftExponent leftPositive leftWhole leftLower leftUpper =>
      cases rightFull with
      | @intro rightDigits rightExponent rightPositive rightWhole rightLower rightUpper =>
          -- The dividend is given 53 digits, of which the quotient loses at most one.
          have target : min (leftExponent - rightExponent) (Format.binary64.targetExponent
              (totalExponent leftDigits leftExponent - totalExponent rightDigits rightExponent)) =
              leftExponent - rightExponent - 53 := by
            simp only [Format.targetExponent, totalExponent, leftWhole, rightWhole,
              mantissaBits_binary64, Format.minExponent]
            omega
          have shifted : (leftExponent - rightExponent -
              (leftExponent - rightExponent - 53)).toNat = 53 := by
            omega
          have dividend := log2_shiftLeft leftPositive 53
          obtain ⟨lower, upper⟩ := log2_div_bounds rightPositive
            (by omega : rightDigits.log2 < (leftDigits <<< 53).log2)
          rw [dividend, leftWhole, rightWhole] at lower upper
          have rounded := full_roundWithAccuracy
            (by omega : 52 ≤ (leftDigits <<< 53 / rightDigits).log2)
            (by omega : -1022 ≤
              (leftDigits <<< 53 / rightDigits).log2 + (leftExponent - rightExponent - 53))
            (accuracyOfFraction (leftDigits <<< 53 % rightDigits) rightDigits)
          rw [div_of_target target shifted]
          exact rounded.mono (by omega) (by omega)

/-- The leading digit of a root stands halfway to that of its square. -/
theorem full_sqrt
    {significand : Nat}
    {exponent : Int}
    (positive : 0 < significand)
    (lower : -1074 ≤ significand.log2 + exponent) :
    Full ((significand.log2 + exponent) / 2) ((significand.log2 + exponent) / 2 + 1)
      (UnpackedFloat.sqrt Format.binary64 (.finite .positive significand exponent positive)) := by
  obtain ⟨target, targetEq⟩ : ∃ target, min (exponent.ediv 2)
      (Format.binary64.targetExponent ((totalExponent significand exponent + 1).ediv 2)) = target :=
    ⟨_, rfl⟩
  have halves (number : Int) : number.ediv 2 = number / 2 := rfl
  -- Digits are added in pairs, so that half of their number is an exponent.
  have bounds : 2 * target ≤ exponent ∧ target ≤ (significand.log2 + exponent) / 2 - 52 := by
    rw [← targetEq]
    simp only [halves, Format.targetExponent, totalExponent, mantissaBits_binary64,
      Format.minExponent]
    omega
  have digits : ((significand <<< (exponent - 2 * target).toNat).sqrt.log2 : Int) =
      (significand.log2 + exponent) / 2 - target := by
    rw [log2_sqrt, log2_shiftLeft positive]
    omega
  have rounded := fun accuracy => full_roundWithAccuracy
    (by omega : 52 ≤ (significand <<< (exponent - 2 * target).toNat).sqrt.log2)
    (by omega : -1022 ≤ (significand <<< (exponent - 2 * target).toNat).sqrt.log2 + target)
    accuracy
  subst targetEq
  exact (rounded _).mono (by omega) (by omega)

end Standardize.Unpacked
