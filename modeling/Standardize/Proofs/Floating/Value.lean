import Standardize.Proofs.Floating.Representable

/-!
Contract: floating-point numbers as the rational numbers they are.

Owns:
- the rational number that a finite number is, and that numbers of one value are equal;
- `Rounded`, what an operation makes of an exact result: the sum, the difference, the product and
  the quotient of stored numbers;
- the pattern of such a result, which keeps it unless it is too large.

Does not own: numbers as patterns, whose operations are those on numbers that were unpacked.
-/

set_option autoImplicit false

namespace Standardize.Unpacked

open Float.Model Float.Model.UnpackedFloat

/-! ## Values -/

def signed : Sign → ℚ → ℚ
  | .negative, magnitude => -magnitude
  | .positive, magnitude => magnitude

theorem signed_zero (sign : Sign) : signed sign 0 = 0 := by
  cases sign with
  | negative => exact neg_zero
  | positive => rfl

private theorem abs_signed (sign : Sign) {magnitude : ℚ} (nonneg : 0 ≤ magnitude) :
    |signed sign magnitude| = magnitude := by
  cases sign with
  | negative => exact (abs_neg _).trans (abs_of_nonneg nonneg)
  | positive => exact abs_of_nonneg nonneg

/-- The rational number that a finite number is; zero for what is not finite. -/
def value : UnpackedFloat → ℚ
  | .finite sign significand exponent _ => signed sign (significand * 2 ^ exponent)
  | _ => 0

private theorem value_negative_lt_zero
    (significand : Nat)
    (exponent : Int)
    (positive : 0 < significand) :
    value (.finite .negative significand exponent positive) < 0 := by
  have magnitude : (0 : ℚ) < significand * 2 ^ exponent := by positivity
  exact neg_neg_of_pos magnitude

private theorem rounds_signed (sign : Sign) {exact rounded : ℚ} (rounds : Rounds exact rounded) :
    Rounds (signed sign exact) (signed sign rounded) := by
  cases sign with
  | negative => exact rounds.neg
  | positive => exact rounds

/-- Zero, or a finite number as it is stored, also where its exponent is too high for a
pattern. -/
inductive Storable : UnpackedFloat → Prop
  | zero (sign : Sign) : Storable (.zero sign)
  | finite
      {sign : Sign}
      {significand : Nat}
      {exponent : Int}
      {positive : 0 < significand}
      (stored : Stored significand exponent) :
      Storable (.finite sign significand exponent positive)

/-- What an operation makes of an exact result. -/
structure Rounded (exact : ℚ) (number : UnpackedFloat) : Prop where
  storable : Storable number
  rounds : Rounds exact (value number)

theorem Storable.representable {number : UnpackedFloat} (storable : Storable number) :
    Representable (value number) := by
  cases storable with
  | zero sign => exact representable_zero
  | @finite sign significand exponent positive stored =>
      have magnitude := representable_mul_two_zpow stored.short.le stored.lowest
      cases sign with
      | negative => exact magnitude.neg
      | positive => exact magnitude

theorem Storable.rounded {number : UnpackedFloat} (storable : Storable number) :
    Rounded (value number) number :=
  ⟨storable, .of_representable storable.representable⟩

/-! ## Rounding -/

/-- The first shift leaves 53 digits, or stops at the lowest place. -/
private theorem exists_shift
    {significand : Nat}
    {exponent : Int}
    (long : 52 ≤ significand.log2 ∨ exponent ≤ -1074)
    (accuracy : Accuracy) :
    ∃ count : Nat,
      shiftToTargetExponent Format.binary64 significand exponent accuracy =
          (ExtendedMantissa.ofMantissaAndAccuracy significand accuracy >>> count,
            exponent + count) ∧
        significand.log2 ≤ 52 + count ∧ -1074 ≤ exponent + count ∧
        (exponent + count = -1074 ∨ significand.log2 = 52 + count) := by
  have target : Format.binary64.targetExponent (totalExponent significand exponent) =
      max (significand.log2 + 1 + exponent - 53) (-1074) := rfl
  refine ⟨(Format.binary64.targetExponent (totalExponent significand exponent) -
    exponent).toNat, rfl, ?_⟩
  rw [target]
  omega

/-- After a number is rounded to 53 digits at most, the second shift drops a zero or nothing. -/
private theorem exists_second_shift
    {significand : Nat}
    {exponent : Int}
    (short : significand ≤ 2 ^ 53)
    (lowest : -1074 ≤ exponent)
    (whole : 2 ^ 52 ≤ significand ∨ exponent = -1074) :
    ∃ final last,
      shiftToTargetExponent Format.binary64 significand exponent .exact = (final, last) ∧
        Stored final.mantissa last ∧
        (final.mantissa : ℚ) * 2 ^ last = significand * 2 ^ exponent := by
  have long : 52 ≤ significand.log2 ∨ exponent ≤ -1074 := by
    rcases whole with leading | subnormal
    · exact .inl ((Nat.le_log2 (by omega)).2 leading)
    · exact .inr subnormal.le
  obtain ⟨count, shifted, digits, -, leading⟩ := exists_shift long .exact
  refine ⟨_, _, shifted, ?_⟩
  rw [mantissa_shiftRight, mantissa_ofMantissaAndAccuracy]
  rcases short.lt_or_eq with below | full
  · have few : significand.log2 < 53 := by
      by_cases zero : significand = 0
      · rw [zero]
        decide
      · exact (Nat.log2_lt zero).2 below
    obtain rfl : count = 0 := by omega
    rw [Nat.pow_zero, Nat.div_one, Nat.cast_zero, Int.add_zero]
    exact ⟨⟨below, lowest, whole⟩, rfl⟩
  · have many : significand.log2 = 53 := by rw [full, Nat.log2_two_pow]
    obtain rfl : count = 1 := by omega
    have half : significand / 2 ^ 1 = 2 ^ 52 := by omega
    rw [half]
    refine ⟨⟨by decide, by omega, .inl le_rfl⟩, ?_⟩
    rw [full, Nat.cast_one, zpow_add_one₀ two_ne_zero]
    push_cast
    ring

private theorem div_two_pow_lt {significand count : Nat} (digits : significand.log2 ≤ 52 + count) :
    significand / 2 ^ count < 2 ^ 53 := by
  rw [Nat.div_lt_iff_lt_mul (Nat.two_pow_pos count), ← Nat.pow_add]
  exact Nat.lt_log2_self.trans_le (Nat.pow_le_pow_right (by decide) (by omega))

private theorem leading_mul_le {significand count : Nat} (normal : significand.log2 = 52 + count) :
    2 ^ 52 * 2 ^ count ≤ significand := by
  rw [← Nat.pow_add, ← normal]
  apply Nat.log2_self_le
  rintro rfl
  rw [Nat.log2_zero] at normal
  omega

/-- The digits that the first shift leaves are rounded by the bits behind them. -/
private theorem rounds_roundedMantissa
    {significand count : Nat}
    {exponent : Int}
    {accuracy : Accuracy}
    {exact : ℚ}
    {extended : ExtendedMantissa}
    (located : Locates (ExtendedMantissa.ofMantissaAndAccuracy significand accuracy) exact)
    (shifted : ExtendedMantissa.ofMantissaAndAccuracy significand accuracy >>> count = extended)
    (digits : significand.log2 ≤ 52 + count)
    (lowest : -1074 ≤ exponent + count)
    (leading : exponent + count = -1074 ∨ significand.log2 = 52 + count) :
    extended.roundedMantissa ≤ 2 ^ 53 ∧
      (2 ^ 52 ≤ extended.roundedMantissa ∨ exponent + count = -1074) ∧
      Rounds (exact * 2 ^ exponent) (extended.roundedMantissa * 2 ^ (exponent + count)) := by
  have kept : extended.mantissa = significand / 2 ^ count := by
    rw [← shifted, mantissa_shiftRight, mantissa_ofMantissaAndAccuracy]
  have fits := div_two_pow_lt digits
  have next := roundedMantissa_eq_or extended
  have short : extended.roundedMantissa ≤ 2 ^ 53 := by omega
  refine ⟨short, leading.symm.imp_left fun normal => ?_, rounds_of_half short lowest ?_ ?_⟩
  · have many := (Nat.le_div_iff_mul_le (Nat.two_pow_pos count)).2 (leading_mul_le normal)
    omega
  · -- Half a unit of the digits that are left is half a unit at their place.
    have half := (located.shiftRight count).half_of_rounded
    rw [shifted] at half
    have unit : (0 : ℚ) < 2 ^ (exponent + count) := by positivity
    have scaled : exact * 2 ^ exponent = exact / 2 ^ count * 2 ^ (exponent + count) := by
      rw [zpow_add₀ two_ne_zero, zpow_natCast]
      field_simp
    rw [scaled, ← sub_mul, abs_mul, abs_of_pos unit]
    linarith [mul_le_mul_of_nonneg_right half unit.le]
  · refine leading.imp_right fun normal => ?_
    have many : (2 : ℚ) ^ 52 * 2 ^ count ≤ exact := by
      refine le_trans ?_ located.lower
      rw [mantissa_ofMantissaAndAccuracy]
      exact_mod_cast leading_mul_le normal
    calc (2 : ℚ) ^ 52 * 2 ^ (exponent + count)
        = 2 ^ 52 * 2 ^ count * 2 ^ exponent := by
          rw [zpow_add₀ two_ne_zero, zpow_natCast]
          ring
      _ ≤ exact * 2 ^ exponent := by gcongr

/-- **Rounding takes a nearest number.** -/
theorem rounded_roundWithAccuracy
    (sign : Sign)
    {significand : Nat}
    {exponent : Int}
    {accuracy : Accuracy}
    {exact : ℚ}
    (located : Locates (ExtendedMantissa.ofMantissaAndAccuracy significand accuracy) exact)
    (long : 52 ≤ significand.log2 ∨ exponent ≤ -1074) :
    Rounded (signed sign (exact * 2 ^ exponent))
      (roundWithAccuracy Format.binary64 sign significand exponent accuracy) := by
  obtain ⟨count, first, digits, lowest, leading⟩ := exists_shift long accuracy
  generalize shifted : ExtendedMantissa.ofMantissaAndAccuracy significand accuracy >>> count =
    extended at first
  obtain ⟨short, whole, nearest⟩ := rounds_roundedMantissa located shifted digits lowest leading
  obtain ⟨final, last, second, stored, same⟩ := exists_second_shift short lowest whole
  rw [roundWithAccuracy_of_shifts sign first second]
  have rounds := rounds_signed sign nearest
  rw [← same] at rounds
  by_cases none : final.mantissa = 0
  · rw [dif_pos none]
    rw [none, Nat.cast_zero, zero_mul, signed_zero] at rounds
    exact ⟨.zero sign, rounds⟩
  · rw [dif_neg none]
    exact ⟨.finite stored, rounds⟩

private theorem rounded_round
    (sign : Sign)
    {significand : Nat}
    (positive : 0 < significand)
    (exponent : Int) :
    Rounded (signed sign (significand * 2 ^ exponent))
      (UnpackedFloat.round Format.binary64 sign significand exponent) := by
  have target : Format.binary64.targetExponent (totalExponent significand exponent) =
      max (significand.log2 + 1 + exponent - 53) (-1074) := rfl
  obtain ⟨added, addedEq⟩ : ∃ added, (exponent -
      Format.binary64.targetExponent (totalExponent significand exponent)).toNat = added := ⟨_, rfl⟩
  have digits := log2_shiftLeft positive added
  rw [round_of_shift addedEq]
  rw [target] at addedEq
  have rounded := rounded_roundWithAccuracy sign (locates_exact (significand <<< added))
    (by omega : 52 ≤ (significand <<< added).log2 ∨ exponent - added ≤ -1074)
  have same : ((significand <<< added : Nat) : ℚ) * 2 ^ (exponent - added) =
      significand * 2 ^ exponent := by
    rw [Nat.shiftLeft_eq, zpow_sub₀ two_ne_zero, zpow_natCast]
    push_cast
    field_simp
  rwa [same] at rounded

private theorem rounded_normalize (number exponent : Int) (zeroSign : Sign) :
    Rounded (number * 2 ^ exponent)
      (UnpackedFloat.normalize Format.binary64 number exponent zeroSign) := by
  rcases lt_trichotomy number 0 with negative | rfl | positive
  · obtain ⟨magnitude, rfl⟩ : ∃ magnitude : Nat, number = -magnitude :=
      ⟨number.natAbs, by omega⟩
    have rounded := rounded_round .negative (by omega : 0 < magnitude) exponent
    have same : UnpackedFloat.normalize Format.binary64 (-magnitude) exponent zeroSign =
        UnpackedFloat.round Format.binary64 .negative magnitude exponent := by
      unfold UnpackedFloat.normalize
      rw [Int.compare_eq_lt.2 negative]
      simp only [Int.neg_neg, Int.toNat_natCast]
    rw [same, Int.cast_neg, Int.cast_natCast, neg_mul]
    exact rounded
  · rw [Int.cast_zero, zero_mul]
    exact (Storable.zero zeroSign).rounded
  · obtain ⟨magnitude, rfl⟩ := Int.eq_ofNat_of_zero_le positive.le
    rw [normalize_natCast Format.binary64 (by omega), Int.cast_natCast]
    exact rounded_round .positive (by omega) exponent

/-! ## Operations -/

private theorem signed_mul_signed (left right : Sign) (magnitude other : ℚ) :
    signed left magnitude * signed right other = signed (left * right) (magnitude * other) := by
  cases left <;> cases right
  · exact neg_mul_neg _ _
  · exact neg_mul _ _
  · exact mul_neg _ _
  · rfl

private theorem signed_div_signed (left right : Sign) (magnitude other : ℚ) :
    signed left magnitude / signed right other = signed (left / right) (magnitude / other) := by
  cases left <;> cases right
  · exact neg_div_neg_eq _ _
  · exact neg_div _ _
  · exact div_neg _
  · rfl

/-- A product has the digits of a factor that has all of them, or is below the lowest place. -/
theorem Stored.long_mul
    {significand otherSignificand : Nat}
    {exponent otherExponent : Int}
    (stored : Stored significand exponent)
    (positive : 0 < significand)
    (otherStored : Stored otherSignificand otherExponent)
    (otherPositive : 0 < otherSignificand) :
    52 ≤ (significand * otherSignificand).log2 ∨ exponent + otherExponent ≤ -1074 := by
  have product : significand * otherSignificand ≠ 0 := (Nat.mul_pos positive otherPositive).ne'
  rcases stored.whole with whole | lowest
  · exact .inl ((Nat.le_log2 product).2 (whole.trans (Nat.le_mul_of_pos_right _ otherPositive)))
  rcases otherStored.whole with whole | otherLowest
  · exact .inl ((Nat.le_log2 product).2 (whole.trans (Nat.le_mul_of_pos_left _ positive)))
  · exact .inr (by omega)

/-- The dividend is given so many digits that the quotient has 53, or reaches the lowest
place. -/
private theorem long_div
    {significand otherSignificand shift : Nat}
    {exponent otherExponent target : Int}
    (positive : 0 < significand)
    (otherPositive : 0 < otherSignificand)
    (lowered :
      min (exponent - otherExponent) (Format.binary64.targetExponent
        (totalExponent significand exponent - totalExponent otherSignificand otherExponent)) =
        target)
    (shifted : (exponent - otherExponent - target).toNat = shift) :
    52 ≤ (significand <<< shift / otherSignificand).log2 ∨ target ≤ -1074 := by
  have highest : Format.binary64.targetExponent
      (totalExponent significand exponent - totalExponent otherSignificand otherExponent) =
      max (significand.log2 + 1 + exponent - (otherSignificand.log2 + 1 + otherExponent) - 53)
        (-1074) := rfl
  have dividend := log2_shiftLeft positive shift
  by_cases subnormal : target ≤ -1074
  · exact .inr subnormal
  · obtain ⟨lower, -⟩ := log2_div_bounds otherPositive
      (by omega : otherSignificand.log2 < (significand <<< shift).log2)
    exact .inl (by omega)

/-- Lowering an exponent changes the digits alone. -/
private theorem apply_shiftLeft
    (sign : Sign)
    (significand : Nat)
    {exponent least : Int}
    (below : least ≤ exponent) :
    ((sign.apply (significand <<< (exponent - least).toNat : Nat) : Int) : ℚ) * 2 ^ least =
      signed sign (significand * 2 ^ exponent) := by
  obtain ⟨shift, rfl⟩ : ∃ shift : Nat, exponent = least + shift :=
    ⟨(exponent - least).toNat, by omega⟩
  have dropped : (least + shift - least).toNat = shift := by omega
  have same :
      ((significand <<< shift : Nat) : ℚ) * 2 ^ least = significand * 2 ^ (least + shift) := by
    rw [Nat.shiftLeft_eq, zpow_add₀ two_ne_zero, zpow_natCast]
    push_cast
    ring
  rw [dropped, ← same]
  cases sign with
  | negative =>
      change ((-((significand <<< shift : Nat) : Int) : Int) : ℚ) * _ = -_
      rw [Int.cast_neg, Int.cast_natCast, neg_mul]
  | positive => rfl

private theorem add_zeros (format : Format) (left right : Sign) :
    ∃ sign, UnpackedFloat.add format (.zero left) (.zero right) = .zero sign := by
  cases left <;> cases right <;> exact ⟨_, rfl⟩

section Operations

variable
  {left right : UnpackedFloat}
  (leftStorable : Storable left)
  (rightStorable : Storable right)
include leftStorable rightStorable

theorem rounded_add : Rounded (value left + value right) (left.add Format.binary64 right) := by
  cases leftStorable with
  | zero sign =>
      change Rounded (0 + value right) _
      rw [zero_add]
      cases rightStorable with
      | zero other =>
          obtain ⟨sum, same⟩ := add_zeros Format.binary64 sign other
          rw [same]
          exact (Storable.zero sum).rounded
      | finite stored => exact (Storable.finite stored).rounded
  | @finite sign significand exponent positive stored =>
      cases rightStorable with
      | zero other =>
          change Rounded (_ + 0) _
          rw [add_zero]
          exact (Storable.finite stored).rounded
      | @finite other otherSignificand otherExponent otherPositive otherStored =>
          have rounded := rounded_normalize
            (sign.apply (significand <<< (exponent - min exponent otherExponent).toNat : Nat) +
              other.apply
                (otherSignificand <<< (otherExponent - min exponent otherExponent).toNat : Nat))
            (min exponent otherExponent) .positive
          rw [Int.cast_add, add_mul, apply_shiftLeft sign significand (min_le_left _ _),
            apply_shiftLeft other otherSignificand (min_le_right _ _)] at rounded
          exact rounded

theorem rounded_sub : Rounded (value left - value right) (left.sub Format.binary64 right) := by
  cases leftStorable with
  | zero sign =>
      change Rounded (0 - value right) _
      rw [zero_sub]
      cases rightStorable with
      | zero other =>
          change Rounded (-0) _
          rw [neg_zero]
          obtain ⟨difference, same⟩ := sub_zeros Format.binary64 sign other
          rw [same]
          exact (Storable.zero difference).rounded
      | @finite other significand exponent positive stored =>
          cases other with
          | negative =>
              change Rounded (- -_) (.finite .positive significand exponent positive)
              rw [neg_neg]
              exact @Storable.rounded (.finite .positive significand exponent positive)
                (.finite stored)
          | positive =>
              exact @Storable.rounded (.finite .negative significand exponent positive)
                (.finite stored)
  | @finite sign significand exponent positive stored =>
      cases rightStorable with
      | zero other =>
          change Rounded (_ - 0) _
          rw [sub_zero]
          exact (Storable.finite stored).rounded
      | @finite other otherSignificand otherExponent otherPositive otherStored =>
          have rounded := rounded_normalize
            (sign.apply (significand <<< (exponent - min exponent otherExponent).toNat : Nat) -
              other.apply
                (otherSignificand <<< (otherExponent - min exponent otherExponent).toNat : Nat))
            (min exponent otherExponent) .positive
          rw [Int.cast_sub, sub_mul, apply_shiftLeft sign significand (min_le_left _ _),
            apply_shiftLeft other otherSignificand (min_le_right _ _)] at rounded
          exact rounded

theorem rounded_mul : Rounded (value left * value right) (left.mul Format.binary64 right) := by
  cases leftStorable with
  | zero sign =>
      change Rounded (0 * value right) _
      rw [zero_mul]
      cases rightStorable with
      | zero other => exact (Storable.zero _).rounded
      | finite => exact (Storable.zero _).rounded
  | @finite sign significand exponent positive stored =>
      cases rightStorable with
      | zero other =>
          change Rounded (_ * 0) _
          rw [MulZeroClass.mul_zero]
          exact (Storable.zero _).rounded
      | @finite other otherSignificand otherExponent otherPositive otherStored =>
          have product := rounded_roundWithAccuracy (sign * other)
            (locates_exact (significand * otherSignificand))
            (stored.long_mul positive otherStored otherPositive)
          have same :
              ((significand * otherSignificand : Nat) : ℚ) * 2 ^ (exponent + otherExponent) =
                significand * 2 ^ exponent * (otherSignificand * 2 ^ otherExponent) := by
            rw [zpow_add₀ two_ne_zero]
            push_cast
            ring
          rw [same, ← signed_mul_signed] at product
          exact product

theorem rounded_div
    (nonzero : value right ≠ 0) :
    Rounded (value left / value right) (left.div Format.binary64 right) := by
  cases rightStorable with
  | zero other => exact absurd rfl nonzero
  | @finite other otherSignificand otherExponent otherPositive otherStored =>
      cases leftStorable with
      | zero sign =>
          change Rounded (0 / _) _
          rw [zero_div]
          exact (Storable.zero _).rounded
      | @finite sign significand exponent positive stored =>
          obtain ⟨target, lowered⟩ : ∃ target, min (exponent - otherExponent)
              (Format.binary64.targetExponent (totalExponent significand exponent -
                totalExponent otherSignificand otherExponent)) = target := ⟨_, rfl⟩
          obtain ⟨shift, shifted⟩ : ∃ shift, (exponent - otherExponent - target).toNat = shift :=
            ⟨_, rfl⟩
          have quotient := rounded_roundWithAccuracy (sign / other)
            (locates_quotient (significand <<< shift) otherPositive)
            (long_div positive otherPositive lowered shifted)
          have place : exponent = target + otherExponent + shift := by omega
          have same : ((significand <<< shift : Nat) : ℚ) / otherSignificand * 2 ^ target =
              significand * 2 ^ exponent / (otherSignificand * 2 ^ otherExponent) := by
            have some : (otherSignificand : ℚ) ≠ 0 := by exact_mod_cast otherPositive.ne'
            rw [Nat.shiftLeft_eq, place, zpow_add₀ two_ne_zero, zpow_add₀ two_ne_zero, zpow_natCast]
            push_cast
            field_simp
          rw [same, ← signed_div_signed] at quotient
          rw [div_of_target lowered shifted]
          exact quotient

end Operations

/-! ## Patterns -/

/-- A number below the subnormal bound is kept by its pattern, which has no leading one. -/
private theorem unpack_pack_of_subnormal
    (sign : Sign)
    {significand : Nat}
    (positive : 0 < significand)
    (short : significand < 2 ^ 52) :
    UnpackedFloat.unpack Format.binary64 (UnpackedFloat.pack Format.binary64
        (.finite sign significand (-1074) positive)) =
      .finite sign significand (-1074) positive := by
  obtain ⟨fraction, rfl⟩ : ∃ fraction : BitVec 52, significand = fraction.toNat :=
    ⟨BitVec.ofNat 52 significand, by rw [BitVec.toNat_ofNat, Nat.mod_eq_of_lt short]⟩
  have some : fraction ≠ 0#52 := by
    rintro rfl
    exact absurd positive (by decide)
  have packed := @pack_subnormal Format.binary64 (by decide) sign fraction positive
  have place : ((0 : Nat) : Int) - (Format.binary64.exponentBias +
      Format.binary64.mantissaBitsWithoutImplicit) + 1 = -1074 := rfl
  rw [place] at packed
  rw [packed, unpack_packComponents]
  unfold ofParts
  rw [if_neg (by decide), if_pos rfl, dif_neg some]
  rfl

private theorem unpack_pack_of_stored
    (sign : Sign)
    {significand : Nat}
    {exponent : Int}
    (positive : 0 < significand)
    (stored : Stored significand exponent)
    (upper : exponent ≤ 971) :
    UnpackedFloat.unpack Format.binary64 (UnpackedFloat.pack Format.binary64
        (.finite sign significand exponent positive)) =
      .finite sign significand exponent positive := by
  by_cases normal : 2 ^ 52 ≤ significand
  · exact unpack_pack_of_whole sign positive (log2_eq_of_bounds normal stored.short) stored.lowest
      upper
  · obtain rfl := stored.whole.resolve_left normal
    exact unpack_pack_of_subnormal sign positive (Nat.lt_of_not_le normal)

/-- **A number within the range is kept by its pattern.** -/
theorem Storable.unpack_pack
    {number : UnpackedFloat}
    (storable : Storable number)
    (within : |value number| < 2 ^ (1024 : ℤ)) :
    UnpackedFloat.unpack Format.binary64 (UnpackedFloat.pack Format.binary64 number) = number := by
  cases storable with
  | zero sign => cases sign <;> rfl
  | @finite sign significand exponent positive stored =>
      apply unpack_pack_of_stored sign positive stored
      by_contra above
      have leading : 2 ^ 52 ≤ significand := stored.whole.resolve_right (by omega)
      have large : (2 : ℚ) ^ (1024 : ℤ) ≤ significand * 2 ^ exponent := by
        have digits : ((2 ^ 52 : Nat) : ℚ) ≤ significand := Nat.cast_le.2 leading
        calc (2 : ℚ) ^ (1024 : ℤ)
            = (2 ^ 52 : Nat) * 2 ^ (972 : ℤ) := by
              rw [Nat.cast_pow, Nat.cast_ofNat, ← zpow_natCast, ← zpow_add₀ two_ne_zero]
              rfl
          _ ≤ significand * 2 ^ exponent := by gcongr <;> [norm_num; omega]
      change |signed sign _| < _ at within
      rw [abs_signed sign (by positivity)] at within
      exact absurd within (not_lt.2 large)

/-- A number above the range is infinite as a pattern. -/
theorem Storable.unpack_pack_of_nonneg
    {number : UnpackedFloat}
    (storable : Storable number)
    (nonneg : 0 ≤ value number) :
    UnpackedFloat.unpack Format.binary64 (UnpackedFloat.pack Format.binary64 number) = number ∨
      UnpackedFloat.unpack Format.binary64 (UnpackedFloat.pack Format.binary64 number) =
        .infinity .positive := by
  cases storable with
  | zero sign =>
      have below : |(0 : ℚ)| < 2 ^ (1024 : ℤ) := by
        rw [abs_zero]
        positivity
      exact .inl (Storable.unpack_pack (.zero sign) below)
  | @finite sign significand exponent positive stored =>
      cases sign with
      | negative => exact absurd nonneg (not_le.2 (value_negative_lt_zero _ _ _))
      | positive =>
          by_cases infinite : 971 < exponent
          · exact .inr (unpack_pack_of_high .positive positive infinite)
          · exact .inl (unpack_pack_of_stored .positive positive stored (by omega))

/-! ## Equality -/

private theorem Stored.eq_of_le
    {significand otherSignificand : Nat}
    {exponent otherExponent : Int}
    (stored : Stored significand exponent)
    (otherStored : Stored otherSignificand otherExponent)
    (lower : exponent ≤ otherExponent)
    (same : (significand : ℚ) * 2 ^ exponent = otherSignificand * 2 ^ otherExponent) :
    significand = otherSignificand ∧ exponent = otherExponent := by
  obtain ⟨shift, rfl⟩ : ∃ shift : Nat, otherExponent = exponent + shift :=
    ⟨(otherExponent - exponent).toNat, by omega⟩
  have unit : (2 : ℚ) ^ exponent ≠ 0 := (zpow_pos two_pos exponent).ne'
  have digits : significand = otherSignificand * 2 ^ shift := by
    rw [zpow_add₀ two_ne_zero, zpow_natCast, mul_comm ((2 : ℚ) ^ exponent), ← mul_assoc] at same
    exact_mod_cast mul_right_cancel₀ unit same
  rcases Nat.eq_zero_or_pos shift with rfl | moved
  · exact ⟨by rw [digits, Nat.pow_zero, Nat.mul_one], by omega⟩
  · -- A digit that is moved up leaves one too many.
    have lowest := stored.lowest
    have leading := otherStored.whole.resolve_right (by omega)
    have twice : 2 ^ 1 ≤ 2 ^ shift := Nat.pow_le_pow_right two_pos moved
    have long := Nat.mul_le_mul leading twice
    have short := stored.short
    omega

/-- A number is stored in one way. -/
theorem Stored.eq_of_mul_eq
    {significand otherSignificand : Nat}
    {exponent otherExponent : Int}
    (stored : Stored significand exponent)
    (otherStored : Stored otherSignificand otherExponent)
    (same : (significand : ℚ) * 2 ^ exponent = otherSignificand * 2 ^ otherExponent) :
    significand = otherSignificand ∧ exponent = otherExponent := by
  rcases le_total exponent otherExponent with lower | higher
  · exact stored.eq_of_le otherStored lower same
  · have parts := otherStored.eq_of_le stored higher same.symm
    exact ⟨parts.1.symm, parts.2.symm⟩

private theorem value_finite_ne_zero
    (sign : Sign)
    (significand : Nat)
    (exponent : Int)
    (positive : 0 < significand) :
    value (.finite sign significand exponent positive) ≠ 0 := by
  have magnitude : (0 : ℚ) < significand * 2 ^ exponent := by positivity
  cases sign with
  | negative => exact neg_ne_zero.2 magnitude.ne'
  | positive => exact magnitude.ne'

/-- **Numbers of one value are equal**, the two zeros among them. -/
theorem Storable.beq_of_value_eq
    {left right : UnpackedFloat}
    (leftStorable : Storable left)
    (rightStorable : Storable right)
    (same : value left = value right) :
    left.beq right = true := by
  rw [beq_iff]
  cases leftStorable with
  | zero sign =>
      cases rightStorable with
      | zero other => exact .inr ⟨sign, other, rfl, rfl⟩
      | finite stored => exact absurd same.symm (value_finite_ne_zero _ _ _ _)
  | @finite sign significand exponent positive stored =>
      cases rightStorable with
      | zero other => exact absurd same (value_finite_ne_zero _ _ _ _)
      | @finite other otherSignificand otherExponent otherPositive otherStored =>
          left
          have magnitude : (0 : ℚ) < significand * 2 ^ exponent := by positivity
          have otherMagnitude : (0 : ℚ) < otherSignificand * 2 ^ otherExponent := by positivity
          change signed sign _ = signed other _ at same
          have signs : sign = other ∧
              (significand : ℚ) * 2 ^ exponent = otherSignificand * 2 ^ otherExponent := by
            cases sign <;> cases other
            · exact ⟨rfl, neg_inj.1 same⟩
            · exact absurd same ((neg_neg_of_pos magnitude).trans otherMagnitude).ne
            · exact absurd same ((neg_neg_of_pos otherMagnitude).trans magnitude).ne'
            · exact ⟨rfl, same⟩
          obtain ⟨rfl, magnitudes⟩ := signs
          obtain ⟨rfl, rfl⟩ := stored.eq_of_mul_eq otherStored magnitudes
          exact ⟨rfl, rfl⟩

/-! ## Infinity -/

section Infinity

variable {number : UnpackedFloat} {format : Format}

theorem Storable.positive (storable : Storable number) (above : 0 < value number) :
    Positive number := by
  cases storable with
  | zero sign => exact absurd above (lt_irrefl 0)
  | @finite sign significand exponent positive stored =>
      cases sign with
      | negative => exact absurd above (value_negative_lt_zero _ _ _).not_gt
      | positive => exact .finite significand exponent positive

theorem Storable.infinity_add (storable : Storable number) :
    UnpackedFloat.add format (.infinity .positive) number = .infinity .positive := by
  cases storable <;> rfl

theorem Storable.add_infinity (storable : Storable number) :
    number.add format (.infinity .positive) = .infinity .positive := by
  cases storable <;> rfl

theorem Storable.infinity_mul (storable : Storable number) (above : 0 < value number) :
    UnpackedFloat.mul format (.infinity .positive) number = .infinity .positive := by
  have positive := storable.positive above
  cases positive <;> rfl

theorem Storable.infinity_div (storable : Storable number) (above : 0 < value number) :
    UnpackedFloat.div format (.infinity .positive) number = .infinity .positive := by
  have positive := storable.positive above
  cases storable with
  | zero sign => exact absurd above (lt_irrefl 0)
  | finite stored =>
      cases positive
      rfl

end Infinity

end Standardize.Unpacked
