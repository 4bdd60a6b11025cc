import Standardize.Proofs.Floating.Value

/-!
Contract: 64-bit floating point by the rational numbers it stands for.

Owns:
- the number that a pattern stands for;
- `Approximates`, by which an operation on finite numbers ends in a finite number that rounds
  the exact result, if that is not too large;
- `AtLeast`, a bound from below that an infinite result has as well, and the sums, products
  and quotients that keep one.

Does not own: exact results.
-/

set_option autoImplicit false

namespace Standardize.Binary64

open Float.Model Unpacked

/-- The rational number that a finite number is; zero for what is not finite. -/
def value (number : Float) : ℚ :=
  Unpacked.value number.toModel.unpack

private theorem value_zero : value 0 = 0 :=
  rfl

private theorem storable_unpack {number : Float} (finite : number.isFinite = true) :
    Storable number.toModel.unpack := by
  change number.toModel.unpack.isFinite = true at finite
  cases unpacked : number.toModel.unpack with
  | notANumber =>
      rw [unpacked] at finite
      cases finite
  | infinity sign =>
      rw [unpacked] at finite
      cases finite
  | zero sign => exact .zero sign
  | finite sign significand exponent positive => exact .finite (stored_of_unpack unpacked).1

theorem representable_value {number : Float} (finite : number.isFinite = true) :
    Representable (value number) :=
  (storable_unpack finite).representable

/-- Numbers of one value are equal. -/
theorem eq_of_value_eq
    {left right : Float}
    (leftFinite : left.isFinite = true)
    (rightFinite : right.isFinite = true)
    (same : value left = value right) :
    Arithmetic.eq left right = true :=
  eq_iff.2 ((storable_unpack leftFinite).beq_of_value_eq (storable_unpack rightFinite) same)

/-! ## Results within the range -/

/-- A finite number that rounds an exact result. -/
structure Approximates (exact : ℚ) (number : Float) : Prop where
  finite : number.isFinite = true
  rounds : Rounds exact (value number)

private theorem isFinite_of_storable {number : UnpackedFloat} (storable : Storable number) :
    number.isFinite = true := by
  cases storable <;> rfl

/-- A rounded result within the range is kept by its pattern. -/
theorem approximates_of_rounded
    {exact : ℚ}
    {number : UnpackedFloat}
    {result : Float}
    (rounded : Rounded exact number)
    (small : |exact| ≤ 2 ^ (1023 : ℤ))
    (unpacked : result.toModel.unpack = (Float.Model.pack number).unpack) :
    Approximates exact result := by
  have within : |Unpacked.value number| ≤ 2 ^ (1023 : ℤ) :=
    rounded.rounds.within (representable_two_zpow (by decide)) small
  have below : (2 : ℚ) ^ (1023 : ℤ) < 2 ^ (1024 : ℤ) := zpow_lt_zpow_right₀ one_lt_two (by decide)
  have kept : result.toModel.unpack = number :=
    unpacked.trans (rounded.storable.unpack_pack (within.trans_lt below))
  refine ⟨?_, ?_⟩
  · change result.toModel.unpack.isFinite = true
    rw [kept]
    exact isFinite_of_storable rounded.storable
  · unfold value
    rw [kept]
    exact rounded.rounds

section Operations

variable
  {left right : Float}
  (leftFinite : left.isFinite = true)
  (rightFinite : right.isFinite = true)
include leftFinite rightFinite

theorem approximates_add (small : |value left + value right| ≤ 2 ^ (1023 : ℤ)) :
    Approximates (value left + value right) (left + right) :=
  approximates_of_rounded (rounded_add (storable_unpack leftFinite) (storable_unpack rightFinite))
    small (unpack_add left right)

theorem approximates_sub (small : |value left - value right| ≤ 2 ^ (1023 : ℤ)) :
    Approximates (value left - value right) (left - right) :=
  approximates_of_rounded (rounded_sub (storable_unpack leftFinite) (storable_unpack rightFinite))
    small (unpack_sub left right)

theorem approximates_mul (small : |value left * value right| ≤ 2 ^ (1023 : ℤ)) :
    Approximates (value left * value right) (left * right) :=
  approximates_of_rounded (rounded_mul (storable_unpack leftFinite) (storable_unpack rightFinite))
    small (unpack_mul left right)

theorem approximates_div
    (nonzero : value right ≠ 0)
    (small : |value left / value right| ≤ 2 ^ (1023 : ℤ)) :
    Approximates (value left / value right) (left / right) :=
  approximates_of_rounded
    (rounded_div (storable_unpack leftFinite) (storable_unpack rightFinite) nonzero) small
    (unpack_div left right)

end Operations

/-- A finite number whose magnitude is bounded. -/
structure Within (bound : ℚ) (number : Float) : Prop where
  finite : number.isFinite = true
  le : |value number| ≤ bound

theorem within_zero {bound : ℚ} (nonneg : 0 ≤ bound) : Within bound 0 :=
  ⟨rfl, by rwa [value_zero, abs_zero]⟩

theorem Approximates.within
    {exact bound : ℚ}
    {number : Float}
    (approximates : Approximates exact number)
    (representable : Representable bound)
    (near : |exact| ≤ bound) :
    Within bound number :=
  ⟨approximates.finite, approximates.rounds.within representable near⟩

section BoundedMagnitudes

variable
  {left right : Float}
  {leftBound rightBound bound : ℚ}
  (leftWithin : Within leftBound left)
  (representable : Representable bound)
  (small : bound ≤ 2 ^ (1023 : ℤ))
include leftWithin representable small

theorem Within.add
    (rightWithin : Within rightBound right)
    (above : leftBound + rightBound ≤ bound) :
    Within bound (left + right) := by
  have near : |value left + value right| ≤ bound :=
    (abs_add_le _ _).trans ((add_le_add leftWithin.le rightWithin.le).trans above)
  exact (approximates_add leftWithin.finite rightWithin.finite (near.trans small)).within
    representable near

theorem Within.sub
    (rightWithin : Within rightBound right)
    (above : leftBound + rightBound ≤ bound) :
    Within bound (left - right) := by
  have near : |value left - value right| ≤ bound :=
    (abs_sub _ _).trans ((add_le_add leftWithin.le rightWithin.le).trans above)
  exact (approximates_sub leftWithin.finite rightWithin.finite (near.trans small)).within
    representable near

variable (finite : right.isFinite = true) (positive : 0 < value right)
include finite positive

theorem Within.mul (above : leftBound * value right ≤ bound) : Within bound (left * right) := by
  have near : |value left * value right| ≤ bound := by
    rw [abs_mul, abs_of_pos positive]
    exact (mul_le_mul_of_nonneg_right leftWithin.le positive.le).trans above
  exact (approximates_mul leftWithin.finite finite (near.trans small)).within representable near

theorem Within.div (above : leftBound ≤ bound * value right) : Within bound (left / right) := by
  have near : |value left / value right| ≤ bound := by
    rw [abs_div, abs_of_pos positive, div_le_iff₀ positive]
    exact leftWithin.le.trans above
  exact (approximates_div leftWithin.finite finite positive.ne' (near.trans small)).within
    representable near

end BoundedMagnitudes

/-! ## Counts -/

private theorem rounded_ofScientific {count : Nat} (positive : 0 < count) :
    Rounded count (UnpackedFloat.ofScientific Format.binary64 count 0) := by
  have digits : (count <<< 53 * 10 ^ (0 : Int).toNat).log2 = count.log2 + 53 := by
    rw [Int.toNat_zero, Nat.pow_zero, Nat.mul_one, log2_shiftLeft positive]
  have rounded := rounded_roundWithAccuracy .positive
    (locates_exact (count <<< 53 * 10 ^ (0 : Int).toNat))
    (.inl (by omega) : _ ∨ (-53 : Int) + 0 ≤ -1074)
  have room : (0 : Int) ≤ 2 ^ Format.binary64.exponentBits := by positivity
  have same :
      ((count <<< 53 * 10 ^ (0 : Int).toNat : Nat) : ℚ) * 2 ^ ((-53 : Int) + 0) = count := by
    rw [Int.toNat_zero, Nat.pow_zero, Nat.mul_one, Nat.shiftLeft_eq, add_zero, zpow_neg]
    push_cast
    exact mul_inv_cancel_right₀ (by positivity) _
  rw [same] at rounded
  unfold UnpackedFloat.ofScientific
  rw [dif_neg positive.ne', if_neg (by decide), if_neg (by omega), if_pos (le_refl 0)]
  exact rounded

theorem value_ofCount {count : Nat} (short : count < 2 ^ 53) :
    value (Arithmetic.ofCount count) = count := by
  rcases Nat.eq_zero_or_pos count with rfl | positive
  · rfl
  · have digits : count.log2 < 53 := (Nat.log2_lt positive.ne').2 short
    unfold value
    rw [unpack_ofCount positive short]
    exact count_mul_rest (by omega)

theorem isFinite_ofCount {count : Nat} (short : count < 2 ^ 53) :
    (Arithmetic.ofCount count : Float).isFinite = true := by
  rcases Nat.eq_zero_or_pos count with rfl | positive
  · rfl
  · change (Arithmetic.ofCount count : Float).toModel.unpack.isFinite = true
    rw [unpack_ofCount positive short]
    rfl

/-- A count is rounded like any result. -/
theorem approximates_ofCount {count : Nat} (small : (count : ℚ) ≤ 2 ^ (1023 : ℤ)) :
    Approximates count (Arithmetic.ofCount count) := by
  by_cases short : count < 2 ^ 53
  · refine ⟨isFinite_ofCount short, ?_⟩
    rw [value_ofCount short]
    exact .of_representable (representable_natCast short.le)
  · have long := Nat.le_of_not_lt short
    exact approximates_of_rounded (rounded_ofScientific (by omega)) (by rwa [Nat.abs_cast])
      (unpack_ofCount_of_le long)

/-! ## Bounds from below -/

/-- A number from a bound on, or an infinite one. -/
def AtLeast (bound : ℚ) (number : Float) : Prop :=
  number.toModel.unpack = .infinity .positive ∨ number.isFinite = true ∧ bound ≤ value number

theorem AtLeast.mono
    {bound lower : ℚ}
    {number : Float}
    (atLeast : AtLeast bound number)
    (below : lower ≤ bound) :
    AtLeast lower number :=
  atLeast.imp_right fun ⟨finite, above⟩ => ⟨finite, below.trans above⟩

theorem atLeast_zero : AtLeast 0 0 :=
  .inr ⟨rfl, le_rfl⟩

theorem AtLeast.lt_zero
    {bound : ℚ}
    {number : Float}
    (atLeast : AtLeast bound number)
    (positive : 0 < bound) :
    Arithmetic.lt 0 number = true := by
  rw [lt_zero_iff]
  rcases atLeast with infinite | ⟨finite, above⟩
  · rw [infinite]
    exact .infinity
  · exact (storable_unpack finite).positive (positive.trans_le above)

private theorem atLeast_of_rounded
    {exact bound : ℚ}
    {number : UnpackedFloat}
    {result : Float}
    (rounded : Rounded exact number)
    (representable : Representable bound)
    (nonneg : 0 ≤ bound)
    (above : bound ≤ exact)
    (unpacked : result.toModel.unpack = (Float.Model.pack number).unpack) :
    AtLeast bound result := by
  have roundedAbove := rounded.rounds.ge representable above
  rcases rounded.storable.unpack_pack_of_nonneg (nonneg.trans roundedAbove) with kept | infinite
  · have same : result.toModel.unpack = number := unpacked.trans kept
    right
    refine ⟨?_, ?_⟩
    · change result.toModel.unpack.isFinite = true
      rw [same]
      exact isFinite_of_storable rounded.storable
    · unfold value
      rwa [same]
  · exact .inl (unpacked.trans infinite)

section BoundedOperations

variable {left right : Float} {leftBound rightBound bound : ℚ}

theorem AtLeast.add
    (leftAtLeast : AtLeast leftBound left)
    (rightAtLeast : AtLeast rightBound right)
    (representable : Representable bound)
    (nonneg : 0 ≤ bound)
    (above : bound ≤ leftBound + rightBound) :
    AtLeast bound (left + right) := by
  rcases leftAtLeast with leftInfinite | ⟨leftFinite, leftAbove⟩
  · left
    rw [unpack_add, leftInfinite]
    rcases rightAtLeast with rightInfinite | ⟨rightFinite, -⟩
    · rw [rightInfinite]
      rfl
    · rw [(storable_unpack rightFinite).infinity_add]
      rfl
  · rcases rightAtLeast with rightInfinite | ⟨rightFinite, rightAbove⟩
    · left
      rw [unpack_add, rightInfinite, (storable_unpack leftFinite).add_infinity]
      rfl
    · exact atLeast_of_rounded
        (rounded_add (storable_unpack leftFinite) (storable_unpack rightFinite)) representable
        nonneg (above.trans (add_le_add leftAbove rightAbove)) (unpack_add left right)

theorem atLeast_mul_self
    (finite : left.isFinite = true)
    (representable : Representable bound)
    (nonneg : 0 ≤ bound)
    (above : bound ≤ value left * value left) :
    AtLeast bound (left * left) :=
  atLeast_of_rounded (rounded_mul (storable_unpack finite) (storable_unpack finite)) representable
    nonneg above (unpack_mul left left)

variable (finite : right.isFinite = true) (positive : 0 < value right)
include finite positive

theorem AtLeast.mul
    (leftAtLeast : AtLeast leftBound left)
    (representable : Representable bound)
    (nonneg : 0 ≤ bound)
    (above : bound ≤ leftBound * value right) :
    AtLeast bound (left * right) := by
  rcases leftAtLeast with infinite | ⟨leftFinite, leftAbove⟩
  · left
    rw [unpack_mul, infinite, (storable_unpack finite).infinity_mul positive]
    rfl
  · exact atLeast_of_rounded (rounded_mul (storable_unpack leftFinite) (storable_unpack finite))
      representable nonneg (above.trans (mul_le_mul_of_nonneg_right leftAbove positive.le))
      (unpack_mul left right)

theorem AtLeast.div
    (leftAtLeast : AtLeast leftBound left)
    (representable : Representable bound)
    (nonneg : 0 ≤ bound)
    (above : bound * value right ≤ leftBound) :
    AtLeast bound (left / right) := by
  rcases leftAtLeast with infinite | ⟨leftFinite, leftAbove⟩
  · left
    rw [unpack_div, infinite, (storable_unpack finite).infinity_div positive]
    rfl
  · exact atLeast_of_rounded
      (rounded_div (storable_unpack leftFinite) (storable_unpack finite) positive.ne')
      representable nonneg ((le_div_iff₀ positive).2 (above.trans leftAbove))
      (unpack_div left right)

end BoundedOperations

/-! ## Elements of 32 bits -/

/-- A finite number is the magnitude of its cut with its sign. -/
theorem value_eq_signed
    {number : Float}
    (finite : (Fields.ofBits number.toBits).exponent ≠ specialExponent) :
    value number =
      signed (Fields.ofBits number.toBits).sign (Fields.ofBits number.toBits).magnitude := by
  unfold value
  rw [unpack_eq_unpacked]
  generalize Fields.ofBits number.toBits = fields at finite ⊢
  by_cases some : 0 < fields.significand
  · rw [Fields.unpacked_of_pos finite some]
    rfl
  · have none : fields.significand = 0 := by omega
    unfold Fields.unpacked Fields.magnitude
    rw [if_neg finite, dif_neg some, none, Nat.cast_zero, zero_mul, signed_zero]
    rfl

end Standardize.Binary64

namespace Standardize.Binary32

open Unpacked

private theorem mul_two_pow_mul_zpow
    (digits : Nat)
    {zeros moved : Nat}
    {place : ℤ}
    (same : (zeros : ℤ) + place = moved + -149) :
    ((digits * 2 ^ zeros : Nat) : ℚ) * 2 ^ place = (digits * 2 ^ moved : Nat) * 2 ^ (-149 : ℤ) := by
  push_cast
  rw [mul_assoc, mul_assoc, ← zpow_natCast, ← zpow_natCast, ← zpow_add₀ two_ne_zero,
    ← zpow_add₀ two_ne_zero, same]

/-- The magnitude of a finite element is made of the smallest one. -/
theorem exists_magnitude_widen
    {element : Float32}
    (finite : element.isFinite = true) :
    ∃ digits : Nat, digits ≤ 2 ^ 24 * 2 ^ 253 ∧
      (Binary64.Fields.ofBits (widen element).toBits).magnitude = digits * 2 ^ (-149 : ℤ) := by
  have belowSpecial := isFinite_iff.1 finite
  have fractionLt := fraction_lt element.toBits
  have exponentEq := exponent_widen finite
  have fractionEq := fraction_widen finite
  generalize Binary64.Fields.ofBits (widen element).toBits = wide at exponentEq fractionEq ⊢
  generalize Fields.ofBits element.toBits = fields at belowSpecial fractionLt exponentEq fractionEq
  unfold Binary64.Fields.magnitude
  unfold Fields.widenedMagnitude at exponentEq fractionEq
  simp only [Nat.pow_eq] at exponentEq fractionEq
  rw [if_neg belowSpecial.ne] at exponentEq fractionEq
  unfold specialExponent at belowSpecial
  by_cases subnormal : fields.exponent = 0
  · rw [if_pos subnormal] at exponentEq fractionEq
    by_cases zero : fields.fraction = 0
    · rw [if_pos zero] at exponentEq fractionEq
      have none := Binary64.Fields.significand_of_subnormal exponentEq
      refine ⟨0, by decide, ?_⟩
      rw [none, fractionEq, Nat.zero_mod, Nat.cast_zero, zero_mul, zero_mul]
    · -- The leading one of a subnormal element moves in front of the fraction.
      have leadLt : fields.fraction.log2 < 23 := (Nat.log2_lt zero).2 fractionLt
      have rest := sub_leading_mul_lt (show fields.fraction.log2 ≤ 52 by omega)
      have whole := leading_add_mul (show fields.fraction.log2 ≤ 52 by omega) zero
      rw [if_neg zero] at exponentEq fractionEq
      have significand := @Binary64.Fields.significand_of_normal wide (by omega)
      have digits : wide.significand = fields.fraction * 2 ^ (52 - fields.fraction.log2) := by
        omega
      refine ⟨fields.fraction * 2 ^ 0, by omega, ?_⟩
      rw [digits]
      exact mul_two_pow_mul_zpow _ (by omega)
  · rw [if_neg subnormal] at exponentEq fractionEq
    have significand := @Binary64.Fields.significand_of_normal wide (by omega)
    have digits : wide.significand = (2 ^ 23 + fields.fraction) * 2 ^ 29 := by omega
    refine ⟨(2 ^ 23 + fields.fraction) * 2 ^ (fields.exponent - 1), ?_, ?_⟩
    · exact Nat.mul_le_mul (by omega) (Nat.pow_le_pow_right two_pos (by omega))
    · rw [digits]
      exact mul_two_pow_mul_zpow _ (by omega)

/-- **A finite element is a multiple of the smallest one.** -/
theorem exists_value_widen
    {element : Float32}
    (finite : element.isFinite = true) :
    ∃ digits : ℤ, |digits| ≤ 2 ^ 24 * 2 ^ 253 ∧
      Binary64.value (widen element) = digits * 2 ^ (-149 : ℤ) := by
  obtain ⟨digits, few, magnitude⟩ := exists_magnitude_widen finite
  have below := widenedMagnitude_of_isFinite finite
  have ordinary : (Binary64.Fields.ofBits (widen element).toBits).exponent ≠
      Binary64.specialExponent := by
    rw [exponent_widen finite]
    exact (Nat.div_lt_of_lt_mul (by rwa [Nat.mul_comm])).ne
  have short : |(digits : ℤ)| ≤ 2 ^ 24 * 2 ^ 253 := by
    rw [Nat.abs_cast]
    exact_mod_cast few
  rw [Binary64.value_eq_signed ordinary, magnitude]
  cases (Binary64.Fields.ofBits (widen element).toBits).sign with
  | negative =>
      refine ⟨-digits, by rwa [abs_neg], ?_⟩
      change -_ = _
      rw [Int.cast_neg, Int.cast_natCast, neg_mul]
  | positive => exact ⟨digits, short, rfl⟩

end Standardize.Binary32
