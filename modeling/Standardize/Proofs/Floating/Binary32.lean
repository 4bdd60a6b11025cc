import Standardize.Arithmetic.Binary32
import Standardize.Proofs.Floating.Binary64

/-!
Contract: the laws of 32-bit elements.

Owns:
- the sign, the exponent and the fraction of a pattern, as numbers;
- widening, which keeps finite elements finite and is undone by narrowing;
- the laws of elements.

Does not own: the numbers that they are aggregated as, nor the rounding of those
that no element widens to.
-/

set_option autoImplicit false

namespace Standardize.Binary32

open Float.Model

/-! ## Patterns -/

theorem pack_unpack (value : Float32) :
    Float32.ofModel (Float32.Model.pack value.toModel.unpack) = value := by
  rcases value with ⟨bits, valid⟩
  have packed := Unpacked.pack_unpack (by decide) valid
  have same : Float32.Model.pack (Float32.ofModel ⟨bits, valid⟩).toModel.unpack = ⟨bits, valid⟩ :=
    (Float32.Model.mk.injEq _ _ _ _).mpr (congrArg UInt32.ofBitVec packed)
  exact congrArg Float32.ofModel same

/-- A pattern below the highest exponent is kept. -/
theorem toBits_ofBits {bits : UInt32} (below : bits.toNat / 2 ^ 23 % 2 ^ 8 + 1 < 2 ^ 8) :
    (Float32.ofBits bits).toBits = bits := by
  have finite : (UnpackedFloat.unpack Format.binary32 bits.toBitVec).isFinite = true :=
    Unpacked.isFinite_unpack_iff.2 below
  have packed := Unpacked.pack_unpack (by decide) (Unpacked.valid_of_isFinite finite)
  exact congrArg UInt32.ofBitVec packed

theorem negative_ofBits (bits : UInt32) :
    (Fields.ofBits bits).negative = decide (2 ^ 31 ≤ bits.toNat) := by
  change (bits >>> 31 != 0) = _
  rw [Bool.eq_iff_iff, bne_iff_ne, decide_eq_true_iff, ne_eq, ← UInt32.toNat_inj,
    UInt32.toNat_shiftRight]
  change ¬bits.toNat >>> 31 = 0 ↔ _
  rw [Nat.shiftRight_eq_div_pow]
  omega

theorem exponent_ofBits (bits : UInt32) :
    (Fields.ofBits bits).exponent = bits.toNat / 2 ^ 23 % 2 ^ 8 := by
  change ((bits >>> 23) &&& 0xff).toNat = _
  rw [UInt32.toNat_and, UInt32.toNat_shiftRight]
  change bits.toNat >>> 23 &&& 2 ^ 8 - 1 = _
  rw [Nat.and_two_pow_sub_one_eq_mod, Nat.shiftRight_eq_div_pow]

theorem fraction_ofBits (bits : UInt32) :
    (Fields.ofBits bits).fraction = bits.toNat % 2 ^ 23 := by
  change (bits &&& 0x7fffff).toNat = _
  rw [UInt32.toNat_and]
  exact Nat.and_two_pow_sub_one_eq_mod bits.toNat 23

theorem fraction_lt (bits : UInt32) : (Fields.ofBits bits).fraction < 2 ^ 23 := by
  rw [fraction_ofBits]
  exact Nat.mod_lt _ (Nat.two_pow_pos 23)

theorem isFinite_iff {value : Float32} :
    value.isFinite = true ↔ (Fields.ofBits value.toBits).exponent < specialExponent := by
  rw [exponent_ofBits, ← Nat.add_lt_add_iff_right (k := 1)]
  exact Unpacked.isFinite_unpack_iff

/-- Zero has two patterns. -/
theorem eq_or_eq_neg_of_unpack
    {value : Float32}
    {sign : UnpackedFloat.Sign}
    (unpacked : value.toModel.unpack = .zero sign) :
    value = 0.0 ∨ value = -0.0 := by
  have packed := pack_unpack value
  rw [unpacked] at packed
  cases sign with
  | positive => exact .inl packed.symm
  | negative => exact .inr packed.symm

/-- What is not finite has three patterns. -/
theorem isFinite_or_special (value : Float32) :
    value.isFinite = true ∨ value = Float32.ofModel (Float32.Model.pack .notANumber) ∨
      ∃ sign, value = Float32.ofModel (Float32.Model.pack (.infinity sign)) := by
  have packed := pack_unpack value
  cases unpacked : value.toModel.unpack with
  | notANumber => exact .inr (.inl (by rw [← unpacked, packed]))
  | infinity sign => exact .inr (.inr ⟨sign, by rw [← unpacked, packed]⟩)
  | zero sign => exact .inl (congrArg UnpackedFloat.isFinite unpacked)
  | finite sign significand exponent positive =>
      exact .inl (congrArg UnpackedFloat.isFinite unpacked)

/-! ## Leading ones -/

section Leading

variable {number : Nat} (short : number.log2 ≤ 52)
include short

/-- What follows the leading one of a number, moved up, is a fraction. -/
theorem sub_leading_mul_lt :
    (number - 2 ^ number.log2) * 2 ^ (52 - number.log2) < 2 ^ 52 := by
  have below : number < 2 ^ number.log2 * 2 := Nat.lt_log2_self
  have positive : 0 < 2 ^ (52 - number.log2) := Nat.two_pow_pos _
  calc
    (number - 2 ^ number.log2) * 2 ^ (52 - number.log2)
      < 2 ^ number.log2 * 2 ^ (52 - number.log2) :=
        Nat.mul_lt_mul_of_pos_right (by omega) positive
    _ = 2 ^ 52 := by rw [← Nat.pow_add, Nat.add_sub_cancel' short]

/-- With a leading one in front, the fraction is the number moved up. -/
theorem leading_add_mul (some : number ≠ 0) :
    2 ^ 52 + (number - 2 ^ number.log2) * 2 ^ (52 - number.log2) =
      number * 2 ^ (52 - number.log2) := by
  have leading : 2 ^ number.log2 ≤ number := Nat.log2_self_le some
  have whole : 2 ^ 52 = 2 ^ number.log2 * 2 ^ (52 - number.log2) := by
    rw [← Nat.pow_add, Nat.add_sub_cancel' short]
  rw [whole, ← Nat.add_mul, Nat.add_sub_cancel' leading]

end Leading

/-! ## Widening -/

private theorem widenedMagnitude_lt
    {fields : Fields}
    (finite : fields.exponent < specialExponent)
    (fractionLt : fields.fraction < 2 ^ 23) :
    fields.widenedMagnitude < Binary64.specialExponent * 2 ^ 52 := by
  unfold specialExponent at finite
  unfold Fields.widenedMagnitude Binary64.specialExponent specialExponent
  simp only [Nat.pow_eq]
  rw [if_neg (by omega)]
  by_cases subnormal : fields.exponent = 0
  · rw [if_pos subnormal]
    by_cases zero : fields.fraction = 0
    · rw [if_pos zero]
      decide
    · have leadLt : fields.fraction.log2 < 23 := (Nat.log2_lt zero).2 fractionLt
      have moved := sub_leading_mul_lt (show fields.fraction.log2 ≤ 52 by omega)
      rw [if_neg zero]
      omega
  · rw [if_neg subnormal]
    omega

variable {value : Float32}

/-- The magnitude of a finite element leaves room for the sign and for no special
exponent. -/
theorem widenedMagnitude_of_isFinite (finite : value.isFinite = true) :
    (Fields.ofBits value.toBits).widenedMagnitude < Binary64.specialExponent * 2 ^ 52 :=
  widenedMagnitude_lt (isFinite_iff.1 finite) (fraction_lt value.toBits)

/-- **A finite element is a finite number.** -/
theorem isFinite_widen (finite : value.isFinite = true) : (widen value).isFinite = true := by
  have magnitudeLt := widenedMagnitude_of_isFinite finite
  unfold Binary64.specialExponent at magnitudeLt
  apply Binary64.isFinite_ofBits
  rw [UInt64.toNat_ofNat']
  simp only [Nat.pow_eq]
  split <;> omega

private theorem toNat_toBits_widen (finite : value.isFinite = true) :
    (widen value).toBits.toNat =
      (Fields.ofBits value.toBits).widenedMagnitude +
        if (Fields.ofBits value.toBits).negative then 2 ^ 63 else 0 := by
  have magnitudeLt := widenedMagnitude_of_isFinite finite
  unfold Binary64.specialExponent at magnitudeLt
  have bits :
      ((Fields.ofBits value.toBits).widenedMagnitude +
          if (Fields.ofBits value.toBits).negative then 2 ^ 63 else 0) % 2 ^ 64 =
        (Fields.ofBits value.toBits).widenedMagnitude +
          if (Fields.ofBits value.toBits).negative then 2 ^ 63 else 0 := by
    split <;> omega
  unfold widen
  dsimp only
  simp only [Nat.pow_eq]
  rw [Binary64.toBits_ofBits, UInt64.toNat_ofNat', bits]
  rw [UInt64.toNat_ofNat', bits]
  split <;> omega

/-! ## Narrowing what was widened -/

private theorem roundShift_mul (value shift : Nat) :
    roundShift (value * 2 ^ shift) shift = value := by
  have positive : 0 < 2 ^ shift := Nat.two_pow_pos shift
  unfold roundShift
  simp only [Nat.pow_eq]
  rw [Nat.mul_mod_left, Nat.mul_div_cancel value positive, if_neg (by omega), if_neg (by omega)]

/-- The magnitude of a widened pattern is rounded to the one it came from: nothing
but zeros is dropped. -/
private theorem narrowedMagnitude_of_widened
    {fields : Fields}
    {wide : Binary64.Fields}
    (finite : fields.exponent < specialExponent)
    (fractionLt : fields.fraction < 2 ^ 23)
    (exponentEq : wide.exponent = fields.widenedMagnitude / 2 ^ 52)
    (fractionEq : wide.fraction = fields.widenedMagnitude % 2 ^ 52) :
    narrowedMagnitude wide = fields.exponent * 2 ^ 23 + fields.fraction := by
  have magnitudeLt := widenedMagnitude_lt finite fractionLt
  unfold specialExponent at finite
  unfold Binary64.specialExponent at magnitudeLt
  have notSpecial : ¬(wide.exponent = Binary64.specialExponent ∧ wide.fraction ≠ 0) := by
    unfold Binary64.specialExponent
    omega
  unfold narrowedMagnitude infinityMagnitude
  rw [if_neg notSpecial]
  unfold Fields.widenedMagnitude specialExponent at exponentEq fractionEq
  simp only [Nat.pow_eq] at exponentEq fractionEq ⊢
  rw [if_neg (by omega)] at exponentEq fractionEq
  by_cases subnormal : fields.exponent = 0
  · rw [if_pos subnormal] at exponentEq fractionEq
    by_cases zero : fields.fraction = 0
    · rw [if_pos zero] at exponentEq fractionEq
      rw [exponentEq, fractionEq, subnormal, zero]
      decide +kernel
    · have leadLt : fields.fraction.log2 < 23 := (Nat.log2_lt zero).2 fractionLt
      have rest := sub_leading_mul_lt (show fields.fraction.log2 ≤ 52 by omega)
      have whole := leading_add_mul (show fields.fraction.log2 ≤ 52 by omega) zero
      rw [if_neg zero] at exponentEq fractionEq
      have exponent : wide.exponent = fields.fraction.log2 + 874 := by omega
      have significand :
          2 ^ 52 + wide.fraction = fields.fraction * 2 ^ (52 - fields.fraction.log2) := by
        omega
      have shift : 29 + (897 - wide.exponent) = 52 - fields.fraction.log2 := by omega
      have lowest : wide.exponent - 897 = 0 := by omega
      rw [significand, shift, roundShift_mul, lowest, subnormal]
      exact Nat.min_eq_right (by omega)
  · rw [if_neg subnormal] at exponentEq fractionEq
    have significand : 2 ^ 52 + wide.fraction = (2 ^ 23 + fields.fraction) * 2 ^ 29 := by omega
    have shift : 29 + (897 - wide.exponent) = 29 := by omega
    rw [significand, shift, roundShift_mul]
    omega

private theorem negative_widen (finite : value.isFinite = true) :
    (Binary64.Fields.ofBits (widen value).toBits).negative =
      (Fields.ofBits value.toBits).negative := by
  have magnitudeLt := widenedMagnitude_of_isFinite finite
  unfold Binary64.specialExponent at magnitudeLt
  rw [Binary64.negative_ofBits, toNat_toBits_widen finite]
  cases (Fields.ofBits value.toBits).negative with
  | false =>
      rw [if_neg Bool.false_ne_true]
      exact decide_eq_false (by omega)
  | true => exact decide_eq_true (Nat.le_add_left _ _)

/-- A pattern is its sign, its exponent and its fraction. -/
theorem fields_toNat (bits : UInt32) :
    (Fields.ofBits bits).exponent * 2 ^ 23 + (Fields.ofBits bits).fraction +
        (if (Fields.ofBits bits).negative then 2 ^ 31 else 0) =
      bits.toNat := by
  have bitsLt := bits.toNat_lt
  rw [exponent_ofBits, fraction_ofBits, negative_ofBits]
  simp only [decide_eq_true_eq]
  split <;> omega

theorem exponent_widen (finite : value.isFinite = true) :
    (Binary64.Fields.ofBits (widen value).toBits).exponent =
      (Fields.ofBits value.toBits).widenedMagnitude / 2 ^ 52 := by
  have magnitudeLt := widenedMagnitude_of_isFinite finite
  unfold Binary64.specialExponent at magnitudeLt
  rw [Binary64.exponent_ofBits, toNat_toBits_widen finite]
  split <;> omega

theorem fraction_widen (finite : value.isFinite = true) :
    (Binary64.Fields.ofBits (widen value).toBits).fraction =
      (Fields.ofBits value.toBits).widenedMagnitude % 2 ^ 52 := by
  rw [Binary64.fraction_ofBits, toNat_toBits_widen finite]
  split <;> omega

private theorem narrow_widen_of_isFinite (finite : value.isFinite = true) :
    narrow (widen value) = value := by
  unfold narrow
  dsimp only
  rw [narrowedMagnitude_of_widened (isFinite_iff.1 finite) (fraction_lt value.toBits)
    (exponent_widen finite) (fraction_widen finite), negative_widen finite]
  simp only [Nat.pow_eq]
  rw [fields_toNat, UInt32.ofNat_toNat]
  exact pack_unpack value

/-- **Narrowing undoes widening.** -/
theorem narrow_widen (value : Float32) : narrow (widen value) = value := by
  rcases isFinite_or_special value with finite | rfl | ⟨sign, rfl⟩
  · exact narrow_widen_of_isFinite finite
  · decide +kernel
  · cases sign <;> decide +kernel

/-! ## Laws -/

instance lawfulElement : LawfulElement Float32 Float where
  widen_eq_widen := by
    intro element finite isFinite same
    rcases Unpacked.beq_iff.1 same with ⟨unpacked, -⟩ | ⟨leftSign, rightSign, leftZero, rightZero⟩
    · have equal : element = finite := by
        rw [← pack_unpack element, ← pack_unpack finite, unpacked]
      rw [equal]
      exact Binary64.eq_self (isFinite_widen isFinite)
    · rcases eq_or_eq_neg_of_unpack leftZero with rfl | rfl <;>
        rcases eq_or_eq_neg_of_unpack rightZero with rfl | rfl <;> decide +kernel
  sub_eq_zero := by
    intro left right finite isFinite leftEq rightEq
    exact Binary64.sub_eq_zero (Binary64.isFinite_of_eq (isFinite_widen isFinite) leftEq)
      (LawfulArithmetic.eq_of_eq_of_eq leftEq rightEq)
  narrow_eq := by
    intro number finite isFinite same
    rcases Binary64.eq_cases same with equal | ⟨numberZero, wideZero⟩
    · rw [equal]
      change (narrow (widen finite) == finite) = true
      rw [narrow_widen]
      exact Unpacked.beq_self isFinite
    · have undone : narrow (Element.widen finite) = finite := narrow_widen finite
      rcases wideZero with wide | wide <;> rw [wide] at undone <;> rw [← undone] <;>
        rcases numberZero with rfl | rfl <;> decide +kernel
  narrow_eq_zero := by
    intro number zero
    rcases Binary64.eq_or_eq_neg_of_eq_zero zero with rfl | rfl <;> decide +kernel
  narrow_ne := by
    intro number notANumber element
    have stored : (narrow number).isNaN = true := by
      rw [Binary64.eq_of_isNaN notANumber]
      decide +kernel
    change (narrow number).toModel.unpack.beq element.toModel.unpack = false
    rw [Unpacked.isNaN_iff.1 stored]
    exact Unpacked.beq_notANumber _

end Standardize.Binary32
