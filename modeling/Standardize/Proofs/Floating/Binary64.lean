import Standardize.Arithmetic.Binary64
import Standardize.Proofs.Floating.Laws
import Standardize.Proofs.Floating.Unpacked

/-!
Contract: the laws of aggregation in 64-bit floating point.

Owns:
- the sign, the exponent and the fraction of a pattern, as numbers;
- the numbers that equal zero, which are its two patterns;
- the product of a number with zero, which is zero for a finite number and
  otherwise not a number;
- the laws of numbers and of elements.

Does not own: the numbers apart from their patterns.
-/

set_option autoImplicit false

namespace Standardize.Binary64

open Float.Model

/-! ## Patterns -/

/-- A number is its pattern: what it is cut into is packed into it again. -/
theorem pack_unpack (number : Float) :
    Float.ofModel (Float.Model.pack number.toModel.unpack) = number := by
  rcases number with ⟨bits, valid⟩
  have packed := Unpacked.pack_unpack (by decide) valid
  have same : Float.Model.pack (Float.ofModel ⟨bits, valid⟩).toModel.unpack = ⟨bits, valid⟩ :=
    (Float.Model.mk.injEq _ _ _ _).mpr (congrArg UInt64.ofBitVec packed)
  exact congrArg Float.ofModel same

private theorem unpack_pack_zero (sign : UnpackedFloat.Sign) :
    (Float.Model.pack (.zero sign)).unpack = .zero sign := by
  cases sign <;> rfl

private theorem unpack_pack_notANumber :
    (Float.Model.pack .notANumber).unpack = .notANumber := by
  rfl

theorem eq_iff {left right : Float} :
    Arithmetic.eq left right = true ↔ left.toModel.unpack.beq right.toModel.unpack = true :=
  Iff.rfl

theorem eq_self {number : Float} (finite : number.isFinite = true) :
    Arithmetic.eq number number = true :=
  Unpacked.beq_self finite

private theorem eq_zero_iff {number : Float} :
    Arithmetic.eq number 0 = true ↔ ∃ sign, number.toModel.unpack = .zero sign :=
  @Unpacked.beq_zero_iff _ .positive

/-- Zero has two patterns. -/
theorem eq_or_eq_neg_of_unpack
    {number : Float}
    {sign : UnpackedFloat.Sign}
    (unpacked : number.toModel.unpack = .zero sign) :
    number = 0.0 ∨ number = -0.0 := by
  have packed := pack_unpack number
  rw [unpacked] at packed
  cases sign with
  | positive => exact .inl packed.symm
  | negative => exact .inr packed.symm

theorem eq_or_eq_neg_of_eq_zero {number : Float} (zero : Arithmetic.eq number 0 = true) :
    number = 0.0 ∨ number = -0.0 := by
  obtain ⟨sign, unpacked⟩ := eq_zero_iff.1 zero
  exact eq_or_eq_neg_of_unpack unpacked

/-- Equal numbers are the same, unless they are the two zeros. -/
theorem eq_cases {left right : Float} (same : Arithmetic.eq left right = true) :
    left = right ∨ (left = 0.0 ∨ left = -0.0) ∧ (right = 0.0 ∨ right = -0.0) := by
  rcases Unpacked.beq_iff.1 (eq_iff.1 same) with
    ⟨unpacked, -⟩ | ⟨leftSign, rightSign, leftZero, rightZero⟩
  · left
    rw [← pack_unpack left, ← pack_unpack right, unpacked]
  · exact .inr ⟨eq_or_eq_neg_of_unpack leftZero, eq_or_eq_neg_of_unpack rightZero⟩

theorem isNaN_iff {number : Float} :
    Arithmetic.isNaN number = true ↔ number.toModel.unpack = .notANumber :=
  Unpacked.isNaN_iff

/-- What is not a number has one pattern. -/
theorem eq_of_isNaN {number : Float} (notANumber : Arithmetic.isNaN number = true) :
    number = 0.0 / 0.0 := by
  have packed := pack_unpack number
  rw [isNaN_iff.1 notANumber] at packed
  exact packed.symm

/-- A pattern below the highest exponent is kept. -/
theorem toBits_ofBits {bits : UInt64} (below : bits.toNat / 2 ^ 52 % 2 ^ 11 + 1 < 2 ^ 11) :
    (Float.ofBits bits).toBits = bits := by
  have finite : (UnpackedFloat.unpack Format.binary64 bits.toBitVec).isFinite = true :=
    Unpacked.isFinite_unpack_iff.2 below
  have packed := Unpacked.pack_unpack (by decide) (Unpacked.valid_of_isFinite finite)
  exact congrArg UInt64.ofBitVec packed

theorem isFinite_ofBits {bits : UInt64} (below : bits.toNat / 2 ^ 52 % 2 ^ 11 + 1 < 2 ^ 11) :
    (Float.ofBits bits).isFinite = true := by
  change (UnpackedFloat.unpack Format.binary64
    (Float.ofBits bits).toBits.toBitVec).isFinite = true
  rw [toBits_ofBits below]
  exact Unpacked.isFinite_unpack_iff.2 below

theorem negative_ofBits (bits : UInt64) :
    (Fields.ofBits bits).negative = decide (2 ^ 63 ≤ bits.toNat) := by
  change (bits >>> 63 != 0) = _
  rw [Bool.eq_iff_iff, bne_iff_ne, decide_eq_true_iff, ne_eq, ← UInt64.toNat_inj,
    UInt64.toNat_shiftRight]
  change ¬bits.toNat >>> 63 = 0 ↔ _
  rw [Nat.shiftRight_eq_div_pow]
  omega

theorem exponent_ofBits (bits : UInt64) :
    (Fields.ofBits bits).exponent = bits.toNat / 2 ^ 52 % 2 ^ 11 := by
  change ((bits >>> 52) &&& 0x7ff).toNat = _
  rw [UInt64.toNat_and, UInt64.toNat_shiftRight]
  change bits.toNat >>> 52 &&& 2 ^ 11 - 1 = _
  rw [Nat.and_two_pow_sub_one_eq_mod, Nat.shiftRight_eq_div_pow]

theorem fraction_ofBits (bits : UInt64) :
    (Fields.ofBits bits).fraction = bits.toNat % 2 ^ 52 := by
  change (bits &&& 0xfffffffffffff).toNat = _
  rw [UInt64.toNat_and]
  exact Nat.and_two_pow_sub_one_eq_mod bits.toNat 52

/-- A pattern is its sign, its exponent and its fraction. -/
theorem fields_toNat (bits : UInt64) :
    (Fields.ofBits bits).exponent * 2 ^ 52 + (Fields.ofBits bits).fraction +
        (if (Fields.ofBits bits).negative then 2 ^ 63 else 0) =
      bits.toNat := by
  have bitsLt := bits.toNat_lt
  rw [exponent_ofBits, fraction_ofBits, negative_ofBits]
  simp only [decide_eq_true_eq]
  split <;> omega

theorem fraction_lt (bits : UInt64) : (Fields.ofBits bits).fraction < 2 ^ 52 := by
  rw [fraction_ofBits]
  exact Nat.mod_lt _ (Nat.two_pow_pos 52)

/-! ## Operations -/

theorem unpack_add (left right : Float) :
    (left + right).toModel.unpack =
      (Float.Model.pack (left.toModel.unpack.add Format.binary64 right.toModel.unpack)).unpack :=
  rfl

theorem unpack_sub (left right : Float) :
    (left - right).toModel.unpack =
      (Float.Model.pack (left.toModel.unpack.sub Format.binary64 right.toModel.unpack)).unpack :=
  rfl

theorem unpack_mul (left right : Float) :
    (left * right).toModel.unpack =
      (Float.Model.pack (left.toModel.unpack.mul Format.binary64 right.toModel.unpack)).unpack :=
  rfl

theorem unpack_div (left right : Float) :
    (left / right).toModel.unpack =
      (Float.Model.pack (left.toModel.unpack.div Format.binary64 right.toModel.unpack)).unpack :=
  rfl

theorem unpack_sqrt (number : Float) :
    (Arithmetic.sqrt number).toModel.unpack =
      (Float.Model.pack (number.toModel.unpack.sqrt Format.binary64)).unpack :=
  rfl

theorem smaller_eq_or (left right : Float) :
    smaller left right = left ∨ smaller left right = right := by
  unfold smaller
  grind

theorem larger_eq_or (left right : Float) :
    larger left right = left ∨ larger left right = right := by
  unfold larger
  grind

/-- A finite number times zero is zero, and another one times zero is not a number. -/
theorem mul_zero_cases (number : Float) :
    (number.isFinite = true ∧ Arithmetic.eq (number * 0) 0 = true) ∨
      (number.isFinite = false ∧ Arithmetic.isNaN (number * 0) = true) := by
  have unpacked : (number * 0).toModel.unpack =
      (Float.Model.pack (number.toModel.unpack.mul Format.binary64 (.zero .positive))).unpack :=
    unpack_mul number 0
  rcases Unpacked.mul_zero Format.binary64 number.toModel.unpack .positive with
    ⟨finite, sign, product⟩ | ⟨infinite, product⟩
  · left
    rw [product, unpack_pack_zero] at unpacked
    exact ⟨finite, eq_zero_iff.2 ⟨sign, unpacked⟩⟩
  · right
    rw [product, unpack_pack_notANumber] at unpacked
    exact ⟨infinite, isNaN_iff.2 unpacked⟩

/-- Equal finite numbers cancel. -/
theorem sub_eq_zero
    {left right : Float}
    (finite : left.isFinite = true)
    (same : Arithmetic.eq left right = true) :
    Arithmetic.eq (left - right) 0 = true := by
  have unpacked := unpack_sub left right
  obtain ⟨sign, difference⟩ := Unpacked.sub_of_beq Format.binary64 finite same
  rw [difference, unpack_pack_zero] at unpacked
  exact eq_zero_iff.2 ⟨sign, unpacked⟩

/-- What equals a finite number is finite. -/
theorem isFinite_of_eq
    {left right : Float}
    (finite : right.isFinite = true)
    (same : Arithmetic.eq left right = true) :
    left.isFinite = true := by
  rcases Unpacked.beq_iff.1 (eq_iff.1 same) with ⟨unpacked, -⟩ | ⟨sign, -, unpacked, -⟩
  · change left.toModel.unpack.isFinite = true
    rw [unpacked]
    exact finite
  · change left.toModel.unpack.isFinite = true
    rw [unpacked]
    rfl

/-! ## Laws -/

instance lawfulArithmetic : LawfulArithmetic Float where
  eq_of_eq_of_eq := Unpacked.beq_of_beq_of_beq
  isNaN_of_eq := Unpacked.isNaN_of_beq
  eq_smaller := by
    intro left right number leftEq rightEq
    rcases smaller_eq_or left right with first | second
    · exact (congrArg (Arithmetic.eq · number) first).trans leftEq
    · exact (congrArg (Arithmetic.eq · number) second).trans rightEq
  eq_larger := by
    intro left right number leftEq rightEq
    rcases larger_eq_or left right with first | second
    · exact (congrArg (Arithmetic.eq · number) first).trans leftEq
    · exact (congrArg (Arithmetic.eq · number) second).trans rightEq
  lt_of_eq_zero := by
    intro number zero
    rcases eq_or_eq_neg_of_eq_zero zero with rfl | rfl <;> decide +kernel
  zero_eq_zero := by decide +kernel
  mul_zero_eq_zero := by
    intro number zero
    rcases eq_or_eq_neg_of_eq_zero zero with rfl | rfl <;> decide +kernel
  mul_one_eq_zero := by
    intro number zero
    rcases eq_or_eq_neg_of_eq_zero zero with rfl | rfl <;> decide +kernel

/-- A number is stored as it is. -/
instance lawfulElement : LawfulElement Float Float where
  widen_eq_widen := fun _ same => same
  sub_eq_zero := by
    intro left right finite isFinite leftEq rightEq
    exact sub_eq_zero (isFinite_of_eq isFinite leftEq) (Unpacked.beq_of_beq_of_beq leftEq rightEq)
  narrow_eq := fun _ same => same
  narrow_eq_zero := fun zero => zero
  narrow_ne := by
    intro number notANumber element
    change number.toModel.unpack.beq element.toModel.unpack = false
    rw [isNaN_iff.1 notANumber]
    exact Unpacked.beq_notANumber _

end Standardize.Binary64
