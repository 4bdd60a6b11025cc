import Standardize.Proofs.Floating.Signs
import Standardize.Statistics

/-!
Contract: square roots and their reciprocals in 64-bit floating point.

Owns:
- the root of a number above zero, whose leading digit is far from both ends of the
  range, so that its reciprocal is a finite number;
- the rounding allowance of given sums, which is a finite number above zero for any
  finite number of rows;
- the variance from given sums, which is not below zero, also where the bound that it
  is compared with is not a number.

Does not own: scales and statistics of a table.
-/

set_option autoImplicit false

namespace Standardize

namespace Unpacked

open Float.Model Float.Model.UnpackedFloat

variable {format : Format}

/-! ## What is not a number -/

private theorem isNaN_unpack_packComponents
    {sign : Sign}
    {exponent : BitVec format.exponentBits}
    {fraction : BitVec format.mantissaBitsWithoutImplicit}
    (notANumber : (UnpackedFloat.unpack format
      (packComponents format sign exponent fraction)).isNaN = true) :
    exponent = -1#_ ∧ fraction ≠ 0#_ := by
  rw [unpack_packComponents] at notANumber
  unfold ofParts at notANumber
  by_cases special : exponent = -1#_
  · rw [if_pos special] at notANumber
    refine ⟨special, fun infinite => ?_⟩
    rw [if_pos infinite] at notANumber
    cases notANumber
  · rw [if_neg special] at notANumber
    by_cases subnormal : exponent = 0#_
    · rw [if_pos subnormal] at notANumber
      by_cases zero : fraction = 0#_
      · rw [dif_pos zero] at notANumber
        cases notANumber
      · rw [dif_neg zero] at notANumber
        cases notANumber
    · rw [if_neg subnormal] at notANumber
      cases notANumber

/-- No pattern of a number is that of what is not a number. -/
private theorem eq_notANumber_of_unpack_pack
    {number : UnpackedFloat}
    (notANumber : (UnpackedFloat.unpack format (UnpackedFloat.pack format number)).isNaN = true) :
    number = .notANumber := by
  cases number with
  | notANumber => rfl
  | infinity sign => exact absurd rfl (isNaN_unpack_packComponents notANumber).2
  | zero sign => exact absurd rfl (isNaN_unpack_packComponents notANumber).2
  | finite sign significand exponent positive =>
      unfold UnpackedFloat.pack at notANumber
      dsimp only at notANumber
      split at notANumber
      · exact absurd rfl (isNaN_unpack_packComponents notANumber).2
      · rename_i below
        have room : 2 ^ 1 ≤ 2 ^ format.exponentBits := Nat.pow_le_pow_right (by decide) format.he
        split at notANumber
        · have highest := congrArg BitVec.toNat (isNaN_unpack_packComponents notANumber).1
          rw [BitVec.neg_one_eq_allOnes, BitVec.toNat_allOnes, BitVec.toNat_ofNat,
            Nat.mod_eq_of_lt (by omega)] at highest
          omega
        · have highest := congrArg BitVec.toNat (isNaN_unpack_packComponents notANumber).1
          rw [BitVec.neg_one_eq_allOnes, BitVec.toNat_allOnes, BitVec.toNat_zero] at highest
          omega

/-- The product of a finite number that is not zero is a number, if the other factor is. -/
theorem Full.eq_notANumber_of_mul
    {low high : Int}
    {left right : UnpackedFloat}
    (full : Full low high left)
    (undefined : left.mul format right = .notANumber) :
    right = .notANumber := by
  cases full with
  | intro =>
      cases right with
      | notANumber => rfl
      | infinity sign => cases undefined
      | zero sign => cases undefined
      | finite sign significand exponent positive =>
          change roundWithAccuracy format _ _ _ .exact = .notANumber at undefined
          rcases roundWithAccuracy_cases _ _ _ _ with zero | ⟨digits, place, positive, finite⟩
          · cases zero.symm.trans undefined
          · cases finite.symm.trans undefined

private theorem eq_notANumber_of_abs
    {number : UnpackedFloat}
    (undefined : number.abs = .notANumber) :
    number = .notANumber := by
  cases number with
  | notANumber => rfl
  | _ => cases undefined

/-- A number that is zero, or what is not a number. -/
inductive Vanishing : UnpackedFloat → Prop
  | notANumber : Vanishing .notANumber
  | zero (sign : Sign) : Vanishing (.zero sign)

private theorem vanishing_div_infinity (number : UnpackedFloat) (sign : Sign) :
    Vanishing (number.div format (.infinity sign)) := by
  cases number <;> constructor

theorem Vanishing.mul_self {number : UnpackedFloat} (vanishing : Vanishing number) :
    Vanishing (number.mul format number) := by
  cases vanishing <;> constructor

theorem Vanishing.sub
    {left right : UnpackedFloat}
    (leftVanishing : Vanishing left)
    (rightVanishing : Vanishing right) :
    Vanishing (left.sub format right) := by
  cases leftVanishing with
  | notANumber => exact .notANumber
  | zero sign =>
      cases rightVanishing with
      | notANumber => exact .notANumber
      | zero other =>
          obtain ⟨difference, same⟩ := sub_zeros format sign other
          rw [same]
          exact .zero difference

theorem Vanishing.unpack_pack {number : UnpackedFloat} (vanishing : Vanishing number) :
    Vanishing (UnpackedFloat.unpack Format.binary64
      (UnpackedFloat.pack Format.binary64 number)) := by
  cases vanishing with
  | notANumber => exact .notANumber
  | zero sign => cases sign <;> exact .zero _

theorem Vanishing.nonNegative {number : UnpackedFloat} (vanishing : Vanishing number) :
    NonNegative number := by
  cases vanishing <;> constructor

end Unpacked

namespace Binary64

open Float.Model Unpacked

/-! ## Roots -/

/-- The root of a finite number above zero is one whose leading digit is far from both
ends of the range. -/
private theorem sqrt_cases {number : Float} (positive : Arithmetic.lt 0 number = true) :
    Full (-537) 512 (Arithmetic.sqrt number).toModel.unpack ∨
      number.toModel.unpack = .infinity .positive := by
  have above := lt_zero_iff.1 positive
  have root := unpack_sqrt number
  cases unpacked : number.toModel.unpack with
  | finite sign significand exponent some =>
      rw [unpacked] at above root
      cases above
      have bounds := log2_bounds_of_unpack unpacked
      have full := full_sqrt some bounds.1
      rw [unpack_pack_of_full full (by omega) (by omega)] at root
      rw [root]
      exact .inl (full.mono (by omega) (by omega))
  | infinity sign =>
      rw [unpacked] at above
      cases above
      exact .inr rfl
  | _ =>
      rw [unpacked] at above
      cases above

private theorem unpack_sqrt_of_infinity
    {number : Float}
    (infinite : number.toModel.unpack = .infinity .positive) :
    (Arithmetic.sqrt number).toModel.unpack = .infinity .positive := by
  rw [unpack_sqrt, infinite]
  rfl

private theorem lt_zero_sqrt {number : Float} (positive : Arithmetic.lt 0 number = true) :
    Arithmetic.lt 0 (Arithmetic.sqrt number) = true := by
  rw [lt_zero_iff]
  rcases sqrt_cases positive with full | infinite
  · exact full.positive
  · rw [unpack_sqrt_of_infinity infinite]
    exact .infinity

private theorem isFinite_reciprocal_root
    {number : Float}
    (positive : Arithmetic.lt 0 number = true) :
    (1 / Arithmetic.sqrt number).isFinite = true := by
  have one : (1 : Float).toModel.unpack = (Float.ofBits 0x3FF0000000000000).toModel.unpack := rfl
  change (1 / Arithmetic.sqrt number).toModel.unpack.isFinite = true
  rw [unpack_div, one]
  rcases sqrt_cases positive with full | infinite
  · have quotient := full_one.div full (by omega)
    rw [unpack_pack_of_full quotient (by omega) (by omega)]
    exact quotient.isFinite
  · rw [unpack_sqrt_of_infinity infinite]
    rfl

/-- **The scale of a column.** The reciprocal of the root of a number above zero is
finite and not below zero. -/
theorem reciprocal_root {number : Float} (positive : Arithmetic.lt 0 number = true) :
    (1 / Arithmetic.sqrt number).isFinite = true ∧
      Arithmetic.le 0 (1 / Arithmetic.sqrt number) = true := by
  have finite := isFinite_reciprocal_root positive
  have one : Arithmetic.NonNegative (1 : Float) := .inr (by decide +kernel)
  refine ⟨finite, (LawfulSigns.div one (lt_zero_sqrt positive)).resolve_left fun notANumber => ?_⟩
  change (1 / Arithmetic.sqrt number).toModel.unpack.isFinite = true at finite
  rw [isNaN_iff.1 notANumber] at finite
  cases finite

/-! ## The allowance of given sums -/

/-- For a finite number of rows the allowance is a finite number above zero. -/
private theorem roundingAllowance_cases {rows : Float} (positive : Arithmetic.lt 0 rows = true) :
    Full (-586) 519 (Statistics.roundingAllowance rows).toModel.unpack ∨
      rows.toModel.unpack = .infinity .positive := by
  rcases sqrt_cases positive with root | infinite
  · left
    have eight : Full 3 3 (Arithmetic.ofCount 8 : Float).toModel.unpack :=
      full_power (rfl : _ = UnpackedFloat.finite .positive (2 ^ 52) (-49) (by decide))
    have unit : Full (-52) (-52) (Arithmetic.epsilon : Float).toModel.unpack :=
      full_power (rfl : _ = UnpackedFloat.finite .positive (2 ^ 52) (-104) (by decide))
    have first := eight.mul root (by omega)
    have second := first.mul unit (by omega)
    rw [Statistics.roundingAllowance, unpack_mul, unpack_mul,
      unpack_pack_of_full first (by omega) (by omega),
      unpack_pack_of_full second (by omega) (by omega)]
    exact second.mono (by omega) (by omega)
  · exact .inr infinite

private theorem nonNegative_roundingAllowance
    {rows : Float}
    (positive : Arithmetic.lt 0 rows = true) :
    Arithmetic.NonNegative (Statistics.roundingAllowance rows) := by
  have eight : Arithmetic.NonNegative (Arithmetic.ofCount 8 : Float) :=
    LawfulSigns.of_lt (LawfulSigns.lt_ofCount (by decide))
  have unit : Arithmetic.NonNegative (Arithmetic.epsilon : Float) := .inr (by decide +kernel)
  exact LawfulSigns.mul (LawfulSigns.mul eight (LawfulSigns.of_lt (lt_zero_sqrt positive))) unit

theorem nonNegative_abs (number : Float) : Arithmetic.NonNegative (Arithmetic.abs number) :=
  nonNegative_iff.2 (Unpacked.nonNegative_abs _).unpack_pack

/-- Where the bound for a variance is not a number, the variance is not one either, or it
is zero, which it is for more rows than there are numbers. -/
private theorem nonNegative_of_isNaN_bound
    {rows : Float}
    (positive : Arithmetic.lt 0 rows = true)
    (sum sumOfSquares : Float)
    (undefined : Arithmetic.isNaN
      (Statistics.roundingAllowance rows * Arithmetic.abs (sumOfSquares / rows)) = true) :
    Arithmetic.NonNegative (sumOfSquares / rows - sum / rows * (sum / rows)) := by
  rw [nonNegative_iff, unpack_sub, unpack_mul]
  rcases roundingAllowance_cases positive with allowance | infinite
  · have product := eq_notANumber_of_unpack_pack undefined
    have absolute := isNaN_iff.2 (allowance.eq_notANumber_of_mul product)
    rw [eq_notANumber_of_abs (eq_notANumber_of_unpack_pack absolute)]
    exact NonNegative.notANumber.unpack_pack
  · have vanishing (number : Float) : Vanishing (number / rows).toModel.unpack := by
      rw [unpack_div, infinite]
      exact (vanishing_div_infinity _ _).unpack_pack
    exact ((vanishing sumOfSquares).sub
      (vanishing sum).mul_self.unpack_pack).unpack_pack.nonNegative

/-- **Given sums make no negative variance**, whatever they are. -/
theorem nonNegative_ofSum
    {rows : Float}
    (positive : Arithmetic.lt 0 rows = true)
    (sum sumOfSquares : Float) :
    Arithmetic.NonNegative (Statistics.ofSum rows sum sumOfSquares).2 := by
  unfold Statistics.ofSum
  dsimp only
  split
  · exact LawfulSigns.zero
  · rename_i above
    have bound : Arithmetic.NonNegative
        (Statistics.roundingAllowance rows * Arithmetic.abs (sumOfSquares / rows)) :=
      LawfulSigns.mul (nonNegative_roundingAllowance positive) (nonNegative_abs _)
    rcases bound with undefined | bound
    · exact nonNegative_of_isNaN_bound positive sum sumOfSquares undefined
    · by_cases number : Arithmetic.isNaN (sumOfSquares / rows - sum / rows * (sum / rows)) = true
      · exact .inl number
      · right
        have below := (LawfulOrder.le_total (Bool.eq_false_iff.2 number)
          (LawfulOrder.isNaN_of_le bound).2).resolve_left above
        exact LawfulOrder.le_trans bound below

end Binary64

end Standardize
