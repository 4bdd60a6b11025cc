import Standardize.Proofs.Floating.Comparison
import Standardize.Proofs.Floating.Rounding

/-!
Contract: the signs of rounded results.

Owns:
- `Arithmetic.NonNegative`, zero, what is above it and what is not a number;
- `LawfulSigns`, by which sums, products, squares, roots and quotients do not fall below
  zero, and counts are above it;
- these laws of 64-bit floating point, where a zero counts as such whatever its sign is.

Does not own: the results apart from their signs.
-/

set_option autoImplicit false

namespace Standardize

/-! ## Laws -/

/-- Zero, a number above it, or not a number. -/
def Arithmetic.NonNegative {F : Type} [Arithmetic F] (number : F) : Prop :=
  isNaN number = true ∨ le 0 number = true

open Arithmetic in
/-- Operations that do not go below zero, on operands that are not below it. -/
class LawfulSigns (F : Type) [Arithmetic F] : Prop where
  zero : NonNegative (0 : F)
  of_lt : ∀ {number : F}, lt 0 number = true → NonNegative number
  add : ∀ {left right : F}, NonNegative left → NonNegative right → NonNegative (left + right)
  mul : ∀ {left right : F}, NonNegative left → NonNegative right → NonNegative (left * right)
  mul_self : ∀ number : F, NonNegative (number * number)
  div : ∀ {left right : F}, NonNegative left → lt 0 right = true → NonNegative (left / right)
  lt_ofCount : ∀ {count : Nat}, 0 < count → lt 0 (ofCount count : F) = true
  lt_ofCount_add :
    ∀ {left right : Nat}, 0 < left → 0 < right → lt 0 (ofCount left + ofCount right : F) = true

/-! ## Signs -/

namespace Unpacked

open Float.Model Float.Model.UnpackedFloat

/-- Not below zero. -/
inductive NonNegative : UnpackedFloat → Prop
  | notANumber : NonNegative .notANumber
  | zero (sign : Sign) : NonNegative (.zero sign)
  | finite (significand : Nat) (exponent : Int) (positive : 0 < significand) :
      NonNegative (.finite .positive significand exponent positive)
  | infinity : NonNegative (.infinity .positive)

/-- Above zero. -/
inductive Positive : UnpackedFloat → Prop
  | finite (significand : Nat) (exponent : Int) (positive : 0 < significand) :
      Positive (.finite .positive significand exponent positive)
  | infinity : Positive (.infinity .positive)

theorem Full.positive {low high : Int} {number : UnpackedFloat} (full : Full low high number) :
    Positive number := by
  cases full with
  | intro => exact .finite _ _ _

variable {format : Format}

private theorem nonNegative_roundWithAccuracy
    (significand : Nat)
    (exponent : Int)
    (accuracy : Accuracy) :
    NonNegative (roundWithAccuracy format .positive significand exponent accuracy) := by
  rcases roundWithAccuracy_cases .positive significand exponent accuracy with
    zero | ⟨digits, place, positive, finite⟩
  · rw [zero]
    exact .zero _
  · rw [finite]
    exact .finite _ _ _

private theorem nonNegative_normalize (significand : Nat) (exponent : Int) (zeroSign : Sign) :
    NonNegative (UnpackedFloat.normalize format significand exponent zeroSign) := by
  rcases Nat.eq_zero_or_pos significand with rfl | positive
  · exact .zero zeroSign
  · rw [normalize_natCast format positive]
    exact nonNegative_roundWithAccuracy _ _ _

theorem NonNegative.add
    {left right : UnpackedFloat}
    (leftNonNegative : NonNegative left)
    (rightNonNegative : NonNegative right) :
    NonNegative (left.add format right) := by
  cases leftNonNegative with
  | notANumber => exact .notANumber
  | infinity => cases rightNonNegative <;> constructor
  | zero sign =>
      cases rightNonNegative with
      | zero other => cases sign <;> cases other <;> exact .zero _
      | _ => constructor
  | finite significand exponent positive =>
      cases rightNonNegative with
      | finite other otherExponent otherPositive =>
          have sum := @nonNegative_normalize format
            (significand <<< (exponent - min exponent otherExponent).toNat +
              other <<< (otherExponent - min exponent otherExponent).toNat)
            (min exponent otherExponent) .positive
          rw [Nat.cast_add] at sum
          exact sum
      | _ => constructor

theorem NonNegative.mul
    {left right : UnpackedFloat}
    (leftNonNegative : NonNegative left)
    (rightNonNegative : NonNegative right) :
    NonNegative (left.mul format right) := by
  cases leftNonNegative with
  | notANumber => exact .notANumber
  | infinity => cases rightNonNegative <;> constructor
  | zero sign => cases rightNonNegative <;> constructor
  | finite significand exponent positive =>
      cases rightNonNegative with
      | finite other otherExponent otherPositive => exact nonNegative_roundWithAccuracy _ _ _
      | _ => constructor

/-- A square has the sign of two equal signs. -/
theorem nonNegative_mul_self (number : UnpackedFloat) : NonNegative (number.mul format number) := by
  cases number with
  | notANumber => exact .notANumber
  | infinity sign => cases sign <;> exact .infinity
  | zero sign => exact .zero _
  | finite sign significand exponent positive =>
      cases sign <;> exact nonNegative_roundWithAccuracy _ _ _

theorem NonNegative.div
    {left right : UnpackedFloat}
    (nonNegative : NonNegative left)
    (positive : Positive right) :
    NonNegative (left.div format right) := by
  cases positive with
  | infinity => cases nonNegative <;> constructor
  | finite significand exponent positive =>
      cases nonNegative with
      | finite other otherExponent otherPositive => exact nonNegative_roundWithAccuracy _ _ _
      | _ => constructor

theorem nonNegative_abs (number : UnpackedFloat) : NonNegative number.abs := by
  cases number <;> constructor

/-- What is infinite stays so when something above zero is added. -/
theorem Positive.infinity_add {number : UnpackedFloat} (positive : Positive number) :
    UnpackedFloat.add format (.infinity .positive) number = .infinity .positive := by
  cases positive <;> rfl

theorem Positive.add_infinity {number : UnpackedFloat} (positive : Positive number) :
    number.add format (.infinity .positive) = .infinity .positive := by
  cases positive <;> rfl

/-! ## Comparisons with zero -/

theorem nonNegative_iff {number : UnpackedFloat} :
    NonNegative number ↔
      number.isNaN = true ∨ (UnpackedFloat.zero .positive).le number = true := by
  constructor
  · intro nonNegative
    cases nonNegative with
    | notANumber => exact .inl rfl
    | _ => exact .inr rfl
  · rintro (notANumber | above)
    · rw [isNaN_iff.1 notANumber]
      exact .notANumber
    · cases number with
      | notANumber => exact .notANumber
      | infinity sign =>
          cases sign with
          | negative => cases above
          | positive => exact .infinity
      | zero sign => exact .zero sign
      | finite sign significand exponent positive =>
          cases sign with
          | negative => cases above
          | positive => exact .finite _ _ _

private theorem positive_iff {number : UnpackedFloat} :
    Positive number ↔ (UnpackedFloat.zero .positive).lt number = true := by
  constructor
  · intro positive
    cases positive <;> rfl
  · intro above
    cases number with
    | notANumber => cases above
    | infinity sign =>
        cases sign with
        | negative => cases above
        | positive => exact .infinity
    | zero sign => cases above
    | finite sign significand exponent positive =>
        cases sign with
        | negative => cases above
        | positive => exact .finite _ _ _

theorem Positive.nonNegative {number : UnpackedFloat} (positive : Positive number) :
    NonNegative number := by
  cases positive <;> constructor

/-! ## Patterns -/

private theorem nonNegative_unpack
    {bits : BitVec format.numBits}
    (positive : Sign.ofBitVec (unpackSign bits) = .positive) :
    NonNegative (UnpackedFloat.unpack format bits) := by
  change NonNegative (ofParts (Sign.ofBitVec (unpackSign bits)) _ _)
  rw [positive]
  unfold ofParts
  by_cases special : unpackExponent bits = -1#_
  · rw [if_pos special]
    by_cases infinite : unpackMantissa bits = 0#_
    · rw [if_pos infinite]
      exact .infinity
    · rw [if_neg infinite]
      exact .notANumber
  · rw [if_neg special]
    by_cases subnormal : unpackExponent bits = 0#_
    · rw [if_pos subnormal]
      by_cases zero : unpackMantissa bits = 0#_
      · rw [dif_pos zero]
        exact .zero _
      · rw [dif_neg zero]
        exact .finite _ _ _
    · rw [if_neg subnormal]
      exact .finite _ _ _

private theorem nonNegative_unpack_packComponents
    (exponent : BitVec format.exponentBits)
    (fraction : BitVec format.mantissaBitsWithoutImplicit) :
    NonNegative
      (UnpackedFloat.unpack format (packComponents format .positive exponent fraction)) := by
  apply nonNegative_unpack
  rw [unpackSign_packComponents, ofBitVec_toBitVec]

theorem NonNegative.unpack_pack
    {number : UnpackedFloat}
    (nonNegative : NonNegative number) :
    NonNegative (UnpackedFloat.unpack Format.binary64
      (UnpackedFloat.pack Format.binary64 number)) := by
  cases nonNegative with
  | zero sign => cases sign <;> exact .zero _
  | finite significand exponent positive =>
      unfold UnpackedFloat.pack
      dsimp only
      split
      · exact nonNegative_unpack_packComponents _ _
      · split <;> exact nonNegative_unpack_packComponents _ _
  | _ => exact nonNegative_unpack_packComponents _ _

/-- A number with all digits is above zero, and so is its pattern. -/
theorem Full.positive_unpack_pack
    {low high : Int}
    {number : UnpackedFloat}
    (full : Full low high number)
    (normal : -1022 ≤ low) :
    Positive (UnpackedFloat.unpack Format.binary64
      (UnpackedFloat.pack Format.binary64 number)) := by
  rcases full.unpack_pack normal with kept | ⟨-, infinite⟩
  · rw [kept]
    exact full.positive
  · rw [infinite]
    exact .infinity

end Unpacked

/-! ## Numbers of 64 bits -/

namespace Binary64

open Float.Model Unpacked

theorem nonNegative_iff {number : Float} :
    Arithmetic.NonNegative number ↔ Unpacked.NonNegative number.toModel.unpack := by
  have decided : (0 : Float) ≤ number ↔
      (UnpackedFloat.zero .positive).le number.toModel.unpack = true :=
    decide_eq_true_iff
  rw [Unpacked.nonNegative_iff, ← decided, ← decide_eq_true_iff (p := 0 ≤ number)]
  rfl

theorem lt_zero_iff {number : Float} :
    Arithmetic.lt 0 number = true ↔ Unpacked.Positive number.toModel.unpack := by
  have decided : (0 : Float) < number ↔
      (UnpackedFloat.zero .positive).lt number.toModel.unpack = true :=
    decide_eq_true_iff
  rw [Unpacked.positive_iff, ← decided]
  exact decide_eq_true_iff

/-! ## Counts -/

theorem unpack_pack_of_full
    {low high : Int}
    {number : UnpackedFloat}
    (full : Full low high number)
    (normal : -1022 ≤ low)
    (finite : high ≤ 1023) :
    (Float.Model.pack number).unpack = number :=
  (full.unpack_pack normal).resolve_right fun infinite => absurd infinite.1 (by omega)

theorem full_one : Full 0 0 (Float.ofBits 0x3FF0000000000000).toModel.unpack :=
  full_power (rfl : _ = UnpackedFloat.finite .positive (2 ^ 52) (-52) (by decide))

private theorem full_ofNat {count : Nat} (positive : 0 < count) :
    Full count.log2 (count.log2 + 1) (UnpackedFloat.ofNat Format.binary64 count) := by
  have rounded := full_round positive (by omega : -1022 ≤ (count.log2 : Int) + 0)
  rw [← normalize_natCast Format.binary64 positive 0 .positive, Int.add_zero] at rounded
  exact rounded

theorem unpack_ofCount_of_lt {count : Nat} (small : count < 2 ^ 53) :
    (Arithmetic.ofCount count : Float).toModel.unpack =
      (Float.Model.pack (UnpackedFloat.mul Format.binary64
        (Float.Model.pack (UnpackedFloat.ofNat Format.binary64 count.toUInt64.toNat)).unpack
        (Float.ofBits 0x3FF0000000000000).toModel.unpack)).unpack := by
  have fast : (Arithmetic.ofCount count : Float) =
      count.toUInt64.toFloat * Float.ofBits 0x3FF0000000000000 :=
    dif_pos ⟨small, by decide⟩
  rw [fast]
  rfl

theorem unpack_ofCount_of_le {count : Nat} (large : 2 ^ 53 ≤ count) :
    (Arithmetic.ofCount count : Float).toModel.unpack =
      (Float.Model.pack (UnpackedFloat.ofScientific Format.binary64 count 0)).unpack := by
  have slow : (Arithmetic.ofCount count : Float) =
      Float.ofModel (Float.Model.ofScientific count 0) :=
    dif_neg fun small => absurd small.1 (by omega)
  rw [slow]
  rfl

private theorem full_ofScientific {count : Nat} (positive : 0 < count) :
    Full count.log2 (count.log2 + 1) (UnpackedFloat.ofScientific Format.binary64 count 0) := by
  have digits : (count <<< 53 * 10 ^ (0 : Int).toNat).log2 = count.log2 + 53 := by
    rw [Int.toNat_zero, Nat.pow_zero, Nat.mul_one, log2_shiftLeft positive]
  have rounded := full_roundWithAccuracy
    (by omega : 52 ≤ (count <<< 53 * 10 ^ (0 : Int).toNat).log2)
    (by omega : -1022 ≤ (count <<< 53 * 10 ^ (0 : Int).toNat).log2 + ((-53 : Int) + 0)) .exact
  have room : (0 : Int) ≤ 2 ^ Format.binary64.exponentBits := by positivity
  unfold UnpackedFloat.ofScientific
  rw [dif_neg positive.ne', if_neg (by decide), if_neg (by omega), if_pos (le_refl 0)]
  exact rounded.mono (by omega) (by omega)

/-- A count from one on is a number from one on, or too large for a number. -/
private theorem ofCount_cases {count : Nat} (positive : 0 < count) :
    (∃ high, Full 0 high (Arithmetic.ofCount count : Float).toModel.unpack) ∨
      (Arithmetic.ofCount count : Float).toModel.unpack = .infinity .positive := by
  by_cases small : count < 2 ^ 53
  · have digits := (Nat.log2_lt positive.ne').2 small
    have same : count.toUInt64.toNat = count := Nat.mod_eq_of_lt (by omega)
    have number := full_ofNat positive
    have kept := unpack_pack_of_full number (by omega) (by omega)
    have product := number.mul full_one (by omega)
    have productKept := unpack_pack_of_full product (by omega) (by omega)
    rw [unpack_ofCount_of_lt small, same, kept, productKept]
    exact .inl ⟨_, product.mono (by omega) (le_refl _)⟩
  · have number := full_ofScientific positive
    rw [unpack_ofCount_of_le (Nat.le_of_not_lt small)]
    rcases number.unpack_pack (by omega) with kept | ⟨-, infinite⟩
    · rw [show (Float.Model.pack _).unpack = _ from kept]
      exact .inl ⟨_, number.mono (by omega) (le_refl _)⟩
    · exact .inr infinite

private theorem lt_zero_ofCount {count : Nat} (positive : 0 < count) :
    Arithmetic.lt 0 (Arithmetic.ofCount count : Float) = true := by
  rw [lt_zero_iff]
  rcases ofCount_cases positive with ⟨high, full⟩ | infinite
  · exact full.positive
  · rw [infinite]
    exact .infinity

private theorem lt_zero_ofCount_add
    {left right : Nat}
    (leftPositive : 0 < left)
    (rightPositive : 0 < right) :
    Arithmetic.lt 0 (Arithmetic.ofCount left + Arithmetic.ofCount right : Float) = true := by
  rw [lt_zero_iff, unpack_add]
  rcases ofCount_cases leftPositive with ⟨leftHigh, leftFull⟩ | leftInfinite
  · rcases ofCount_cases rightPositive with ⟨rightHigh, rightFull⟩ | rightInfinite
    · exact (leftFull.add rightFull (by omega)).positive_unpack_pack (by omega)
    · rw [rightInfinite, leftFull.positive.add_infinity]
      exact .infinity
  · rw [leftInfinite, (lt_zero_iff.1 (lt_zero_ofCount rightPositive)).infinity_add]
    exact .infinity

/-! ## Laws -/

instance lawfulSigns : LawfulSigns Float where
  zero := nonNegative_iff.2 (.zero .positive)
  of_lt := fun above => nonNegative_iff.2 (lt_zero_iff.1 above).nonNegative
  add := by
    intro left right leftNonNegative rightNonNegative
    rw [nonNegative_iff] at leftNonNegative rightNonNegative
    rw [nonNegative_iff, unpack_add]
    exact (leftNonNegative.add rightNonNegative).unpack_pack
  mul := by
    intro left right leftNonNegative rightNonNegative
    rw [nonNegative_iff] at leftNonNegative rightNonNegative
    rw [nonNegative_iff, unpack_mul]
    exact (leftNonNegative.mul rightNonNegative).unpack_pack
  mul_self := by
    intro number
    rw [nonNegative_iff, unpack_mul]
    exact (nonNegative_mul_self _).unpack_pack
  div := by
    intro left right nonNegative positive
    rw [nonNegative_iff] at nonNegative
    rw [nonNegative_iff, unpack_div]
    exact (nonNegative.div (lt_zero_iff.1 positive)).unpack_pack
  lt_ofCount := lt_zero_ofCount
  lt_ofCount_add := lt_zero_ofCount_add

end Binary64

end Standardize
