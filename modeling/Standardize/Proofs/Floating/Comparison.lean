import Mathlib.Algebra.Order.Ring.Int
import Mathlib.Data.Nat.Cast.Order.Basic
import Mathlib.Data.Prod.Lex
import Mathlib.Tactic.Tauto
import Standardize.Proofs.Floating.Binary32

/-!
Contract: how rounded numbers compare.

Owns:
- `LawfulOrder`, by which numbers are compared as a linear order compares them, and
  the smaller and the larger of two are found in it, past what is not a number;
- `LawfulEquality`, by which elements equal one another as the numbers do that they
  widen to;
- both laws of 64-bit and 32-bit floating point, where the order is that of sign,
  exponent and significand, and the two zeros are one.

Does not own: arithmetic.
-/

set_option autoImplicit false

namespace Standardize

/-! ## Laws -/

/-- A choice between two numbers that takes the one that comes before the other, and
passes over what is not a number. -/
structure Picks {F : Type} [Arithmetic F] (before : F → F → Bool) (pick : F → F → F) : Prop where
  eq_or : ∀ left right, pick left right = left ∨ pick left right = right
  skips :
    ∀ {left right}, Arithmetic.isNaN left = false → Arithmetic.isNaN right = true →
      pick left right = left
  before_left :
    ∀ {left right}, Arithmetic.isNaN left = false → Arithmetic.isNaN right = false →
      before (pick left right) left = true
  before_right :
    ∀ {left right}, Arithmetic.isNaN left = false → Arithmetic.isNaN right = false →
      before (pick left right) right = true

/-- Numbers in a linear order, which what is not a number has no place in. -/
class LawfulOrder (F : Type) [Arithmetic F] : Prop where
  isNaN_zero : Arithmetic.isNaN (0 : F) = false
  isNaN_of_le :
    ∀ {left right : F}, Arithmetic.le left right = true →
      Arithmetic.isNaN left = false ∧ Arithmetic.isNaN right = false
  le_total :
    ∀ {left right : F}, Arithmetic.isNaN left = false → Arithmetic.isNaN right = false →
      Arithmetic.le left right = true ∨ Arithmetic.le right left = true
  le_trans :
    ∀ {low middle high : F}, Arithmetic.le low middle = true → Arithmetic.le middle high = true →
      Arithmetic.le low high = true
  lt_iff :
    ∀ {left right : F}, Arithmetic.lt left right = true ↔
      Arithmetic.le left right = true ∧ Arithmetic.le right left = false
  eq_iff :
    ∀ {left right : F}, Arithmetic.eq left right = true ↔
      Arithmetic.le left right = true ∧ Arithmetic.le right left = true
  smaller_picks : Picks Arithmetic.le (Arithmetic.smaller (F := F))
  larger_picks : Picks (fun left right => Arithmetic.le right left) (Arithmetic.larger (F := F))

/-- Elements that are equal where the numbers are that they widen to. -/
class LawfulEquality (T F : Type) [Arithmetic F] [Element T F] : Prop where
  eq_widen :
    ∀ left right : T,
      Arithmetic.eq (Element.widen left : F) (Element.widen right) = Element.eq left right

section Order

variable {F : Type} [Arithmetic F] [LawfulOrder F]

/-- A number equals itself, and what is not a number does not. -/
theorem eq_self_iff {number : F} :
    Arithmetic.eq number number = true ↔ Arithmetic.isNaN number = false := by
  rw [LawfulOrder.eq_iff, and_self]
  constructor
  · intro reflexive
    exact (LawfulOrder.isNaN_of_le reflexive).1
  · intro isNumber
    exact or_self_iff.1 (LawfulOrder.le_total isNumber isNumber)

/-- What is not above zero is at most zero, or it is not a number. -/
theorem lt_zero_eq_false_iff {number : F} :
    Arithmetic.lt 0 number = false ↔
      Arithmetic.le number 0 = true ∨ Arithmetic.isNaN number = true := by
  rw [← Bool.not_eq_true, LawfulOrder.lt_iff]
  constructor
  · intro notAbove
    cases isNumber : Arithmetic.isNaN number with
    | true => exact .inr rfl
    | false =>
        left
        by_contra above
        rcases LawfulOrder.le_total LawfulOrder.isNaN_zero isNumber with below | atMost
        · exact notAbove ⟨below, Bool.eq_false_iff.2 above⟩
        · exact above atMost
  · rintro (atMost | notANumber) ⟨below, above⟩
    · rw [atMost] at above
      cases above
    · rw [(LawfulOrder.isNaN_of_le below).2] at notANumber
      cases notANumber

end Order

/-! ## Ranks -/

namespace Unpacked

open Float.Model Float.Model.UnpackedFloat

/-- Where a number stands: its sign and kind first, then its exponent, then its
significand. Both zeros stand in one place. -/
def rank : UnpackedFloat → Int ×ₗ Int ×ₗ Int
  | .infinity .negative => toLex (-2, toLex (0, 0))
  | .finite .negative significand exponent _ =>
      toLex (-1, toLex (-exponent, -(significand : Int)))
  | .zero _ => toLex (0, toLex (0, 0))
  | .notANumber => toLex (0, toLex (0, 0))
  | .finite .positive significand exponent _ => toLex (1, toLex (exponent, (significand : Int)))
  | .infinity .positive => toLex (2, toLex (0, 0))

private theorem compare_toLex
    (leftKind leftExponent leftRest rightKind rightExponent rightRest : Int) :
    compare (toLex (leftKind, toLex (leftExponent, leftRest)))
        (toLex (rightKind, toLex (rightExponent, rightRest))) =
      (compare leftKind rightKind).then
        ((compare leftExponent rightExponent).then (compare leftRest rightRest)) :=
  rfl

private theorem compare_natCast (left right : Nat) :
    compare (left : Int) (right : Int) = compare left right := by
  rw [← cmp_eq_compare, ← cmp_eq_compare]
  exact Nat.strictMono_cast.cmp_map_eq left right

private theorem compare_neg (left right : Int) : compare (-left) (-right) = compare right left := by
  have reverses : StrictAnti fun number : Int => -number := fun _ _ => neg_lt_neg
  rw [← cmp_eq_compare, ← cmp_eq_compare]
  exact reverses.cmp_map_eq left right

/-- **Numbers compare as their ranks do.** -/
theorem compare_eq_compare_rank
    {left right : UnpackedFloat}
    (leftNumber : left.isNaN = false)
    (rightNumber : right.isNaN = false) :
    left.compare right = some (compare (rank left) (rank right)) := by
  cases left with
  | notANumber => cases leftNumber
  | infinity sign =>
      cases right with
      | notANumber => cases rightNumber
      | infinity other => cases sign <;> cases other <;> rfl
      | zero other => cases sign <;> rfl
      | finite other significand exponent positive => cases sign <;> cases other <;> rfl
  | zero sign =>
      cases right with
      | notANumber => cases rightNumber
      | infinity other => cases other <;> rfl
      | zero other => rfl
      | finite other significand exponent positive => cases other <;> rfl
  | finite sign significand exponent positive =>
      cases right with
      | notANumber => cases rightNumber
      | infinity other => cases sign <;> cases other <;> rfl
      | zero other => cases sign <;> rfl
      | finite other otherSignificand otherExponent otherPositive =>
          cases sign with
          | positive =>
              cases other with
              | negative => rfl
              | positive =>
                  change _ = some (compare
                    (toLex ((1 : Int), toLex (exponent, (significand : Int))))
                    (toLex ((1 : Int), toLex (otherExponent, (otherSignificand : Int)))))
                  rw [compare_toLex, compare_natCast]
                  rfl
          | negative =>
              cases other with
              | positive => rfl
              | negative =>
                  change some (Ordering.swap _) =
                    some (compare (toLex ((-1 : Int), toLex (-exponent, -(significand : Int))))
                      (toLex ((-1 : Int), toLex (-otherExponent, -(otherSignificand : Int)))))
                  rw [compare_toLex, compare_neg exponent, compare_neg significand,
                    compare_natCast, Ordering.swap_then, Int.compare_swap, Nat.compare_swap]
                  rfl

private theorem compare_eq_none
    {left right : UnpackedFloat}
    (notNumbers : left.isNaN = true ∨ right.isNaN = true) :
    left.compare right = none := by
  rcases notNumbers with notANumber | notANumber <;> cases isNaN_iff.1 notANumber
  · cases right <;> rfl
  · cases left with
    | finite sign => cases sign <;> rfl
    | infinity sign => cases sign <;> rfl
    | _ => rfl

/-- A comparison of numbers holds of what is compared if both are numbers and it holds of
their ranks. -/
private theorem any_compare_iff
    (accepts : Ordering → Bool)
    (left right : UnpackedFloat) :
    (left.compare right).any accepts = true ↔
      left.isNaN = false ∧ right.isNaN = false ∧
        accepts (compare (rank left) (rank right)) = true := by
  by_cases notNumbers : left.isNaN = true ∨ right.isNaN = true
  · rw [compare_eq_none notNumbers]
    simp only [Option.any_none, Bool.false_eq_true, false_iff]
    rintro ⟨leftNumber, rightNumber, -⟩
    rcases notNumbers with notANumber | notANumber <;> simp_all
  · rw [not_or, Bool.not_eq_true, Bool.not_eq_true] at notNumbers
    rw [compare_eq_compare_rank notNumbers.1 notNumbers.2, Option.any_some]
    simp [notNumbers]

theorem le_iff {left right : UnpackedFloat} :
    left.le right = true ↔
      left.isNaN = false ∧ right.isNaN = false ∧ rank left ≤ rank right := by
  refine (any_compare_iff Ordering.isLE left right).trans ?_
  rw [Ordering.isLE_iff_ne_gt, ← ne_eq, compare_le_iff_le]

theorem lt_iff {left right : UnpackedFloat} :
    left.lt right = true ↔
      left.isNaN = false ∧ right.isNaN = false ∧ rank left < rank right := by
  have decided : left.lt right = (left.compare right).any (· == .lt) := by
    unfold UnpackedFloat.lt
    cases left.compare right <;> rfl
  rw [decided, any_compare_iff, beq_iff_eq, compare_lt_iff_lt]

private theorem beq_iff_rank {left right : UnpackedFloat} :
    left.beq right = true ↔
      left.isNaN = false ∧ right.isNaN = false ∧ rank left = rank right := by
  have decided : left.beq right = (left.compare right).any (· == .eq) := by
    unfold UnpackedFloat.beq
    cases left.compare right <;> rfl
  rw [decided, any_compare_iff, beq_iff_eq, compare_eq_iff_eq]

end Unpacked

/-! ## Numbers of 64 bits -/

namespace Binary64

/-- Where a number stands among all numbers. -/
def rank (number : Float) : Int ×ₗ Int ×ₗ Int :=
  Unpacked.rank number.toModel.unpack

theorem le_iff {left right : Float} :
    Arithmetic.le left right = true ↔
      Arithmetic.isNaN left = false ∧ Arithmetic.isNaN right = false ∧ rank left ≤ rank right := by
  have decided : left ≤ right ↔ left.toModel.unpack.le right.toModel.unpack = true :=
    decide_eq_true_iff
  change decide (left ≤ right) = true ↔ _
  rw [decide_eq_true_iff, decided]
  exact Unpacked.le_iff

theorem lt_iff {left right : Float} :
    Arithmetic.lt left right = true ↔
      Arithmetic.isNaN left = false ∧ Arithmetic.isNaN right = false ∧ rank left < rank right := by
  have decided : left < right ↔ left.toModel.unpack.lt right.toModel.unpack = true :=
    decide_eq_true_iff
  change decide (left < right) = true ↔ _
  rw [decide_eq_true_iff, decided]
  exact Unpacked.lt_iff

private theorem eq_iff_rank {left right : Float} :
    Arithmetic.eq left right = true ↔
      Arithmetic.isNaN left = false ∧ Arithmetic.isNaN right = false ∧ rank left = rank right :=
  Unpacked.beq_iff_rank

private theorem le_iff_of_numbers
    {left right : Float}
    (leftNumber : Arithmetic.isNaN left = false)
    (rightNumber : Arithmetic.isNaN right = false) :
    Arithmetic.le left right = true ↔ rank left ≤ rank right := by
  rw [le_iff]
  simp only [leftNumber, rightNumber, true_and]

private theorem le_or_ge
    {left right : Float}
    (leftNumber : Arithmetic.isNaN left = false)
    (rightNumber : Arithmetic.isNaN right = false) :
    Arithmetic.le left right = true ∨ Arithmetic.le right left = true := by
  rw [le_iff_of_numbers leftNumber rightNumber, le_iff_of_numbers rightNumber leftNumber]
  exact le_total (rank left) (rank right)

/-- Of two numbers, one is below the other where the other is not at most it. -/
theorem lt_iff_not_le
    {left right : Float}
    (leftNumber : Arithmetic.isNaN left = false)
    (rightNumber : Arithmetic.isNaN right = false) :
    left < right ↔ ¬Arithmetic.le right left = true := by
  rw [le_iff_of_numbers rightNumber leftNumber, not_le]
  refine decide_eq_true_iff.symm.trans (lt_iff.trans ?_)
  simp only [leftNumber, rightNumber, true_and]

/-- What is taken of two numbers comes before both. -/
private theorem picks_of_numbers
    {before : Float → Float → Bool}
    {pick : Float → Float → Float}
    (total : ∀ {left right}, Arithmetic.isNaN left = false → Arithmetic.isNaN right = false →
      before left right = true ∨ before right left = true)
    (numbers : ∀ {left right}, Arithmetic.isNaN left = false → Arithmetic.isNaN right = false →
      pick left right = if before left right then left else right)
    (eq_or : ∀ left right, pick left right = left ∨ pick left right = right)
    (skips : ∀ {left right}, Arithmetic.isNaN left = false → Arithmetic.isNaN right = true →
      pick left right = left) :
    Picks before pick where
  eq_or := eq_or
  skips := skips
  before_left := by
    intro left right leftNumber rightNumber
    rw [numbers leftNumber rightNumber]
    split
    · exact or_self_iff.1 (total leftNumber leftNumber)
    · exact (total leftNumber rightNumber).resolve_left ‹_›
  before_right := by
    intro left right leftNumber rightNumber
    rw [numbers leftNumber rightNumber]
    split
    · assumption
    · exact or_self_iff.1 (total rightNumber rightNumber)

theorem smaller_picks : Picks Arithmetic.le (Arithmetic.smaller (F := Float)) := by
  apply picks_of_numbers le_or_ge _ smaller_eq_or
  · intro left right leftNumber notANumber
    exact (if_neg (Bool.eq_false_iff.1 leftNumber)).trans (if_pos notANumber)
  · intro left right leftNumber rightNumber
    refine (if_neg (Bool.eq_false_iff.1 leftNumber)).trans
      ((if_neg (Bool.eq_false_iff.1 rightNumber)).trans ?_)
    simp only [lt_iff_not_le rightNumber leftNumber, ite_not]

theorem larger_picks :
    Picks (fun left right => Arithmetic.le right left) (Arithmetic.larger (F := Float)) := by
  apply picks_of_numbers (fun leftNumber rightNumber => le_or_ge rightNumber leftNumber) _
    larger_eq_or
  · intro left right leftNumber notANumber
    exact (if_neg (Bool.eq_false_iff.1 leftNumber)).trans (if_pos notANumber)
  · intro left right leftNumber rightNumber
    refine (if_neg (Bool.eq_false_iff.1 leftNumber)).trans
      ((if_neg (Bool.eq_false_iff.1 rightNumber)).trans ?_)
    simp only [lt_iff_not_le leftNumber rightNumber, ite_not]

instance lawfulOrder : LawfulOrder Float where
  isNaN_zero := by decide +kernel
  isNaN_of_le := by
    intro left right below
    obtain ⟨leftNumber, rightNumber, -⟩ := le_iff.1 below
    exact ⟨leftNumber, rightNumber⟩
  le_total := le_or_ge
  le_trans := by
    intro low middle high first second
    obtain ⟨lowNumber, -, first⟩ := le_iff.1 first
    obtain ⟨-, highNumber, second⟩ := le_iff.1 second
    exact le_iff.2 ⟨lowNumber, highNumber, first.trans second⟩
  lt_iff := by
    intro left right
    rw [← Bool.not_eq_true, lt_iff, le_iff, le_iff, lt_iff_le_not_ge]
    tauto
  eq_iff := by
    intro left right
    rw [eq_iff_rank, le_iff, le_iff, le_antisymm_iff (a := rank left)]
    tauto
  smaller_picks := smaller_picks
  larger_picks := larger_picks

instance lawfulEquality : LawfulEquality Float Float where
  eq_widen := fun _ _ => rfl

end Binary64

/-! ## Numbers of 32 bits -/

namespace Binary32

open Float.Model

/-- What is not a number is not one when it is widened. -/
theorem isNaN_widen {value : Float32} (notANumber : value.isNaN = true) :
    Arithmetic.isNaN (widen value) = true := by
  have packed := pack_unpack value
  rw [Unpacked.isNaN_iff.1 notANumber] at packed
  rw [← packed]
  decide +kernel

private theorem eq_widen_self {value : Float32} (number : value.toModel.unpack.isNaN = false) :
    Arithmetic.eq (widen value) (widen value) = true := by
  rcases isFinite_or_special value with finite | rfl | ⟨sign, rfl⟩
  · exact Binary64.eq_self (isFinite_widen finite)
  · cases number
  · cases sign <;> decide +kernel

instance lawfulEquality : LawfulEquality Float32 Float where
  eq_widen := by
    intro left right
    change Arithmetic.eq (widen left) (widen right) =
      left.toModel.unpack.beq right.toModel.unpack
    rw [Bool.eq_iff_iff]
    constructor
    · intro same
      rcases Binary64.eq_cases same with equal | ⟨leftZero, rightZero⟩
      · have undone : left = right := by rw [← narrow_widen left, equal, narrow_widen]
        subst undone
        refine Unpacked.beq_iff.2 (.inl ⟨rfl, Bool.eq_false_iff.2 fun notANumber => ?_⟩)
        rw [eq_self_iff, isNaN_widen notANumber] at same
        cases same
      · rw [← narrow_widen left, ← narrow_widen right]
        rcases leftZero with zero | zero <;> rw [zero] <;>
          rcases rightZero with zero | zero <;> rw [zero] <;> decide +kernel
    · intro same
      rcases Unpacked.beq_iff.1 same with
        ⟨unpacked, number⟩ | ⟨leftSign, rightSign, leftZero, rightZero⟩
      · have equal : left = right := by rw [← pack_unpack left, ← pack_unpack right, unpacked]
        rw [← equal]
        exact eq_widen_self number
      · rcases eq_or_eq_neg_of_unpack leftZero with rfl | rfl <;>
          rcases eq_or_eq_neg_of_unpack rightZero with rfl | rfl <;> decide +kernel

end Binary32

end Standardize
