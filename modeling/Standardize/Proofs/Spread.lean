import Mathlib.Tactic.NormNum
import Standardize.Proofs.Extremes
import Standardize.Proofs.Floating.Bounds
import Standardize.Proofs.Reduction

/-!
Contract: which sums of squared deviations are above zero.

Owns:
- the mean of a block, which no value of the block makes larger than the largest of them, and
  the mean of joined blocks, which stays within three times as much;
- `Tracks`, by which a sum of squared deviations is above zero, or all values are so near the mean
  that they are near each other;
- that invariant of a block, of a join and of a column however it is cut.

Does not own: the values of variances. Nothing is said of values whose sum leaves the range.
-/

set_option autoImplicit false

namespace Standardize

open Arithmetic Binary64

/-! ## Powers of two -/

private theorem mul_two_zpow_le
    {digits : Nat}
    (few : digits ≤ blockRows)
    (place : ℤ) :
    (digits : ℚ) * 2 ^ place ≤ 2 ^ (place + 12) := by
  have digitsLe : (digits : ℚ) ≤ 2 ^ 12 := by exact_mod_cast few
  rw [zpow_add₀ two_ne_zero, mul_comm]
  gcongr
  exact_mod_cast digitsLe

private theorem two_zpow_le_largest {place : ℤ} (low : place ≤ 1023) :
    (2 : ℚ) ^ place ≤ 2 ^ (1023 : ℤ) :=
  zpow_le_zpow_right₀ one_le_two low

/-! ## Counts -/

/-- A count that is a size lies between the same powers of two as a number. -/
private theorem ofCount_bounds
    {count : Nat}
    (positive : 0 < count)
    (size : count < Size.limit) :
    (ofCount count : Float).isFinite = true ∧
      (2 : ℚ) ^ count.log2 ≤ value (ofCount count) ∧
      value (ofCount count) ≤ 2 * 2 ^ count.log2 ∧
      ∀ few ≤ blockRows, few ≤ count → (few : ℚ) ≤ value (ofCount count) := by
  have lower : (2 : ℚ) ^ count.log2 ≤ count := by exact_mod_cast Nat.log2_self_le positive.ne'
  have upper : (count : ℚ) ≤ 2 ^ (count.log2 + 1) := by exact_mod_cast Nat.lt_log2_self.le
  have digits : count.log2 < 64 := (Nat.log2_lt positive.ne').2 size
  have small : (2 : ℚ) ^ (count.log2 + 1) ≤ 2 ^ (1023 : ℤ) := by
    rw [← zpow_natCast]
    exact zpow_le_zpow_right₀ one_le_two (by omega)
  obtain ⟨finite, rounds⟩ := approximates_ofCount (upper.trans small)
  have power (place : Nat) : Representable (2 ^ place) := by
    rw [← zpow_natCast]
    exact representable_two_zpow (by omega)
  refine ⟨finite, rounds.ge (power _) lower, ?_, ?_⟩
  · rw [← pow_succ']
    exact rounds.le (power _) upper
  · intro few fewLe countGe
    exact rounds.ge (representable_natCast (fewLe.trans (by decide))) (by exact_mod_cast countGe)

/-- What the counts of two blocks are as numbers, the second of which is no longer than the
first. -/
structure Weights (leftCount rightCount place : Nat) : Prop where
  place_lt : place < 64
  right_pos : 0 < rightCount
  right_le : rightCount ≤ leftCount
  right_few : rightCount ≤ blockRows
  left_finite : (ofCount leftCount : Float).isFinite = true
  left_ge : 2 ^ place ≤ value (ofCount leftCount)
  right_finite : (ofCount rightCount : Float).isFinite = true
  right_eq : value (ofCount rightCount) = rightCount
  both_finite : (ofCount leftCount + ofCount rightCount : Float).isFinite = true
  both_ge : 2 * rightCount ≤ value (ofCount leftCount + ofCount rightCount)
  both_le : value (ofCount leftCount + ofCount rightCount) ≤ 4 * 2 ^ place

theorem Weights.right_value_pos
    {leftCount rightCount place : Nat}
    (weights : Weights leftCount rightCount place) :
    0 < value (ofCount rightCount) := by
  rw [weights.right_eq]
  exact_mod_cast weights.right_pos

theorem Weights.both_value_pos
    {leftCount rightCount place : Nat}
    (weights : Weights leftCount rightCount place) :
    0 < value (ofCount leftCount + ofCount rightCount) := by
  have some : (0 : ℚ) < rightCount := by exact_mod_cast weights.right_pos
  linarith [weights.both_ge]

private theorem weights_of_counts
    {leftCount rightCount : Nat}
    (rightPos : 0 < rightCount)
    (rightFew : rightCount ≤ blockRows)
    (rightLe : rightCount ≤ leftCount)
    (size : leftCount < Size.limit) :
    Weights leftCount rightCount leftCount.log2 := by
  have leftPos : 0 < leftCount := rightPos.trans_le rightLe
  obtain ⟨leftFinite, leftGe, leftLe, leftGeFew⟩ := ofCount_bounds leftPos size
  have short : rightCount < 2 ^ 53 := rightFew.trans_lt (by decide)
  have rightFinite := isFinite_ofCount short
  have rightEq := value_ofCount short
  have leftGeRight := leftGeFew rightCount rightFew rightLe
  have digits : leftCount.log2 < 64 := (Nat.log2_lt leftPos.ne').2 size
  have power : (4 : ℚ) * 2 ^ leftCount.log2 = 2 ^ ((leftCount.log2 : ℤ) + 2) := by
    rw [zpow_add₀ two_ne_zero, zpow_natCast, mul_comm]
    norm_num
  have rightNonneg : (0 : ℚ) ≤ rightCount := Nat.cast_nonneg _
  have upper : value (ofCount leftCount) + value (ofCount rightCount) ≤ 4 * 2 ^ leftCount.log2 := by
    rw [rightEq]
    linarith
  have small : |value (ofCount leftCount) + value (ofCount rightCount)| ≤ 2 ^ (1023 : ℤ) := by
    rw [abs_of_nonneg (by rw [rightEq]; linarith)]
    refine upper.trans ?_
    rw [power]
    exact zpow_le_zpow_right₀ one_le_two (by omega)
  obtain ⟨bothFinite, rounds⟩ := approximates_add leftFinite rightFinite small
  refine ⟨digits, rightPos, rightLe, rightFew, leftFinite, leftGe, rightFinite, rightEq, bothFinite,
    ?_, ?_⟩
  · have twice : Representable (2 * rightCount) := by
      have counted : Representable ((2 * rightCount : Nat) : ℚ) :=
        representable_natCast ((Nat.mul_le_mul_left 2 rightFew).trans (by decide))
      rwa [Nat.cast_mul, Nat.cast_ofNat] at counted
    apply rounds.ge twice
    rw [rightEq]
    linarith
  · refine rounds.le ?_ upper
    rw [power]
    exact representable_two_zpow (by omega)

/-! ## Blocks -/

section Blocks

variable {T : Type}

/-- No order of additions takes the sum of a block out of the range. -/
private theorem within_sumOf
    (backend : Backend)
    {term : T → Float}
    {block : Array T}
    (few : block.size ≤ blockRows)
    (terms : ∀ entry ∈ block, Within (2 ^ (1000 : ℤ)) (term entry)) :
    Within (block.size * 2 ^ (1000 : ℤ)) (backend.sumOf term block) := by
  have sum := Reduction.reduce_of_weights
    (fun (count : Nat) (total : Float) =>
      count ≤ blockRows → Within (count * 2 ^ (1000 : ℤ)) total)
    (by
      intro leftCount rightCount left right leftWithin rightWithin bothFew
      have representable : Representable ((leftCount + rightCount : Nat) * 2 ^ (1000 : ℤ)) :=
        representable_mul_two_zpow (bothFew.trans (by decide)) (by decide)
      refine (leftWithin (by omega)).add representable ?_ (rightWithin (by omega)) ?_
      · exact (mul_two_zpow_le bothFew 1000).trans (two_zpow_le_largest (by decide))
      · rw [Nat.cast_add, add_mul])
    backend (fun _ => within_zero (by positivity))
    (fun place : Fin block.size => fun _ => by
      rw [Nat.cast_one, one_mul]
      exact terms block[place] (Array.getElem_mem place.isLt))
  rw [Finset.sum_const, Finset.card_univ, Fintype.card_fin, smul_eq_mul, mul_one] at sum
  exact sum few

/-- Squares are added up without falling below zero. -/
private theorem atLeast_zero_sumOf
    (backend : Backend)
    {term : T → Float}
    {block : Array T}
    (terms : ∀ entry ∈ block, AtLeast 0 (term entry)) :
    AtLeast 0 (backend.sumOf term block) := by
  apply Reduction.reduce_of_closed _ backend atLeast_zero
  · exact fun place => terms _ (Array.getElem_mem place.isLt)
  · intro left right leftAtLeast rightAtLeast
    exact leftAtLeast.add rightAtLeast representable_zero le_rfl (add_zero 0).ge

/-- One of them is enough for a sum above zero. -/
private theorem atLeast_sumOf
    (backend : Backend)
    {term : T → Float}
    {block : Array T}
    {bound : ℚ}
    (representable : Representable bound)
    (nonneg : 0 ≤ bound)
    (terms : ∀ entry ∈ block, AtLeast 0 (term entry))
    (one : ∃ entry ∈ block, AtLeast bound (term entry)) :
    AtLeast bound (backend.sumOf term block) := by
  obtain ⟨entry, member, above⟩ := one
  obtain ⟨found, foundLt, rfl⟩ := Array.mem_iff_getElem.1 member
  have sum := Reduction.reduce_of_weights
    (fun (told : Nat) (total : Float) => AtLeast 0 total ∧ (told ≠ 0 → AtLeast bound total))
    (by
      rintro leftTold rightTold left right ⟨leftNonneg, leftAbove⟩ ⟨rightNonneg, rightAbove⟩
      refine ⟨leftNonneg.add rightNonneg representable_zero le_rfl (add_zero 0).ge, fun told => ?_⟩
      by_cases leftNone : leftTold = 0
      · exact leftNonneg.add (rightAbove (by omega)) representable nonneg (zero_add bound).ge
      · exact (leftAbove leftNone).add rightNonneg representable nonneg (add_zero bound).ge)
    backend ⟨atLeast_zero, fun told => absurd rfl told⟩
    (by
      intro place
      change AtLeast 0 (term block[place]) ∧
        ((if place = ⟨found, foundLt⟩ then 1 else 0) ≠ 0 → AtLeast bound (term block[place]))
      refine ⟨terms _ (Array.getElem_mem place.isLt), fun told => ?_⟩
      by_cases here : place = ⟨found, foundLt⟩
      · rw [here]
        exact above
      · rw [if_neg here] at told
        exact absurd rfl told)
  rw [Finset.sum_ite_eq'] at sum
  exact sum.2 (by rw [if_pos (Finset.mem_univ _)]; exact one_ne_zero)

/-- The square of a distance that is large enough is above zero. -/
private theorem atLeast_square
    {left right : Float}
    {place : ℤ}
    (leftFinite : left.isFinite = true)
    (rightFinite : right.isFinite = true)
    (small : |value left - value right| ≤ 2 ^ (1023 : ℤ))
    (lowest : -537 ≤ place)
    (far : 2 ^ place ≤ |value left - value right|) :
    AtLeast (2 ^ (2 * place)) ((left - right) * (left - right)) := by
  obtain ⟨finite, rounds⟩ := approximates_sub leftFinite rightFinite small
  have away := rounds.outside (representable_two_zpow (by omega)) far
  apply atLeast_mul_self finite (representable_two_zpow (by omega)) (by positivity)
  rw [← abs_mul_abs_self, two_mul, zpow_add₀ two_ne_zero]
  gcongr

variable [Element T Float] {block : Array T}

/-- The mean of a block is not larger than the largest of its values. -/
theorem within_mean
    (backend : Backend)
    (nonempty : 0 < block.size)
    (few : block.size ≤ blockRows)
    (values : ∀ entry ∈ block, Within (2 ^ (1000 : ℤ)) (Element.widen entry)) :
    Within (2 ^ (1000 : ℤ)) (backend.mean block : Float) := by
  have short : block.size < 2 ^ 53 := few.trans_lt (by decide)
  have finite := isFinite_ofCount short
  have count := value_ofCount short
  have sum : Within (block.size * 2 ^ (1000 : ℤ)) (backend.sum block : Float) :=
    within_sumOf backend few values
  unfold Backend.mean
  rw [if_neg nonempty.ne']
  apply sum.div (representable_two_zpow (by decide)) (two_zpow_le_largest (by decide)) finite
  · rw [count]
    exact_mod_cast nonempty
  · rw [count, mul_comm]

private theorem within_mean_ofBlock
    (backend : Backend)
    (nonempty : 0 < block.size)
    (few : block.size ≤ blockRows)
    (values : ∀ entry ∈ block, Within (2 ^ (1000 : ℤ)) (Element.widen entry)) :
    Within (2 ^ (1000 : ℤ)) (Moments.ofBlock backend block).mean := by
  unfold Moments.ofBlock
  rw [if_neg nonempty.ne']
  exact within_mean backend nonempty few values

end Blocks

/-! ## Moments -/

namespace Moments

/-- What is known of moments of some values: their sum of squared deviations is above zero, or
each value is near their mean. -/
structure Tracks (values : List Float) (moments : Moments Float) : Prop where
  count : moments.count = values.length
  mean : Within (3 * 2 ^ (1000 : ℤ)) moments.mean
  nonneg : AtLeast 0 moments.m2
  told :
    AtLeast (2 ^ (-1006 : ℤ)) moments.m2 ∨
      ∀ number ∈ values, |value number - value moments.mean| ≤ values.length * 2 ^ (-501 : ℤ)

variable {T : Type} [Element T Float]

private theorem count_ofBlock (backend : Backend) (block : Array T) :
    (Moments.ofBlock backend block : Moments Float).count = block.size := by
  unfold Moments.ofBlock
  split
  case isTrue none => exact none.symm
  case isFalse => rfl

theorem Tracks.ofBlock
    (backend : Backend)
    {block : Array T}
    (nonempty : 0 < block.size)
    (few : block.size ≤ blockRows)
    (values : ∀ entry ∈ block, Within (2 ^ (1000 : ℤ)) (Element.widen entry)) :
    (Moments.ofBlock backend block).Tracks (block.toList.map Element.widen) := by
  have mean := within_mean backend nonempty few values
  have distance (entry : T) (member : entry ∈ block) :
      |value (Element.widen entry) - value (backend.mean block)| ≤ 2 ^ (1001 : ℤ) := by
    calc |value (Element.widen entry) - value (backend.mean block)|
        ≤ |value (Element.widen entry)| + |value (backend.mean block)| := abs_sub _ _
      _ ≤ 2 ^ (1000 : ℤ) + 2 ^ (1000 : ℤ) := add_le_add (values entry member).le mean.le
      _ = 2 ^ (1001 : ℤ) := by rw [← two_mul, mul_comm, ← zpow_add_one₀ two_ne_zero]; rfl
  have small (entry : T) (member : entry ∈ block) :=
    (distance entry member).trans (two_zpow_le_largest (by decide : (1001 : ℤ) ≤ 1023))
  have squares (entry : T) (member : entry ∈ block) :
      AtLeast 0 (Backend.squaredDeviation (backend.mean block) entry) := by
    obtain ⟨finite, -⟩ := approximates_sub (values entry member).finite mean.finite
      (small entry member)
    exact atLeast_mul_self finite representable_zero le_rfl (mul_self_nonneg _)
  unfold Moments.ofBlock
  rw [if_neg nonempty.ne']
  refine ⟨?_, ?_, ?_, ?_⟩
  · rw [List.length_map, Array.length_toList]
  · refine ⟨mean.finite, mean.le.trans ?_⟩
    exact le_mul_of_one_le_left (by positivity) (by norm_num)
  · exact atLeast_zero_sumOf backend squares
  · by_cases far : ∃ entry ∈ block,
        (2 : ℚ) ^ (-501 : ℤ) ≤ |value (Element.widen entry) - value (backend.mean block)|
    · obtain ⟨entry, member, apart⟩ := far
      have square := atLeast_square (values entry member).finite mean.finite (small entry member)
        (by decide) apart
      have lower : (2 : ℚ) ^ (-1006 : ℤ) ≤ 2 ^ (2 * (-501) : ℤ) :=
        zpow_le_zpow_right₀ one_le_two (by decide)
      exact .inl (atLeast_sumOf backend (representable_two_zpow (by decide)) (by positivity)
        squares ⟨entry, member, square.mono lower⟩)
    · right
      intro number member
      obtain ⟨entry, entryMember, rfl⟩ := List.mem_map.1 member
      have near : |value (Element.widen entry) - value (backend.mean block)| < 2 ^ (-501 : ℤ) :=
        not_le.1 fun apart => far ⟨entry, Array.mem_toList_iff.1 entryMember, apart⟩
      rw [List.length_map, Array.length_toList]
      refine near.le.trans (le_mul_of_one_le_left (by positivity) ?_)
      exact_mod_cast nonempty

section Joins

variable {leftCount rightCount place : Nat} (weights : Weights leftCount rightCount place)
include weights

/-- A distance is weighed by the right count, which is half of both at most. The step has its
sign and is half as large at most. -/
private theorem weighed
    {distance : Float}
    {power : ℤ}
    (lowest : -1074 ≤ power)
    (highest : power ≤ 1010)
    (within : Within (2 ^ (power + 1)) distance) :
    let step := distance * ofCount rightCount / (ofCount leftCount + ofCount rightCount)
    Within (2 ^ power) step ∧ (0 ≤ value distance → 0 ≤ value step) ∧
      (value distance ≤ 0 → value step ≤ 0) := by
  intro step
  have rightPos := weights.right_value_pos
  have bothPos := weights.both_value_pos
  have productNear : |value distance * value (ofCount rightCount)| ≤
      rightCount * 2 ^ (power + 1) := by
    rw [abs_mul, abs_of_pos rightPos, weights.right_eq, mul_comm]
    exact mul_le_mul_of_nonneg_left within.le (Nat.cast_nonneg _)
  have productSmall : (rightCount : ℚ) * 2 ^ (power + 1) ≤ 2 ^ (1023 : ℤ) :=
    (mul_two_zpow_le weights.right_few _).trans (two_zpow_le_largest (by omega))
  have product :=
    approximates_mul within.finite weights.right_finite (productNear.trans productSmall)
  have productWithin := product.within
    (representable_mul_two_zpow (weights.right_few.trans (by decide)) (by omega)) productNear
  have stepNear : |value (distance * ofCount rightCount) /
      value (ofCount leftCount + ofCount rightCount)| ≤ 2 ^ power := by
    rw [abs_div, abs_of_pos bothPos, div_le_iff₀ bothPos]
    calc |value (distance * ofCount rightCount)|
        ≤ rightCount * 2 ^ (power + 1) := productWithin.le
      _ = 2 ^ power * (2 * rightCount) := by rw [zpow_add_one₀ two_ne_zero]; ring
      _ ≤ 2 ^ power * value (ofCount leftCount + ofCount rightCount) := by
          gcongr
          exact weights.both_ge
  have quotient := approximates_div productWithin.finite weights.both_finite bothPos.ne'
    (stepNear.trans (two_zpow_le_largest (by omega)))
  refine ⟨quotient.within (representable_two_zpow lowest) stepNear, ?_, ?_⟩
  · intro nonneg
    have above := product.rounds.ge representable_zero (mul_nonneg nonneg rightPos.le)
    exact quotient.rounds.ge representable_zero (div_nonneg above bothPos.le)
  · intro nonpos
    have below := product.rounds.le representable_zero
      (mul_nonpos_of_nonpos_of_nonneg nonpos rightPos.le)
    exact quotient.rounds.le representable_zero (div_nonpos_of_nonpos_of_nonneg below bothPos.le)

/-- A square that is weighed by both counts, the left of which is a fourth of both at least. -/
private theorem atLeast_weighed
    {square : Float}
    {bound : ℚ}
    (atLeast : AtLeast bound square)
    (nonneg : 0 ≤ bound)
    (weighed : Representable (bound * 2 ^ place))
    (fourth : Representable (bound / 4)) :
    AtLeast (bound / 4)
      (square * ofCount leftCount * ofCount rightCount /
        (ofCount leftCount + ofCount rightCount)) := by
  have weighedNonneg : 0 ≤ bound * 2 ^ place := by positivity
  have leftPos : 0 < value (ofCount leftCount) :=
    (by positivity : (0 : ℚ) < 2 ^ place).trans_le weights.left_ge
  have onLeft : AtLeast (bound * 2 ^ place) (square * ofCount leftCount) :=
    atLeast.mul weights.left_finite leftPos weighed weighedNonneg
      (mul_le_mul_of_nonneg_left weights.left_ge nonneg)
  have onBoth : AtLeast (bound * 2 ^ place) (square * ofCount leftCount * ofCount rightCount) := by
    refine onLeft.mul weights.right_finite weights.right_value_pos weighed weighedNonneg
      (le_mul_of_one_le_right weighedNonneg ?_)
    rw [weights.right_eq]
    exact_mod_cast weights.right_pos
  refine onBoth.div weights.both_finite weights.both_value_pos fourth (by positivity) ?_
  calc bound / 4 * value (ofCount leftCount + ofCount rightCount)
      ≤ bound / 4 * (4 * 2 ^ place) := by
        gcongr
        exact weights.both_le
    _ = bound * 2 ^ place := by ring

end Joins

section Means

variable
  {left right : Moments Float}
  (leftMean : Within (3 * 2 ^ (1000 : ℤ)) left.mean)
  (rightMean : Within (2 ^ (1000 : ℤ)) right.mean)
include leftMean rightMean

private theorem distance_le : |value right.mean - value left.mean| ≤ 2 ^ (1002 : ℤ) := by
  have sum : (2 : ℚ) ^ (1000 : ℤ) + 3 * 2 ^ (1000 : ℤ) = 2 ^ (1002 : ℤ) := by
    rw [show (1002 : ℤ) = 1000 + 2 by rfl, zpow_add₀ two_ne_zero]
    ring
  exact ((abs_sub _ _).trans (add_le_add rightMean.le leftMean.le)).trans sum.le

private theorem approximates_distance :
    Approximates (value right.mean - value left.mean) (right.mean - left.mean) :=
  approximates_sub rightMean.finite leftMean.finite
    ((distance_le leftMean rightMean).trans (two_zpow_le_largest (by decide)))

variable {place : Nat} (weights : Weights left.count right.count place)
include weights

/-- The mean of two blocks leaves the left mean in the direction of the right one, and goes no
further than the right mean may be. -/
private theorem approximates_mean_join :
    let step :=
      (right.mean - left.mean) * ofCount right.count / (ofCount left.count + ofCount right.count)
    step.isFinite = true ∧ |value left.mean + value step| ≤ 3 * 2 ^ (1000 : ℤ) ∧
      Approximates (value left.mean + value step) (left.join right).mean := by
  intro step
  have difference := approximates_distance leftMean rightMean
  obtain ⟨within, nonneg, nonpos⟩ :
      Within (2 ^ (1001 : ℤ)) step ∧ (0 ≤ value (right.mean - left.mean) → 0 ≤ value step) ∧
        (value (right.mean - left.mean) ≤ 0 → value step ≤ 0) :=
    weighed weights (by decide) (by decide)
      (difference.within (representable_two_zpow (by decide)) (distance_le leftMean rightMean))
  have twice : (2 : ℚ) ^ (1001 : ℤ) = 2 * 2 ^ (1000 : ℤ) := by
    rw [mul_comm, ← zpow_add_one₀ two_ne_zero]
    rfl
  have near : |value left.mean + value step| ≤ 3 * 2 ^ (1000 : ℤ) := by
    obtain ⟨leftLower, leftUpper⟩ := abs_le.1 leftMean.le
    obtain ⟨rightLower, rightUpper⟩ := abs_le.1 rightMean.le
    obtain ⟨stepLower, stepUpper⟩ := abs_le.1 (within.le.trans twice.le)
    generalize (2 : ℚ) ^ (1000 : ℤ) = largest at *
    rw [abs_le]
    rcases le_total (value left.mean) (value right.mean) with upwards | downwards
    · have forward : 0 ≤ value step :=
        nonneg (difference.rounds.ge representable_zero (sub_nonneg.2 upwards))
      constructor <;> linarith
    · have back : value step ≤ 0 :=
        nonpos (difference.rounds.le representable_zero (sub_nonpos.2 downwards))
      constructor <;> linarith
  have small : (3 : ℚ) * 2 ^ (1000 : ℤ) ≤ 2 ^ (1023 : ℤ) :=
    (mul_two_zpow_le (by decide : 3 ≤ blockRows) 1000).trans (two_zpow_le_largest (by decide))
  exact ⟨within.finite, near, approximates_add leftMean.finite within.finite (near.trans small)⟩

private theorem within_mean_join : Within (3 * 2 ^ (1000 : ℤ)) (left.join right).mean := by
  obtain ⟨-, near, sum⟩ := approximates_mean_join leftMean rightMean weights
  exact sum.within (representable_mul_two_zpow (by decide : 3 ≤ 2 ^ 53) (by decide)) near

/-- Means that are near each other stay so. -/
theorem distance_mean_join
    (near : |value right.mean - value left.mean| ≤ 2 ^ (-502 : ℤ)) :
    |value (left.join right).mean - value left.mean| ≤ 2 ^ (-502 : ℤ) := by
  have difference := approximates_distance leftMean rightMean
  obtain ⟨-, -, sum⟩ := approximates_mean_join leftMean rightMean weights
  have step := (weighed weights (by decide) (by decide : (-503 : ℤ) ≤ 1010)
    (difference.within (representable_two_zpow (by decide)) near)).1
  calc |value (left.join right).mean - value left.mean|
      ≤ 2 * |value left.mean + value _ - value left.mean| :=
        sum.rounds.distance_le (representable_value leftMean.finite)
    _ ≤ 2 * 2 ^ (-503 : ℤ) := by
        rw [add_sub_cancel_left]
        gcongr
        exact step.le
    _ = 2 ^ (-502 : ℤ) := by
        rw [mul_comm, ← zpow_add_one₀ two_ne_zero]
        rfl

end Means

/-! ## Sums of squared deviations -/

section Squares

variable
  {left right : Moments Float}
  {place : Nat}
  (weights : Weights left.count right.count place)
  (leftMean : Within (3 * 2 ^ (1000 : ℤ)) left.mean)
  (rightMean : Within (2 ^ (1000 : ℤ)) right.mean)
  (leftNonneg : AtLeast 0 left.m2)
  (rightNonneg : AtLeast 0 right.m2)
include weights leftMean rightMean leftNonneg rightNonneg

/-- What is above zero on one side, or between the means, is above zero in the join. -/
theorem atLeast_m2_join :
    AtLeast 0 (left.join right).m2 ∧
      (AtLeast (2 ^ (-1006 : ℤ)) left.m2 ∨ AtLeast (2 ^ (-1006 : ℤ)) right.m2 ∨
          2 ^ (-502 : ℤ) ≤ |value right.mean - value left.mean| →
        AtLeast (2 ^ (-1006 : ℤ)) (left.join right).m2) := by
  have difference := approximates_distance leftMean rightMean
  have least : Representable (2 ^ (-1006 : ℤ)) := representable_two_zpow (by decide)
  have leastPos : (0 : ℚ) ≤ 2 ^ (-1006 : ℤ) := by positivity
  have both := leftNonneg.add rightNonneg representable_zero le_rfl (add_zero 0).ge
  have square : AtLeast 0 ((right.mean - left.mean) * (right.mean - left.mean)) :=
    atLeast_mul_self difference.finite representable_zero le_rfl (mul_self_nonneg _)
  have between := atLeast_weighed weights square le_rfl
    (by rw [zero_mul]; exact representable_zero) (by rw [zero_div]; exact representable_zero)
  rw [zero_div] at between
  refine ⟨both.add between representable_zero le_rfl (add_zero 0).ge, ?_⟩
  rintro (leftAbove | rightAbove | far)
  · exact (leftAbove.add rightNonneg least leastPos (add_zero _).ge).add between least leastPos
      (add_zero _).ge
  · exact (leftNonneg.add rightAbove least leastPos (zero_add _).ge).add between least leastPos
      (add_zero _).ge
  · have square := atLeast_square rightMean.finite leftMean.finite
      ((distance_le leftMean rightMean).trans (two_zpow_le_largest (by decide))) (by decide) far
    have fourth : (2 : ℚ) ^ (2 * (-502) : ℤ) / 4 = 2 ^ (-1006 : ℤ) := by
      rw [show (2 * (-502) : ℤ) = -1006 + 2 by rfl, zpow_add₀ two_ne_zero]
      norm_num
    have between := atLeast_weighed weights square (by positivity)
      (by
        rw [← zpow_natCast, ← zpow_add₀ two_ne_zero]
        exact representable_two_zpow (by omega))
      (by rwa [fourth])
    rw [fourth] at between
    exact both.add between least leastPos (zero_add _).ge

end Squares

/-! ## Joined blocks -/

/-- Values near a mean stay near it as it moves, if there are more of them. -/
private theorem near_of_moved
    {values : List Float}
    {mean other : ℚ}
    {total : Nat}
    (near : ∀ number ∈ values, |value number - mean| ≤ values.length * 2 ^ (-501 : ℤ))
    (moved : |mean - other| ≤ 2 ^ (-501 : ℤ))
    (more : values.length < total) :
    ∀ number ∈ values, |value number - other| ≤ total * 2 ^ (-501 : ℤ) := by
  intro number member
  have next : (values.length : ℚ) + 1 ≤ total := by exact_mod_cast more
  calc |value number - other|
      ≤ |value number - mean| + |mean - other| := abs_sub_le _ _ _
    _ ≤ values.length * 2 ^ (-501 : ℤ) + 2 ^ (-501 : ℤ) := add_le_add (near number member) moved
    _ = (values.length + 1) * 2 ^ (-501 : ℤ) := by rw [add_mul, one_mul]
    _ ≤ total * 2 ^ (-501 : ℤ) := by gcongr

/-- **A join tells what its blocks tell.** Means that are apart leave a trace in the sum of squared
deviations; means that are not leave all values near each other. -/
theorem Tracks.join
    {leftValues rightValues : List Float}
    {left right : Moments Float}
    {place : Nat}
    (leftTracks : left.Tracks leftValues)
    (rightTracks : right.Tracks rightValues)
    (rightMean : Within (2 ^ (1000 : ℤ)) right.mean)
    (weights : Weights left.count right.count place) :
    (left.join right).Tracks (leftValues ++ rightValues) := by
  have counts : (left.join right).count = left.count + right.count := rfl
  obtain ⟨nonneg, told⟩ := atLeast_m2_join weights leftTracks.mean rightMean leftTracks.nonneg
    rightTracks.nonneg
  refine ⟨?_, within_mean_join leftTracks.mean rightMean weights, nonneg, ?_⟩
  · rw [counts, leftTracks.count, rightTracks.count, List.length_append]
  rcases leftTracks.told with leftAbove | leftNear
  · exact .inl (told (.inl leftAbove))
  rcases rightTracks.told with rightAbove | rightNear
  · exact .inl (told (.inr (.inl rightAbove)))
  by_cases far : (2 : ℚ) ^ (-502 : ℤ) ≤ |value right.mean - value left.mean|
  · exact .inl (told (.inr (.inr far)))
  right
  have between := (not_le.1 far).le
  have moved := distance_mean_join leftTracks.mean rightMean weights between
  rw [abs_sub_comm] at moved
  have half : (2 : ℚ) ^ (-502 : ℤ) + 2 ^ (-502 : ℤ) = 2 ^ (-501 : ℤ) := by
    rw [← mul_two, ← zpow_add_one₀ two_ne_zero]
    rfl
  have fromLeft : |value left.mean - value (left.join right).mean| ≤ 2 ^ (-501 : ℤ) :=
    moved.trans ((le_add_of_nonneg_left (by positivity)).trans half.le)
  have fromRight : |value right.mean - value (left.join right).mean| ≤ 2 ^ (-501 : ℤ) :=
    (abs_sub_le _ _ _).trans ((add_le_add between moved).trans half.le)
  have rightSome : 0 < rightValues.length := weights.right_pos.trans_eq rightTracks.count
  have leftSome : 0 < leftValues.length :=
    (weights.right_pos.trans_le weights.right_le).trans_eq leftTracks.count
  rw [List.length_append, List.forall_mem_append]
  exact ⟨near_of_moved leftNear fromLeft (by omega), near_of_moved rightNear fromRight (by omega)⟩

variable {T : Type} [Element T Float]

/-- Blocks joined one after the other, none of them longer than the first. -/
theorem Tracks.foldl_merge
    (backend : Backend)
    {earlier : List Float}
    {joined : Moments Float}
    {blocks : List (Array T)}
    (tracks : joined.Tracks earlier)
    (sizes : ∀ block ∈ blocks, 0 < block.size ∧ block.size ≤ blockRows ∧ block.size ≤ joined.count)
    (values : ∀ block ∈ blocks, ∀ entry ∈ block, Within (2 ^ (1000 : ℤ)) (Element.widen entry))
    (size : joined.count + (blocks.map Array.toList).flatten.length < Size.limit) :
    ((blocks.map (Moments.ofBlock backend)).foldl Moments.merge joined).Tracks
      (earlier ++ (blocks.map Array.toList).flatten.map Element.widen) := by
  induction blocks generalizing earlier joined with
  | nil =>
      rw [List.map_nil, List.flatten_nil, List.map_nil, List.append_nil]
      exact tracks
  | cons block rest inductionHypothesis =>
      rw [List.forall_mem_cons] at sizes values
      obtain ⟨⟨nonempty, few, le⟩, restSizes⟩ := sizes
      rw [List.map_cons, List.flatten_cons, List.length_append, Array.length_toList] at size
      have blockTracks := Tracks.ofBlock backend nonempty few values.1
      have blockCount := count_ofBlock backend block
      have weights := weights_of_counts nonempty few le (by omega)
      rw [← blockCount] at weights
      have blockMean := within_mean_ofBlock backend nonempty few values.1
      have joins := tracks.join blockTracks blockMean weights
      have merged : joined.merge (Moments.ofBlock backend block) =
          joined.join (Moments.ofBlock backend block) := by
        unfold Moments.merge
        rw [if_neg (by omega), if_neg (by omega)]
      have count :
          (joined.join (Moments.ofBlock backend block)).count = joined.count + block.size :=
        congrArg (joined.count + ·) blockCount
      rw [List.map_cons, List.map_cons, List.foldl_cons, List.flatten_cons, List.map_append,
        ← List.append_assoc, merged]
      refine inductionHypothesis joins ?_ values.2 (by omega)
      intro other member
      have parts := restSizes other member
      exact ⟨parts.1, parts.2.1, by omega⟩

/-- **However a column is cut** into blocks that are not too long, its sum of squared deviations is
above zero, or each of its values is near its mean. -/
theorem Tracks.ofColumn
    (backend : Backend)
    {column : Array T}
    {blockLength : Nat}
    (nonempty : 0 < column.size)
    (few : blockLength ≤ blockRows)
    (size : column.size < Size.limit)
    (values : ∀ entry ∈ column, Within (2 ^ (1000 : ℤ)) (Element.widen entry)) :
    (Moments.ofColumn backend column blockLength).Tracks (column.toList.map Element.widen) := by
  obtain ⟨first, rest, cut, shorter⟩ := exists_chunks_eq_cons nonempty blockLength
  have together := flatten_chunks blockLength column
  have sizes (block : Array T) (member : block ∈ chunks blockLength column) :
      0 < block.size ∧ block.size ≤ blockRows := by
    have parts := size_of_mem_chunks member
    exact ⟨parts.1, parts.2.trans (max_le few (by decide))⟩
  have inBlock (block : Array T) (member : block ∈ chunks blockLength column) (entry : T)
      (inside : entry ∈ block) : Within (2 ^ (1000 : ℤ)) (Element.widen entry) :=
    values entry (mem_of_mem_chunks member inside)
  unfold Moments.ofColumn
  rw [cut, List.map_cons, List.flatten_cons] at together
  have length := congrArg List.length together
  simp only [List.length_append, Array.length_toList] at length
  rw [cut] at sizes inBlock ⊢
  rw [List.forall_mem_cons] at sizes inBlock
  obtain ⟨⟨firstSome, firstFew⟩, restSizes⟩ := sizes
  have firstTracks := Tracks.ofBlock backend firstSome firstFew inBlock.1
  have firstCount := count_ofBlock backend first
  have tracks := firstTracks.foldl_merge backend
    (fun block member =>
      ⟨(restSizes block member).1, (restSizes block member).2,
        (shorter block member).trans firstCount.ge⟩)
    inBlock.2 (by omega)
  rw [← List.map_append, together] at tracks
  exact tracks

end Moments

/-! ## Variances -/

/-- All values are equal. -/
def Uniform {F : Type} [Arithmetic F] (values : List F) : Prop :=
  ∀ left ∈ values, ∀ right ∈ values, Arithmetic.eq left right = true

instance {F : Type} [Arithmetic F] (values : List F) : Decidable (Uniform values) :=
  inferInstanceAs (Decidable (∀ left ∈ values, ∀ right ∈ values, Arithmetic.eq left right = true))

/-- Finite values whose sums and distances stay within the range, and whose distances, unless they
are equal, do not vanish when they are squared. -/
structure Resolved (values : List Float) : Prop where
  within : ∀ number ∈ values, Within (2 ^ (1000 : ℤ)) number
  apart :
    ∀ left ∈ values, ∀ right ∈ values, Arithmetic.eq left right = false →
      values.length * 2 ^ (-500 : ℤ) < |value left - value right|

theorem variance_of_uniform
    {T F : Type}
    [Arithmetic F]
    [LawfulOrder F]
    [Element T F]
    (backend : Backend)
    {column : Array T}
    (blockLength : Nat)
    (uniform : Uniform (column.toList.map (Element.widen (F := F)))) :
    (Moments.ofColumn backend column blockLength : Moments F).variance = 0 := by
  have ranges := Moments.Ranges.ofColumn (F := F) backend column blockLength
  unfold Moments.variance
  refine if_pos ?_
  generalize column.toList.map Element.widen = values at uniform ranges
  cases values with
  | nil => exact .inl ranges.count
  | cons number rest =>
      right
      rw [ranges.isConstant_iff]
      have self := uniform number List.mem_cons_self number List.mem_cons_self
      exact ⟨⟨number, List.mem_cons_self, eq_self_iff.1 self⟩,
        fun left leftMember right rightMember _ _ => uniform left leftMember right rightMember⟩

private theorem isNaN_of_isFinite {number : Float} (finite : number.isFinite = true) :
    Arithmetic.isNaN number = false :=
  eq_self_iff.1 (Binary64.eq_self finite)

namespace Moments

/-- A sum of squared deviations that is above zero is so after it is divided by a count. -/
theorem lt_variance_of_atLeast
    {moments : Moments Float}
    (some : 0 < moments.count)
    (size : moments.count < Size.limit)
    (varies : moments.isConstant = false)
    (above : AtLeast (2 ^ (-1006 : ℤ)) moments.m2) :
    Arithmetic.lt 0 moments.variance = true := by
  obtain ⟨finite, lower, upper, -⟩ := ofCount_bounds some size
  have positive : 0 < value (ofCount moments.count) :=
    (by positivity : (0 : ℚ) < 2 ^ moments.count.log2).trans_le lower
  have quotient : AtLeast (2 ^ (-1070 : ℤ)) (moments.m2 / ofCount moments.count) := by
    refine above.div finite positive (representable_two_zpow (by decide)) (by positivity) ?_
    have digits : moments.count.log2 < 64 := (Nat.log2_lt some.ne').2 size
    calc (2 : ℚ) ^ (-1070 : ℤ) * value (ofCount moments.count)
        ≤ 2 ^ (-1070 : ℤ) * (2 * 2 ^ moments.count.log2) := by gcongr
      _ = 2 ^ ((moments.count.log2 : ℤ) + 1 + -1070) := by
          rw [zpow_add₀ two_ne_zero, zpow_add_one₀ two_ne_zero, zpow_natCast]
          ring
      _ ≤ 2 ^ (-1006 : ℤ) := zpow_le_zpow_right₀ one_le_two (by omega)
  unfold Moments.variance
  rw [if_neg (by rw [varies]; simp [some.ne'])]
  exact quotient.lt_zero (by positivity)

end Moments

/-- Resolved values that are all near one number are near each other, so no two of them differ. -/
private theorem uniform_of_near
    {values : List Float}
    {mean : ℚ}
    (resolved : Resolved values)
    (near : ∀ number ∈ values, |value number - mean| ≤ values.length * 2 ^ (-501 : ℤ)) :
    Uniform values := by
  intro left leftMember right rightMember
  by_contra differ
  have apart := resolved.apart left leftMember right rightMember (Bool.eq_false_iff.2 differ)
  have half : (2 : ℚ) ^ (-500 : ℤ) = 2 * 2 ^ (-501 : ℤ) := by
    rw [mul_comm, ← zpow_add_one₀ two_ne_zero]
    rfl
  have between := abs_sub_le (value left) mean (value right)
  have leftNear := near left leftMember
  have rightNear := near right rightMember
  rw [abs_sub_comm] at rightNear
  rw [half] at apart
  linarith

private theorem isConstant_eq_false_of_resolved
    {values : List Float}
    {moments : Moments Float}
    (resolved : Resolved values)
    (varies : ¬Uniform values)
    (ranges : moments.Ranges values) :
    moments.isConstant = false := by
  rw [Bool.eq_false_iff, ne_eq, ranges.isConstant_iff]
  rintro ⟨-, same⟩
  exact varies fun left leftMember right rightMember => same left leftMember right rightMember
    (isNaN_of_isFinite (resolved.within left leftMember).finite)
    (isNaN_of_isFinite (resolved.within right rightMember).finite)

/-- **Resolved values have a variance, unless they are all equal**, in whatever blocks their
moments are taken. -/
theorem lt_variance_iff
    {T : Type}
    [Element T Float]
    (backend : Backend)
    {column : Array T}
    {blockLength : Nat}
    (few : blockLength ≤ blockRows)
    (size : column.size < Size.limit)
    (resolved : Resolved (column.toList.map Element.widen)) :
    Arithmetic.lt 0 (Moments.ofColumn backend column blockLength : Moments Float).variance = true ↔
      ¬Uniform (column.toList.map (Element.widen (F := Float))) := by
  constructor
  · intro above uniform
    rw [variance_of_uniform backend blockLength uniform] at above
    exact Bool.false_ne_true (lt_zero_zero.symm.trans above)
  intro varies
  have nonempty : 0 < column.size := by
    rw [← Array.length_toList, List.length_pos_iff]
    intro none
    rw [none] at varies
    exact varies fun left member => nomatch member
  have within (entry : T) (member : entry ∈ column) :
      Within (2 ^ (1000 : ℤ)) (Element.widen entry) :=
    resolved.within _ (List.mem_map_of_mem (Array.mem_toList_iff.2 member))
  have tracks := Moments.Tracks.ofColumn backend nonempty few size within
  have ranges := Moments.Ranges.ofColumn (F := Float) backend column blockLength
  have count :
      (Moments.ofColumn backend column blockLength : Moments Float).count = column.size := by
    rw [tracks.count, List.length_map, Array.length_toList]
  exact Moments.lt_variance_of_atLeast (by omega) (by omega)
    (isConstant_eq_false_of_resolved resolved varies ranges)
    (tracks.told.resolve_right fun near => varies (uniform_of_near resolved near))

/-! ## Values on a grid -/

/-- Multiples of a power of two that is not too low are resolved: different ones are as far apart
as it at least. -/
theorem resolved_of_multiples
    {values : List Float}
    {place : ℤ}
    (lowest : -436 ≤ place)
    (length : values.length < Size.limit)
    (within : ∀ number ∈ values, Within (2 ^ (1000 : ℤ)) number)
    (multiples : ∀ number ∈ values, ∃ digits : ℤ, value number = digits * 2 ^ place) :
    Resolved values := by
  refine ⟨within, fun left leftMember right rightMember differ => ?_⟩
  obtain ⟨digits, valueEq⟩ := multiples left leftMember
  obtain ⟨other, otherEq⟩ := multiples right rightMember
  have distinct : digits - other ≠ 0 := by
    intro same
    obtain rfl : digits = other := by omega
    rw [eq_of_value_eq (within left leftMember).finite (within right rightMember).finite
      (valueEq.trans otherEq.symm)] at differ
    cases differ
  have few : (values.length : ℚ) < 2 ^ (64 : ℤ) := by exact_mod_cast length
  have apart : (1 : ℚ) ≤ |(digits : ℚ) - other| := by exact_mod_cast Int.one_le_abs distinct
  rw [valueEq, otherEq, ← sub_mul, abs_mul,
    abs_of_pos (zpow_pos two_pos place : (0 : ℚ) < 2 ^ place)]
  calc (values.length : ℚ) * 2 ^ (-500 : ℤ)
      < 2 ^ (64 : ℤ) * 2 ^ (-500 : ℤ) := by gcongr
    _ = 2 ^ (-436 : ℤ) := by
        rw [← zpow_add₀ two_ne_zero]
        rfl
    _ ≤ 2 ^ place := zpow_le_zpow_right₀ one_le_two lowest
    _ ≤ |(digits : ℚ) - other| * 2 ^ place := le_mul_of_one_le_left (by positivity) apart

theorem resolved_of_counts
    {counts : List Nat}
    (length : counts.length < Size.limit)
    (short : ∀ count ∈ counts, count < 2 ^ 53) :
    Resolved (counts.map ofCount) := by
  refine resolved_of_multiples (by decide : -436 ≤ (0 : ℤ)) (by rwa [List.length_map]) ?_ ?_
  · intro number member
    obtain ⟨count, countMember, rfl⟩ := List.mem_map.1 member
    refine ⟨isFinite_ofCount (short count countMember), ?_⟩
    rw [value_ofCount (short count countMember), Nat.abs_cast]
    calc (count : ℚ)
        ≤ 2 ^ (53 : ℤ) := by exact_mod_cast (short count countMember).le
      _ ≤ 2 ^ (1000 : ℤ) := zpow_le_zpow_right₀ one_le_two (by decide)
  · intro number member
    obtain ⟨count, countMember, rfl⟩ := List.mem_map.1 member
    refine ⟨count, ?_⟩
    rw [value_ofCount (short count countMember), Int.cast_natCast, zpow_zero, mul_one]

/-- **Finite elements of 32 bits are resolved**: they are multiples of the smallest of them. -/
theorem resolved_of_singles
    {elements : List Float32}
    (length : elements.length < Size.limit)
    (finite : ∀ element ∈ elements, element.isFinite = true) :
    Resolved (elements.map Element.widen) := by
  refine resolved_of_multiples (by decide : -436 ≤ (-149 : ℤ)) (by rwa [List.length_map]) ?_ ?_
  · intro number member
    obtain ⟨element, elementMember, rfl⟩ := List.mem_map.1 member
    obtain ⟨digits, few, valueEq⟩ := Binary32.exists_value_widen (finite element elementMember)
    refine ⟨Binary32.isFinite_widen (finite element elementMember), ?_⟩
    have digitsLe : |(digits : ℚ)| ≤ 2 ^ 24 * 2 ^ 253 := by exact_mod_cast few
    change |value (Binary32.widen element)| ≤ _
    rw [valueEq, abs_mul, abs_of_pos (zpow_pos two_pos (-149) : (0 : ℚ) < 2 ^ (-149 : ℤ))]
    calc |(digits : ℚ)| * 2 ^ (-149 : ℤ)
        ≤ 2 ^ 24 * 2 ^ 253 * 2 ^ (-149 : ℤ) := by gcongr
      _ = 2 ^ (128 : ℤ) := by
          rw [← pow_add, ← zpow_natCast, ← zpow_add₀ two_ne_zero]
          rfl
      _ ≤ 2 ^ (1000 : ℤ) := zpow_le_zpow_right₀ one_le_two (by decide)
  · intro number member
    obtain ⟨element, elementMember, rfl⟩ := List.mem_map.1 member
    obtain ⟨digits, -, valueEq⟩ := Binary32.exists_value_widen (finite element elementMember)
    exact ⟨digits, valueEq⟩

end Standardize
