import Mathlib.Algebra.Order.Ring.Cast
import Mathlib.Tactic.FieldSimp
import Mathlib.Tactic.Ring
import Standardize.Moments
import Standardize.Proofs.Exact.Sum
import Standardize.Proofs.Partition

/-!
Contract: without rounding, the moments of a column are those of its numbers.

Owns:
- the mean of numbers and the sum of their squared deviations, and the moments
  that they make;
- blocks: the moments of a block are those of its numbers, and joining blocks
  is joining their numbers, so the cut into blocks does not matter;
- constant numbers, for which the shortcut gives what the formulas give.

Does not own: tables.
-/

set_option autoImplicit false

namespace Standardize.Exact

variable {K T : Type} [Field K] [LinearOrder K]

/-- The mean of numbers. -/
def mean (numbers : List K) : K :=
  numbers.sum / numbers.length

/-- The sum of the squared distances of numbers from a center. -/
def deviations (center : K) (numbers : List K) : K :=
  (numbers.map fun number => (number - center) ^ 2).sum

/-- The moments of numbers. -/
def moments (numbers : List K) : Moments K where
  count := numbers.length
  mean := mean numbers
  m2 := deviations (mean numbers) numbers
  least? := numbers.min?
  greatest? := numbers.max?

/-! ## Deviations -/

omit [LinearOrder K] in
/-- Squared deviations from any center, by the sums of the numbers and of their
squares. -/
theorem deviations_eq (center : K) (numbers : List K) :
    deviations center numbers =
      (numbers.map (· ^ 2)).sum - 2 * center * numbers.sum + numbers.length * center ^ 2 := by
  induction numbers with
  | nil => simp [deviations]
  | cons number rest inductionHypothesis =>
      unfold deviations at inductionHypothesis ⊢
      simp only [List.map_cons, List.sum_cons, List.length_cons, inductionHypothesis]
      push_cast
      ring

omit [LinearOrder K] in
private theorem deviations_replicate (count : Nat) (number : K) :
    deviations number (List.replicate count number) = 0 := by
  simp [deviations]

variable [IsStrictOrderedRing K]

private theorem length_ne_zero {numbers : List K} (some : numbers ≠ []) :
    (numbers.length : K) ≠ 0 :=
  Nat.cast_ne_zero.2 fun none => some (List.length_eq_zero_iff.1 none)

private theorem length_add_ne_zero {left : List K} (some : left ≠ []) (right : List K) :
    (left.length + right.length : K) ≠ 0 := by
  rw [← Nat.cast_add, ← List.length_append]
  exact length_ne_zero fun none => some (List.append_eq_nil_iff.1 none).1

private theorem mean_replicate {count : Nat} (positive : count ≠ 0) (number : K) :
    mean (List.replicate count number) = number := by
  have countNe : (count : K) ≠ 0 := Nat.cast_ne_zero.2 positive
  rw [mean, List.sum_replicate, List.length_replicate, nsmul_eq_mul,
    mul_div_cancel_left₀ _ countNe]

private theorem mean_append {left right : List K} (leftSome : left ≠ []) (rightSome : right ≠ []) :
    mean left + (mean right - mean left) * right.length / (left.length + right.length) =
      mean (left ++ right) := by
  have leftNe := length_ne_zero leftSome
  have rightNe := length_ne_zero rightSome
  have bothNe := length_add_ne_zero leftSome right
  unfold mean
  rw [List.sum_append, List.length_append, Nat.cast_add]
  field_simp
  ring

private theorem deviations_append
    {left right : List K}
    (leftSome : left ≠ [])
    (rightSome : right ≠ []) :
    deviations (mean left) left + deviations (mean right) right +
        (mean right - mean left) * (mean right - mean left) * left.length * right.length /
          (left.length + right.length) =
      deviations (mean (left ++ right)) (left ++ right) := by
  have leftNe := length_ne_zero leftSome
  have rightNe := length_ne_zero rightSome
  have bothNe := length_add_ne_zero leftSome right
  simp only [deviations_eq, mean, List.map_append, List.sum_append, List.length_append,
    Nat.cast_add]
  field_simp
  ring

/-! ## Blocks -/

variable [Rooted K]

omit [IsStrictOrderedRing K] [Rooted K] in
private theorem count_moments_eq_zero_iff {numbers : List K} :
    (moments numbers).count = 0 ↔ numbers = [] :=
  List.length_eq_zero_iff

/-- **Joining blocks is joining their numbers.** -/
theorem merge_moments (left right : List K) :
    (moments left).merge (moments right) = moments (left ++ right) := by
  unfold Moments.merge
  by_cases leftNone : left = []
  · rw [if_pos (count_moments_eq_zero_iff.2 leftNone), leftNone, List.nil_append]
  · rw [if_neg fun none => leftNone (count_moments_eq_zero_iff.1 none)]
    by_cases rightNone : right = []
    · rw [if_pos (count_moments_eq_zero_iff.2 rightNone), rightNone, List.append_nil]
    · rw [if_neg fun none => rightNone (count_moments_eq_zero_iff.1 none)]
      unfold Moments.join moments
      dsimp only [ofCount_eq]
      rw [mean_append leftNone rightNone, deviations_append leftNone rightNone,
        leastOf?_min?, greatestOf?_max?, List.length_append]

omit [IsStrictOrderedRing K] in
private theorem empty_eq_moments : (Moments.empty : Moments K) = moments [] := by
  simp [Moments.empty, moments, mean, deviations]

/-- Blocks joined from the first to the last are all of their numbers. -/
theorem mergeAll_moments (blocks : List (List K)) :
    Moments.mergeAll (blocks.map moments) = moments blocks.flatten := by
  have joined (before : List K) :
      (blocks.map moments).foldl Moments.merge (moments before) =
        moments (before ++ blocks.flatten) := by
    induction blocks generalizing before with
    | nil => rw [List.flatten_nil, List.append_nil]; rfl
    | cons block rest inductionHypothesis =>
        rw [List.map_cons, List.foldl_cons, merge_moments, inductionHypothesis,
          List.flatten_cons, List.append_assoc]
  rw [Moments.mergeAll, empty_eq_moments, joined, List.nil_append]

variable [Element T K]

/-- The numbers of a slice. -/
def numbers (data : Array T) : List K :=
  data.toList.map Element.widen

omit [IsStrictOrderedRing K] in
theorem ofBlock_eq_moments (backend : Backend) (block : Array T) :
    Moments.ofBlock backend block = moments (numbers block) := by
  unfold Moments.ofBlock
  have length : block.size = (numbers block).length := by
    rw [numbers, List.length_map, Array.length_toList]
  by_cases empty : block.size = 0
  · rw [if_pos empty, empty_eq_moments, List.length_eq_zero_iff.1 (length.symm.trans empty)]
  · have blockMean : backend.mean block = mean (numbers block) := by
      rw [mean_eq_sum, length]
      rfl
    have least : block.foldl (fun seen value => Arithmetic.least? seen (Element.widen value)) none =
        (numbers block).min? := by
      rw [← foldl_least?, numbers, List.foldl_map, Array.foldl_toList]
    have greatest :
        block.foldl (fun seen value => Arithmetic.greatest? seen (Element.widen value)) none =
          (numbers block).max? := by
      rw [← foldl_greatest?, numbers, List.foldl_map, Array.foldl_toList]
    rw [if_neg empty]
    dsimp only
    rw [blockMean, sumSquaredDeviations_eq_sum, least, greatest, length]
    rfl

/-- **The cut into blocks does not matter.** -/
theorem ofColumn_eq_moments (backend : Backend) (column : Array T) (blockLength : Nat) :
    Moments.ofColumn backend column blockLength = moments (numbers column) := by
  have blocks : (chunks blockLength column).map (Moments.ofBlock backend) =
      ((chunks blockLength column).map numbers).map moments := by
    rw [List.map_map]
    exact List.map_congr_left fun block _ => ofBlock_eq_moments backend block
  have together : ((chunks blockLength column).map numbers).flatten = numbers column := by
    unfold numbers
    rw [← flatten_chunks blockLength column, List.map_flatten, List.map_map]
    rfl
  rw [Moments.ofColumn, blocks, mergeAll_moments, together]

/-! ## Constant numbers -/

omit [IsStrictOrderedRing K] in
/-- Numbers that count as constant are all the same. -/
theorem eq_replicate_of_isConstant
    {numbers : List K}
    (constant : (moments numbers).isConstant = true) :
    ∃ number, numbers.min? = some number ∧
      numbers = List.replicate numbers.length number := by
  unfold Moments.isConstant at constant
  dsimp only [moments] at constant
  split at constant
  · rename_i low high leastEq greatestEq
    have same : low = high := of_decide_eq_true ((Bool.and_eq_true _ _).mp constant).2
    obtain ⟨-, above⟩ := List.min?_eq_some_iff.1 leastEq
    obtain ⟨-, below⟩ := List.max?_eq_some_iff.1 greatestEq
    refine ⟨low, leastEq, List.eq_replicate_iff.2 ⟨rfl, fun number member => ?_⟩⟩
    exact le_antisymm (same ▸ below number member) (above number member)
  · cases constant

/-- **The center is the mean**, also where it is taken from a constant number. -/
theorem center_moments (numbers : List K) : (moments numbers).center = mean numbers := by
  unfold Moments.center
  by_cases constant : (moments numbers).isConstant = true
  · obtain ⟨number, leastEq, same⟩ := eq_replicate_of_isConstant constant
    have some : numbers.length ≠ 0 := by
      intro none
      rw [List.length_eq_zero_iff.1 none] at leastEq
      cases leastEq
    rw [show (moments numbers).least? = .some number from leastEq]
    dsimp only
    rw [if_pos constant, same, mean_replicate some]
  · cases (moments numbers).least? with
    | none => rfl
    | some low =>
        dsimp only
        rw [if_neg constant]
        rfl

/-- **The variance is the mean of the squared deviations**, also where it is taken
to be zero. -/
theorem variance_moments (numbers : List K) :
    (moments numbers).variance = deviations (mean numbers) numbers / numbers.length := by
  unfold Moments.variance
  by_cases empty : numbers = []
  · rw [if_pos (.inl (count_moments_eq_zero_iff.2 empty)), empty]
    simp [deviations]
  · by_cases constant : (moments numbers).isConstant = true
    · obtain ⟨number, -, same⟩ := eq_replicate_of_isConstant constant
      have some : numbers.length ≠ 0 := fun none => empty (List.length_eq_zero_iff.1 none)
      rw [if_pos (.inr constant), same, mean_replicate some, deviations_replicate, zero_div]
    · rw [if_neg (by simp [count_moments_eq_zero_iff, empty, constant])]
      rfl

end Standardize.Exact
