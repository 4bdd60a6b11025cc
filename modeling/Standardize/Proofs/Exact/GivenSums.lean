import Mathlib.Algebra.Order.BigOperators.Group.Finset
import Standardize.Proofs.Exact.Normalized

/-!
Contract: without rounding, given sums against a scan of the data.

Owns:
- the sums of a column and of its squares, and a parameter that gives them;
- the variance that they stand for: that of the data where it is above the
  allowance for rounding, and zero otherwise;
- both methods side by side, in their statistics and in the data that they leave;
- sums that fit no data, which still give no negative variance.

Does not own: the size of the allowance. The root and the unit that it is made of
are any, so it stands for any number that is not negative.
-/

set_option autoImplicit false

namespace Standardize.Exact

open Finset

/-- A parameter that asks for the same from given sums. -/
def withSums {F : Type} (parameter : Parameter F) (given : ColumnSums F) : Parameter F :=
  { parameter with method := .sumDense, sums := some given }

variable {K T τ : Type} [Field K] [Element T K] [TableShape τ] [TableView τ T]

/-! ## Exact sums -/

/-- The mean of the squares of the cells of a column. -/
def secondMoment
    (T : Type)
    [Element T K]
    [TableView τ T]
    (input : τ)
    (column : Nat) :
    K :=
  (∑ row ∈ range (TableShape.rows input), cellNumber T input row column ^ 2) /
    TableShape.rows input

/-- For each column the sum of its cells and the sum of their squares. -/
def exactSums
    (T : Type)
    [Element T K]
    [TableView τ T]
    (input : τ) :
    ColumnSums K where
  sums := (Array.range (TableShape.cols input)).map fun column =>
    ∑ row ∈ range (TableShape.rows input), cellNumber T input row column
  sumsOfSquares := (Array.range (TableShape.cols input)).map fun column =>
    ∑ row ∈ range (TableShape.rows input), cellNumber T input row column ^ 2

/-- The variance of a column is the mean of its squares less the square of its mean. -/
theorem columnVariance_eq
    [CharZero K]
    {input : τ}
    (rowsSome : TableShape.rows input ≠ 0)
    (column : Nat) :
    (columnVariance T input column : K) =
      secondMoment T input column - columnMean T input column * columnMean T input column := by
  have rowsNe : (TableShape.rows input : K) ≠ 0 := Nat.cast_ne_zero.2 rowsSome
  have squares : TableShape.rows input * (secondMoment T input column : K) =
      ∑ row ∈ range (TableShape.rows input), cellNumber T input row column ^ 2 := by
    unfold secondMoment
    exact mul_div_cancel₀ _ rowsNe
  have expanded : ∑ row ∈ range (TableShape.rows input),
        (cellNumber T input row column - columnMean T input column) ^ 2 =
      ∑ row ∈ range (TableShape.rows input), cellNumber T input row column ^ 2 -
        2 * columnMean T input column *
          ∑ row ∈ range (TableShape.rows input), cellNumber T input row column +
        TableShape.rows input * (columnMean T input column : K) ^ 2 := by
    have listed := deviations_eq (columnMean T input column : K)
      ((List.range (TableShape.rows input)).map fun row => cellNumber T input row column)
    rw [deviations, List.map_map, List.map_map, List.length_map, List.length_range] at listed
    exact listed
  unfold columnVariance
  rw [div_eq_iff rowsNe, expanded, ← squares, ← rows_mul_columnMean rowsSome]
  ring

/-! ## The allowance -/

variable [LinearOrder K] [IsStrictOrderedRing K]

private theorem secondMoment_nonneg (input : τ) (column : Nat) :
    0 ≤ (secondMoment T input column : K) :=
  div_nonneg (Finset.sum_nonneg fun _ _ => sq_nonneg _) (Nat.cast_nonneg _)

variable [Rooted K]

/-- The variance below which that of a column counts as zero. -/
def cutoff
    (T : Type)
    [Element T K]
    [TableView τ T]
    (input : τ)
    (column : Nat) :
    K :=
  Statistics.roundingAllowance (TableShape.rows input : K) * secondMoment T input column

/-- The variance of a column, if it is above the cutoff. -/
def keptVariance
    (T : Type)
    [Element T K]
    [TableView τ T]
    (input : τ)
    (column : Nat) :
    K :=
  if cutoff T input column < columnVariance T input column then columnVariance T input column
  else 0

section Sums

variable {rows sum squares : K}

omit [IsStrictOrderedRing K] in
/-- Sums give their variance if it is above the allowance. -/
theorem ofSum_of_lt
    (above : Statistics.roundingAllowance rows * |squares / rows| <
      squares / rows - sum / rows * (sum / rows)) :
    Statistics.ofSum rows sum squares =
      (sum / rows, squares / rows - sum / rows * (sum / rows)) := by
  apply if_neg
  simpa [Arithmetic.le, Arithmetic.abs] using above

omit [IsStrictOrderedRing K] in
private theorem ofSum_of_le
    (within : squares / rows - sum / rows * (sum / rows) ≤
      Statistics.roundingAllowance rows * |squares / rows|) :
    Statistics.ofSum rows sum squares = (sum / rows, 0) := by
  apply if_pos
  simpa [Arithmetic.le, Arithmetic.abs] using within

/-- Whatever the sums, the variance that they give is above the allowance or zero. -/
theorem ofSum_snd_nonneg
    (allowance : 0 ≤ Statistics.roundingAllowance rows)
    (sum squares : K) :
    0 ≤ (Statistics.ofSum rows sum squares).2 := by
  rcases lt_or_ge (Statistics.roundingAllowance rows * |squares / rows|)
    (squares / rows - sum / rows * (sum / rows)) with above | within
  · rw [ofSum_of_lt above]
    exact (mul_nonneg allowance (abs_nonneg _)).trans above.le
  · rw [ofSum_of_le within]

end Sums

private theorem cutoff_nonneg
    {input : τ}
    (allowance : 0 ≤ Statistics.roundingAllowance (TableShape.rows input : K))
    (column : Nat) :
    0 ≤ (cutoff T input column : K) :=
  mul_nonneg allowance (secondMoment_nonneg input column)

/-- The exact sums of a column stand for its mean and for the variance that is kept. -/
theorem ofSum_exact
    {input : τ}
    (rowsSome : TableShape.rows input ≠ 0)
    (column : Nat) :
    Statistics.ofSum (TableShape.rows input : K)
        (∑ row ∈ range (TableShape.rows input), cellNumber T input row column)
        (∑ row ∈ range (TableShape.rows input), cellNumber T input row column ^ 2) =
      (columnMean T input column, keptVariance T input column) := by
  have variance : (columnVariance T input column : K) =
      secondMoment T input column - columnMean T input column * columnMean T input column :=
    columnVariance_eq rowsSome column
  have unsigned : cutoff T input column =
      Statistics.roundingAllowance (TableShape.rows input : K) *
        |(secondMoment T input column : K)| := by
    rw [abs_of_nonneg (secondMoment_nonneg input column)]
    rfl
  unfold keptVariance
  rw [unsigned, variance]
  split
  · rename_i above
    exact ofSum_of_lt above
  · rename_i within
    exact ofSum_of_le (le_of_not_gt within)

/-! ## Both methods -/

variable {input : τ} {parameter : Parameter K} {column : Nat}

private theorem summed_exactSums
    (parameter : Parameter K)
    (rowsSome : TableShape.rows input ≠ 0)
    (columnLt : column < TableShape.cols input) :
    Reference.summed (withSums parameter (exactSums T input)) (TableShape.rows input) column =
      (columnMean T input column, keptVariance T input column) := by
  have sums : (exactSums T input : ColumnSums K).sums.getD column 0 =
      ∑ row ∈ range (TableShape.rows input), cellNumber T input row column := by
    simp [exactSums, columnLt]
  have squares : (exactSums T input : ColumnSums K).sumsOfSquares.getD column 0 =
      ∑ row ∈ range (TableShape.rows input), cellNumber T input row column ^ 2 := by
    simp [exactSums, columnLt]
  unfold Reference.summed withSums
  dsimp only
  rw [sums, squares, ofCount_eq, ofSum_exact rowsSome]

section Methods

variable [TableAccess τ T]

/-- The center and the variance that exact sums give a column, on any engine. -/
theorem columns_of_exactSums
    (engine : Engine)
    (parameter : Parameter K)
    (rowsSome : TableShape.rows input ≠ 0)
    (columnLt : column < TableShape.cols input) :
    Reference.center T engine input (withSums parameter (exactSums T input)) column =
        columnMean T input column ∧
      Reference.variance T engine input (withSums parameter (exactSums T input)) column =
        keptVariance T input column := by
  have pair := summed_exactSums (T := T) parameter rowsSome columnLt
  exact ⟨congrArg Prod.fst pair, congrArg Prod.snd pair⟩

omit [LinearOrder K] [IsStrictOrderedRing K] [Rooted K] [TableAccess τ T] in
private theorem parameterFailure?_exactSums (parameter : Parameter K) (input : τ) :
    Reference.parameterFailure? (withSums parameter (exactSums T input))
      (TableShape.cols input) = none := by
  apply parameterFailure?_of_sums rfl <;> simp [exactSums]

variable [ReadableTable τ T]

/-- The statistics that exact sums give. -/
theorem statistics_of_exactSums
    (engine : Engine)
    (parameter : Parameter K)
    (rowsSome : TableShape.rows input ≠ 0)
    (colsSome : TableShape.cols input ≠ 0) :
    Statistics.compute T engine input (withSums parameter (exactSums T input)) =
      .ok {
        means := (Array.range (TableShape.cols input)).map (columnMean T input)
        variances := (Array.range (TableShape.cols input)).map (keptVariance T input) } := by
  apply statistics_of_columns engine rowsSome colsSome (parameterFailure?_exactSums parameter input)
    (readFailure?_eq_none input)
  intro column columnLt
  exact columns_of_exactSums engine parameter rowsSome columnLt

omit [TableView τ T] in
/-- Sums that fit the columns give statistics, and no variance below zero. -/
theorem variances_nonneg_of_sums
    (engine : Engine)
    (parameter : Parameter K)
    {given : ColumnSums K}
    (rowsSome : TableShape.rows input ≠ 0)
    (colsSome : TableShape.cols input ≠ 0)
    (allowance : 0 ≤ Statistics.roundingAllowance (TableShape.rows input : K))
    (sumsFit : given.sums.size = TableShape.cols input)
    (squaresFit : given.sumsOfSquares.size = TableShape.cols input) :
    ∃ statistics,
      Statistics.compute T engine input (withSums parameter given) = .ok statistics ∧
        statistics.variances.size = TableShape.cols input ∧
        ∀ variance ∈ statistics.variances, 0 ≤ variance := by
  have fits : Reference.parameterFailure? (withSums parameter given) (TableShape.cols input) =
      none :=
    parameterFailure?_of_sums rfl sumsFit squaresFit
  refine ⟨_, statistics_of_readable engine rowsSome colsSome fits (readFailure?_eq_none input),
    ?_, ?_⟩
  · simp [Reference.statistics]
  · intro variance member
    obtain ⟨column, -, rfl⟩ := Array.mem_map.1 member
    exact ofSum_snd_nonneg allowance _ _

variable [LawfulView τ T] {memory : Memory} {output : Output T}

/-- A scan and exact sums leave the same column if its variance is above the cutoff or
zero. -/
theorem column_eq_of_standardizes
    {engine other : Engine}
    {table tableFromSums : Dense T}
    (rowsSome : TableShape.rows input ≠ 0)
    (scanned : parameter.method = .defaultDense)
    (fromData : Standardizes engine input parameter table)
    (fromSums : Standardizes other input (withSums parameter (exactSums T input)) tableFromSums)
    (columnLt : column < TableShape.cols input)
    (kept : cutoff T input column < (columnVariance T input column : K) ∨
      (columnVariance T input column : K) = 0)
    (row : Nat) :
    tableFromSums.get? row column = table.get? row column := by
  obtain ⟨centerEq, varianceEq⟩ := columns_of_scanned (T := T) engine scanned columnLt
  obtain ⟨centerFromSums, varianceFromSums⟩ :=
    columns_of_exactSums (T := T) other parameter rowsSome columnLt
  have same : (keptVariance T input column : K) = columnVariance T input column := by
    unfold keptVariance
    rcases kept with above | none
    · exact if_pos above
    · rw [none, ite_self]
  apply fromSums.get?_eq fromData
  · rw [centerEq, centerFromSums]
  · rw [varianceEq, varianceFromSums, same]
    rfl

omit [IsStrictOrderedRing K] [LawfulView τ T] in
/-- Over places that can be had, exact sums are refused for a column that is not above
its cutoff or not at all. -/
theorem runFailure?_of_exactSums
    (engine : Engine)
    (rowsSome : TableShape.rows input ≠ 0)
    (colsSome : TableShape.cols input ≠ 0)
    (allocated :
      (output.allocate memory (TableShape.rows input) (TableShape.cols input) parameter).1 =
        .ok ()) :
    Reference.runFailure? memory engine input (withSums parameter (exactSums T input)) output =
      Reference.policyFailure? T engine input (withSums parameter (exactSums T input)) := by
  have fits := parameterFailure?_exactSums (T := T) parameter input
  have prepared := preparationFailure?_of_allocated rowsSome colsSome fits allocated
  exact runFailure?_of_readable prepared (readFailure?_eq_none input)

/-- Unless a column that is not above its cutoff is refused, a scan and exact sums both
leave data. -/
theorem exists_data_of_exactSums
    (engine other : Engine)
    (rowsSome : TableShape.rows input ≠ 0)
    (colsSome : TableShape.cols input ≠ 0)
    (scanned : parameter.method = .defaultDense)
    (allowance : 0 ≤ Statistics.roundingAllowance (TableShape.rows input : K))
    (allocated :
      (output.allocate memory (TableShape.rows input) (TableShape.cols input) parameter).1 =
        .ok ())
    (accepted : parameter.doScale = true → parameter.zeroVariance = .reject →
      ∀ column < TableShape.cols input,
        cutoff T input column < (columnVariance T input column : K)) :
    (∃ written table, compute memory engine input parameter output = (.ok (), written) ∧
      written.get? .normalizedData = some table ∧
      Standardizes engine input parameter table) ∧
    ∃ written table,
      compute memory other input (withSums parameter (exactSums T input)) output =
          (.ok (), written) ∧
        written.get? .normalizedData = some table ∧
        Standardizes other input (withSums parameter (exactSums T input)) table := by
  constructor
  · apply exists_standardizes_of_scanned engine rowsSome colsSome scanned allocated
    intro scaled refused column columnLt
    exact (cutoff_nonneg allowance column).trans_lt (accepted scaled refused column columnLt)
  · apply exists_standardizes
    rw [runFailure?_of_exactSums other rowsSome colsSome allocated]
    apply policyFailure?_of_accepted
    intro scaled refused column columnLt
    have above := accepted scaled refused column columnLt
    rw [(columns_of_exactSums (T := T) other parameter rowsSome columnLt).2, keptVariance,
      if_pos above]
    exact decide_eq_true ((cutoff_nonneg allowance column).trans_lt above)

/-- Exact sums are refused for the lowest column that is not above its cutoff. -/
theorem compute_of_cut
    {lowest : Nat}
    (engine : Engine)
    (rowsSome : TableShape.rows input ≠ 0)
    (allowance : 0 ≤ Statistics.roundingAllowance (TableShape.rows input : K))
    (allocated :
      (output.allocate memory (TableShape.rows input) (TableShape.cols input) parameter).1 =
        .ok ())
    (lowestLt : lowest < TableShape.cols input)
    (scaled : parameter.doScale = true)
    (refused : parameter.zeroVariance = .reject)
    (cut : (columnVariance T input lowest : K) ≤ cutoff T input lowest)
    (before : ∀ column < lowest, cutoff T input column < (columnVariance T input column : K)) :
    compute memory engine input (withSums parameter (exactSums T input)) output =
      (.error (.single (.degenerateColumn lowest)), SlotMap.empty) := by
  have variances : ∀ column < TableShape.cols input,
      Reference.variance T engine input (withSums parameter (exactSums T input)) column =
        keptVariance T input column :=
    fun column columnLt => (columns_of_exactSums engine parameter rowsSome columnLt).2
  have alsoScaled : (withSums parameter (exactSums T input)).doScale = true := scaled
  have alsoRefused : (withSums parameter (exactSums T input)).zeroVariance = .reject := refused
  apply compute_of_runFailure? (LawfulView.regular input)
  rw [runFailure?_of_exactSums engine rowsSome (Nat.ne_zero_of_lt lowestLt) allocated]
  apply policyFailure?_of_lowest alsoScaled alsoRefused lowestLt
  · rw [variances lowest lowestLt, keptVariance, if_neg (not_lt_of_ge cut)]
    exact decide_eq_false (lt_irrefl (0 : K))
  · intro column columnLt
    rw [variances column (columnLt.trans lowestLt), keptVariance, if_pos (before column columnLt)]
    exact decide_eq_true ((cutoff_nonneg allowance column).trans_lt (before column columnLt))

/-- **Given sums agree with the scan.** Without rounding, on any engines, the sums of
the data give the means of the scan, and its variances where these are above the
allowance and zero elsewhere. Unless a column that is not above is refused, both
methods leave data, which is the same on every column whose variance is above the
allowance or zero. Sums that fit no data give no negative variance either. -/
theorem given_sums_agree
    (memory : Memory)
    (engine other : Engine)
    (input : τ)
    (parameter : Parameter K)
    (output : Output T)
    (rowsSome : TableShape.rows input ≠ 0)
    (colsSome : TableShape.cols input ≠ 0)
    (scanned : parameter.method = .defaultDense)
    (allowance : 0 ≤ Statistics.roundingAllowance (TableShape.rows input : K)) :
    let summed := withSums parameter (exactSums T input)
    (Statistics.compute T engine input parameter =
        .ok {
          means := (Array.range (TableShape.cols input)).map (columnMean T input)
          variances := (Array.range (TableShape.cols input)).map (columnVariance T input) } ∧
      Statistics.compute T other input summed =
        .ok {
          means := (Array.range (TableShape.cols input)).map (columnMean T input)
          variances := (Array.range (TableShape.cols input)).map (keptVariance T input) }) ∧
    ((output.allocate memory (TableShape.rows input) (TableShape.cols input) parameter).1 =
        .ok () →
      ((parameter.doScale = true → parameter.zeroVariance = .reject →
          ∀ column < TableShape.cols input,
            cutoff T input column < (columnVariance T input column : K)) →
        ∃ written table writtenFromSums tableFromSums,
          compute memory engine input parameter output = (.ok (), written) ∧
          written.get? .normalizedData = some table ∧
          compute memory other input summed output = (.ok (), writtenFromSums) ∧
          writtenFromSums.get? .normalizedData = some tableFromSums ∧
          tableFromSums.rows = table.rows ∧ tableFromSums.cols = table.cols ∧
          ∀ column < TableShape.cols input,
            cutoff T input column < (columnVariance T input column : K) ∨
                (columnVariance T input column : K) = 0 →
              ∀ row, tableFromSums.get? row column = table.get? row column) ∧
      ∀ lowest < TableShape.cols input, parameter.doScale = true →
        parameter.zeroVariance = .reject →
        (columnVariance T input lowest : K) ≤ cutoff T input lowest →
        (∀ column < lowest, cutoff T input column < (columnVariance T input column : K)) →
          compute memory other input summed output =
            (.error (.single (.degenerateColumn lowest)), SlotMap.empty)) ∧
    ∀ given : ColumnSums K, given.sums.size = TableShape.cols input →
      given.sumsOfSquares.size = TableShape.cols input →
      ∃ statistics, Statistics.compute T other input (withSums parameter given) = .ok statistics ∧
        statistics.variances.size = TableShape.cols input ∧
        ∀ variance ∈ statistics.variances, 0 ≤ variance := by
  intro summed
  refine ⟨⟨?_, ?_⟩, ?_, ?_⟩
  · exact statistics_eq_columns engine rowsSome colsSome scanned
  · exact statistics_of_exactSums other parameter rowsSome colsSome
  · intro allocated
    constructor
    · intro accepted
      obtain ⟨⟨written, table, succeeded, held, fromData⟩,
          writtenFromSums, tableFromSums, alsoSucceeded, alsoHeld, fromSums⟩ :=
        exists_data_of_exactSums engine other rowsSome colsSome scanned allowance allocated accepted
      refine ⟨written, table, writtenFromSums, tableFromSums, succeeded, held, alsoSucceeded,
        alsoHeld, ?_, ?_, ?_⟩
      · rw [fromSums.rows_eq, fromData.rows_eq]
      · rw [fromSums.cols_eq, fromData.cols_eq]
      · intro column columnLt kept
        exact column_eq_of_standardizes rowsSome scanned fromData fromSums columnLt kept
    · intro lowest lowestLt scaled refused cut before
      exact compute_of_cut other rowsSome allowance allocated lowestLt scaled refused cut before
  · intro given sumsFit squaresFit
    exact variances_nonneg_of_sums other parameter rowsSome colsSome allowance sumsFit squaresFit

end Methods

/-- Rational numbers as if the next after one were far from it. -/
@[reducible]
def coarse : Rooted Rat where
  root := Rat.sqrt
  unit := 1 / 32

/-- Two columns of one variance: the first is above half of its squares, the second,
which is far from zero, is not. -/
theorem given_sums_agree_of_coarse_unit :
    letI := coarse
    let input : Dense Rat := ⟨4, 2, #[-1, 9, 1, 11, -1, 9, 1, 11], rfl⟩
    let engine : Engine := ⟨.avx2, .pool 3 (by decide)⟩
    let parameter : Parameter Rat := Parameter.standard
    let summed : Parameter Rat := withSums parameter (exactSums Rat input)
    TableShape.rows input ≠ 0 ∧ TableShape.cols input ≠ 0 ∧
      0 ≤ Statistics.roundingAllowance (TableShape.rows input : Rat) ∧
      Statistics.compute Rat engine input parameter = .ok ⟨#[0, 10], #[1, 1]⟩ ∧
      Statistics.compute Rat engine input summed = .ok ⟨#[0, 10], #[1, 0]⟩ ∧
      ∃ written table writtenFromSums tableFromSums,
        compute Memory.unbounded engine input parameter (SlotMap.empty : Output Rat) =
            (.ok (), written) ∧
          written.get? .normalizedData = some table ∧
          compute Memory.unbounded engine input summed (SlotMap.empty : Output Rat) =
            (.ok (), writtenFromSums) ∧
          writtenFromSums.get? .normalizedData = some tableFromSums ∧
          ∀ row, tableFromSums.get? row 0 = table.get? row 0 := by
  let _ := coarse
  intro input engine parameter summed
  have rowsSome : TableShape.rows input ≠ 0 := by decide
  have colsSome : TableShape.cols input ≠ 0 := by decide
  have allowance : 0 ≤ Statistics.roundingAllowance (TableShape.rows input : Rat) := by
    decide +kernel
  have above : cutoff Rat input 0 < columnVariance Rat input 0 := by decide +kernel
  obtain ⟨⟨fromData, fromSums⟩, outcome, -⟩ :=
    given_sums_agree Memory.unbounded engine engine input parameter (SlotMap.empty : Output Rat)
      rowsSome colsSome rfl allowance
  have means : (Array.range (TableShape.cols input)).map (columnMean Rat input) = #[0, 10] := by
    decide +kernel
  have variances :
      (Array.range (TableShape.cols input)).map (columnVariance Rat input) = #[1, 1] := by
    decide +kernel
  have kept : (Array.range (TableShape.cols input)).map (keptVariance Rat input) = #[1, 0] := by
    decide +kernel
  rw [means, variances] at fromData
  rw [means, kept] at fromSums
  have allocated : (Output.allocate Memory.unbounded (SlotMap.empty : Output Rat) 4 2
      (Parameter.standard : Parameter Rat)).1 = .ok () := rfl
  obtain ⟨accepted, -⟩ := outcome allocated
  obtain ⟨written, table, writtenFromSums, tableFromSums, succeeded, held, alsoSucceeded, alsoHeld,
    -, -, same⟩ := accepted fun _ refused => nomatch refused
  exact ⟨rowsSome, colsSome, allowance, fromData, fromSums, written, table, writtenFromSums,
    tableFromSums, succeeded, held, alsoSucceeded, alsoHeld,
    same 0 Nat.zero_lt_two (.inl above)⟩

end Standardize.Exact
