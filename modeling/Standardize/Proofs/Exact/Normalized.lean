import Mathlib.Analysis.Real.Sqrt
import Standardize.Proofs.Data
import Standardize.Proofs.Exact.Statistics

/-!
Contract: without rounding, a standardized column has mean zero and variance one.

Owns:
- `LawfulRoot`, a root whose square is the number, and the real numbers with it;
- scans that leave data;
- sums of the distances of a column from its mean, and of their squares;
- the columns that a standardization leaves: scaled, without variance, and
  centered alone.

Does not own: rounding.
-/

set_option autoImplicit false

namespace Standardize

/-- A root is what multiplied by itself gives the number. -/
class LawfulRoot (K : Type) [Field K] [LinearOrder K] [Rooted K] : Prop where
  root_nonneg : ∀ number : K, 0 ≤ Rooted.root number
  root_mul_root : ∀ number : K, 0 ≤ number → Rooted.root number * Rooted.root number = number

/-- Real numbers, with the root that each of them has which is not negative. -/
noncomputable instance : Rooted ℝ where
  root := Real.sqrt
  unit := 0

instance : LawfulRoot ℝ where
  root_nonneg := Real.sqrt_nonneg
  root_mul_root := fun _ nonneg => Real.mul_self_sqrt nonneg

namespace Exact

open Finset

/-! ## Distances from the mean -/

section Distances

variable {K T τ : Type} [Field K] [CharZero K] [Element T K] [TableShape τ] [TableView τ T]
variable {input : τ}

/-- The distances of a column from its mean cancel. -/
theorem sum_distances
    (rowsSome : TableShape.rows input ≠ 0)
    (column : Nat) :
    ∑ row ∈ range (TableShape.rows input),
      (cellNumber T input row column - columnMean T input column) = 0 := by
  rw [sum_sub_distrib, sum_const, card_range, nsmul_eq_mul, rows_mul_columnMean rowsSome,
    sub_self]

/-- The squared distances of a column from its mean add up to its variance, once for
each row. -/
theorem sum_sq_distances
    (rowsSome : TableShape.rows input ≠ 0)
    (column : Nat) :
    ∑ row ∈ range (TableShape.rows input),
        (cellNumber T input row column - columnMean T input column) ^ 2 =
      TableShape.rows input * columnVariance T input column := by
  have rowsNe : (TableShape.rows input : K) ≠ 0 := Nat.cast_ne_zero.2 rowsSome
  unfold columnVariance
  exact (mul_div_cancel₀ _ rowsNe).symm

end Distances

/-! ## Data -/

/-- Without rounding, a scan whose places can be had leaves data, unless a column
without variance is refused. -/
theorem exists_standardizes_of_scanned
    {K T τ : Type}
    [Field K]
    [LinearOrder K]
    [IsStrictOrderedRing K]
    [Rooted K]
    [Element T K]
    [TableShape τ]
    [TableView τ T]
    [TableAccess τ T]
    [LawfulView τ T]
    [ReadableTable τ T]
    {memory : Memory}
    (engine : Engine)
    {input : τ}
    {parameter : Parameter K}
    {output : Output T}
    (rowsSome : TableShape.rows input ≠ 0)
    (colsSome : TableShape.cols input ≠ 0)
    (scanned : parameter.method = .defaultDense)
    (allocated :
      (output.allocate memory (TableShape.rows input) (TableShape.cols input) parameter).1 =
        .ok ())
    (accepted : parameter.doScale = true → parameter.zeroVariance = .reject →
      ∀ column < TableShape.cols input, 0 < (columnVariance T input column : K)) :
    ∃ written table, compute memory engine input parameter output = (.ok (), written) ∧
      written.get? .normalizedData = some table ∧
      Standardizes engine input parameter table := by
  have prepared := preparationFailure?_of_allocated rowsSome colsSome
    (parameterFailure?_of_scanned scanned _) allocated
  apply exists_standardizes
  rw [runFailure?_of_readable prepared (readFailure?_eq_none input)]
  apply policyFailure?_of_accepted
  intro scaled policy column columnLt
  rw [(columns_of_scanned (T := T) engine scanned columnLt).2]
  exact decide_eq_true (accepted scaled policy column columnLt)

/-! ## Standardized columns -/

variable {K τ : Type} [Field K] [LinearOrder K] [IsStrictOrderedRing K] [Rooted K]
  [TableShape τ] [TableAccess τ K] [TableView τ K]
variable
  {engine : Engine}
  {input : τ}
  {parameter : Parameter K}
  {table : Dense K}
  {column : Nat}

omit [IsStrictOrderedRing K] in
private theorem cellNumber_of_standardizes
    (standardizes : Standardizes engine input parameter table)
    {row : Nat}
    (rowLt : row < TableShape.rows input)
    (columnLt : column < TableShape.cols input) :
    cellNumber K table row column =
      (cellNumber K input row column - Reference.center K engine input parameter column) *
        Reference.scale parameter (Reference.variance K engine input parameter column) := by
  obtain ⟨value, cellEq, getEq⟩ := standardizes.cell row rowLt column columnLt
  have tableCell : (TableView.cell? table row column : Option K) =
      some (standardizeValue (Reference.center K engine input parameter column)
        (Reference.scale parameter (Reference.variance K engine input parameter column)) value) :=
    getEq
  unfold cellNumber
  rw [tableCell, cellEq]
  rfl

variable [LawfulView τ K] [ReadableTable τ K]

/-- The cells that a scan leaves are the distances from the mean, times one factor
for the column. -/
theorem cellNumber_of_scanned
    (standardizes : Standardizes engine input parameter table)
    (scanned : parameter.method = .defaultDense)
    (columnLt : column < TableShape.cols input)
    {row : Nat}
    (rowLt : row < TableShape.rows input) :
    cellNumber K table row column =
      (cellNumber K input row column - columnMean K input column) *
        Reference.scale parameter (columnVariance K input column) := by
  obtain ⟨centerEq, varianceEq⟩ := columns_of_scanned (T := K) engine scanned columnLt
  rw [cellNumber_of_standardizes standardizes rowLt columnLt, centerEq, varianceEq]

/-- Whatever the factor, the column adds up to zero and its squares to the variance,
once for each row, times the square of the factor. -/
theorem sums_of_scanned
    (standardizes : Standardizes engine input parameter table)
    (rowsSome : TableShape.rows input ≠ 0)
    (scanned : parameter.method = .defaultDense)
    (columnLt : column < TableShape.cols input) :
    ∑ row ∈ range (TableShape.rows input), cellNumber K table row column = 0 ∧
      ∑ row ∈ range (TableShape.rows input), cellNumber K table row column ^ 2 =
        TableShape.rows input * columnVariance K input column *
          Reference.scale parameter (columnVariance K input column) ^ 2 := by
  have cells : ∀ row ∈ range (TableShape.rows input),
      cellNumber K table row column =
        (cellNumber K input row column - columnMean K input column) *
          Reference.scale parameter (columnVariance K input column) := by
    intro row member
    exact cellNumber_of_scanned standardizes scanned columnLt (mem_range.1 member)
  constructor
  · rw [sum_congr rfl cells, ← sum_mul, sum_distances rowsSome column, zero_mul]
  · have squares : ∀ row ∈ range (TableShape.rows input),
        cellNumber K table row column ^ 2 =
          (cellNumber K input row column - columnMean K input column) ^ 2 *
            Reference.scale parameter (columnVariance K input column) ^ 2 := by
      intro row member
      rw [cells row member, mul_pow]
    rw [sum_congr rfl squares, ← sum_mul, sum_sq_distances rowsSome column]

omit [IsStrictOrderedRing K] in
theorem scale_zero (scaled : parameter.doScale = true) :
    Reference.scale parameter (0 : K) = 0 :=
  scale_of_not_lt scaled (decide_eq_false (lt_irrefl (0 : K)))

omit [IsStrictOrderedRing K] in
private theorem sq_scale_of_pos
    [LawfulRoot K]
    {variance : K}
    (scaled : parameter.doScale = true)
    (positive : 0 < variance) :
    variance * Reference.scale parameter variance ^ 2 = 1 := by
  have squared : Rooted.root variance ^ 2 = variance := by
    rw [sq]
    exact LawfulRoot.root_mul_root variance positive.le
  have factor : Reference.scale parameter variance = 1 / Rooted.root variance :=
    scale_of_lt scaled (decide_eq_true positive)
  rw [factor, div_pow, one_pow, squared, mul_one_div_cancel positive.ne']

variable [LawfulRoot K]

/-- **Standardized columns.** Without rounding, on any engine, a scan whose places can
be had succeeds unless a column without variance is refused. Each column that it
leaves has mean zero and variance one where the data varies, is zero where it does
not, and keeps its variance where it is only centered. -/
theorem standardized_columns
    (memory : Memory)
    (engine : Engine)
    (input : τ)
    (parameter : Parameter K)
    (output : Output K)
    (rowsSome : TableShape.rows input ≠ 0)
    (colsSome : TableShape.cols input ≠ 0)
    (scanned : parameter.method = .defaultDense)
    (allocated :
      (output.allocate memory (TableShape.rows input) (TableShape.cols input) parameter).1 =
        .ok ())
    (accepted : parameter.doScale = true → parameter.zeroVariance = .reject →
      ∀ column < TableShape.cols input, 0 < columnVariance K input column) :
    ∃ written table, compute memory engine input parameter output = (.ok (), written) ∧
      written.get? .normalizedData = some table ∧
      table.rows = TableShape.rows input ∧ table.cols = TableShape.cols input ∧
      ∀ column < TableShape.cols input,
        (parameter.doScale = true → 0 < columnVariance K input column →
          ∑ row ∈ range (TableShape.rows input), cellNumber K table row column = 0 ∧
            ∑ row ∈ range (TableShape.rows input), cellNumber K table row column ^ 2 =
              TableShape.rows input) ∧
        (parameter.doScale = true → parameter.zeroVariance = .emitZero →
          columnVariance K input column = 0 →
            ∀ row < TableShape.rows input, cellNumber K table row column = 0) ∧
        (parameter.doScale = false →
          ∑ row ∈ range (TableShape.rows input), cellNumber K table row column = 0 ∧
            ∑ row ∈ range (TableShape.rows input), cellNumber K table row column ^ 2 =
              TableShape.rows input * columnVariance K input column) := by
  obtain ⟨written, table, succeeded, held, standardizes⟩ :=
    exists_standardizes_of_scanned engine rowsSome colsSome scanned allocated accepted
  refine ⟨written, table, succeeded, held, standardizes.rows_eq, standardizes.cols_eq, ?_⟩
  intro column columnLt
  obtain ⟨sum, squares⟩ := sums_of_scanned standardizes rowsSome scanned columnLt
  refine ⟨?_, ?_, ?_⟩
  · intro scaled positive
    refine ⟨sum, ?_⟩
    rw [squares, mul_assoc, sq_scale_of_pos scaled positive, mul_one]
  · intro scaled _ none row rowLt
    rw [cellNumber_of_scanned standardizes scanned columnLt rowLt, none, scale_zero scaled,
      mul_zero]
  · intro unscaled
    refine ⟨sum, ?_⟩
    rw [squares, scale_of_not_scaled unscaled, one_pow, mul_one]

/-- Real numbers in blocks of one row, on a pool with more threads than columns: the
first column varies and the second does not. -/
theorem standardized_columns_of_real_numbers :
    let input : Dense ℝ := ⟨3, 2, #[1, 7, 2, 7, 6, 7], rfl⟩
    let engine : Engine := ⟨.avx2, .pool 4 (by decide)⟩
    TableShape.rows input ≠ 0 ∧ TableShape.cols input ≠ 0 ∧
      ∃ written table,
        compute Memory.unbounded engine input Parameter.standard (SlotMap.empty : Output ℝ) =
            (.ok (), written) ∧
          written.get? .normalizedData = some table ∧
          ∑ row ∈ range 3, cellNumber ℝ table row 0 = 0 ∧
          ∑ row ∈ range 3, cellNumber ℝ table row 0 ^ 2 = 3 ∧
          ∀ row < 3, cellNumber ℝ table row 1 = 0 := by
  intro input engine
  have rowsSome : TableShape.rows input ≠ 0 := by decide
  have colsSome : TableShape.cols input ≠ 0 := by decide
  have allocated :
      (Output.allocate Memory.unbounded (SlotMap.empty : Output ℝ) 3 2
        (Parameter.standard : Parameter ℝ)).1 = .ok () := rfl
  have firstColumn : cellNumber ℝ input 0 0 = 1 ∧ cellNumber ℝ input 1 0 = 2 ∧
      cellNumber ℝ input 2 0 = 6 := ⟨rfl, rfl, rfl⟩
  have secondColumn : cellNumber ℝ input 0 1 = 7 ∧ cellNumber ℝ input 1 1 = 7 ∧
      cellNumber ℝ input 2 1 = 7 := ⟨rfl, rfl, rfl⟩
  have rows : TableShape.rows input = 3 := rfl
  have varies : 0 < columnVariance ℝ input 0 := by
    norm_num [columnVariance, columnMean, rows, sum_range_succ, firstColumn]
  have constant : columnVariance ℝ input 1 = 0 := by
    norm_num [columnVariance, columnMean, rows, sum_range_succ, secondColumn]
  obtain ⟨written, table, succeeded, held, -, -, columns⟩ :=
    standardized_columns Memory.unbounded engine input Parameter.standard SlotMap.empty rowsSome
      colsSome rfl allocated (fun _ reject => nomatch reject)
  obtain ⟨first, -, -⟩ := columns 0 Nat.zero_lt_two
  obtain ⟨-, second, -⟩ := columns 1 Nat.one_lt_two
  obtain ⟨sum, squares⟩ := first rfl varies
  exact ⟨rowsSome, colsSome, written, table, succeeded, held, sum, squares,
    second rfl rfl constant⟩

end Exact

end Standardize
