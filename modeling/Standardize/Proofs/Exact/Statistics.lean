import Standardize.Proofs.Exact.Moments
import Standardize.Proofs.Table.View
import Standardize.Proofs.Validation

/-!
Contract: without rounding, the statistics of the data are what their names say.

Owns:
- the mean and the population variance of a column, cell by cell;
- the scan of the data, which gives exactly these, whatever the engine.

Does not own: the layouts, of which any that can be read will do.
-/

set_option autoImplicit false

namespace Standardize.Exact

open Finset

variable {K T τ : Type} [Field K] [Element T K] [TableShape τ] [TableView τ T]

/-- The number in a cell; zero where there is no such cell. -/
def cellNumber
    (T : Type)
    [Element T K]
    [TableView τ T]
    (input : τ)
    (row column : Nat) :
    K :=
  ((TableView.cell? input row column : Option T).map Element.widen).getD 0

/-- The mean of the cells of a column. -/
def columnMean
    (T : Type)
    [Element T K]
    [TableView τ T]
    (input : τ)
    (column : Nat) :
    K :=
  (∑ row ∈ range (TableShape.rows input), cellNumber T input row column) / TableShape.rows input

/-- The mean of the squared distances of the cells of a column from their mean. -/
def columnVariance
    (T : Type)
    [Element T K]
    [TableView τ T]
    (input : τ)
    (column : Nat) :
    K :=
  (∑ row ∈ range (TableShape.rows input),
    (cellNumber T input row column - columnMean T input column) ^ 2) / TableShape.rows input

/-- The mean of a column, once for each row, is the sum of its cells. -/
theorem rows_mul_columnMean
    [CharZero K]
    {input : τ}
    (rowsSome : TableShape.rows input ≠ 0)
    (column : Nat) :
    (TableShape.rows input : K) * columnMean T input column =
      ∑ row ∈ range (TableShape.rows input), cellNumber T input row column := by
  unfold columnMean
  exact mul_div_cancel₀ _ (Nat.cast_ne_zero.2 rowsSome)

variable [TableAccess τ T] [LawfulView τ T]

/-- The numbers of a column that was read are those of its cells. -/
theorem numbers_of_readColumn
    {input : τ}
    {column : Nat}
    {read : Array T}
    (columnLt : column < TableShape.cols input)
    (readEq : TableAccess.readColumn input column = .ok read) :
    numbers read =
      (List.range (TableShape.rows input)).map fun row => cellNumber T input row column := by
  have size := LawfulView.regular input column columnLt read readEq
  refine List.ext_getElem (by simp [numbers, size]) fun row inside _ => ?_
  have rowLt : row < read.size := by simpa [numbers] using inside
  have cell := LawfulView.getElem?_of_readColumn input column read readEq row
  rw [Array.getElem?_eq_getElem rowLt] at cell
  simp [numbers, cellNumber, ← cell]

private theorem mean_of_readColumn
    {input : τ}
    {column : Nat}
    {read : Array T}
    (columnLt : column < TableShape.cols input)
    (readEq : TableAccess.readColumn input column = .ok read) :
    mean (numbers read) = columnMean T input column := by
  rw [mean, numbers_of_readColumn columnLt readEq, List.length_map, List.length_range]
  rfl

private theorem deviations_of_readColumn
    {input : τ}
    {column : Nat}
    {read : Array T}
    (columnLt : column < TableShape.cols input)
    (readEq : TableAccess.readColumn input column = .ok read) :
    deviations (mean (numbers read)) (numbers read) / (numbers read).length =
      columnVariance T input column := by
  rw [mean_of_readColumn columnLt readEq, numbers_of_readColumn columnLt readEq, deviations,
    List.length_map, List.length_range, List.map_map]
  rfl

variable [LinearOrder K] [IsStrictOrderedRing K] [Rooted K]

/-- The statistics of a column that can be read, on any engine. -/
theorem statistics_of_readColumn
    (engine : Engine)
    {input : τ}
    {column : Nat}
    {read : Array T}
    (columnLt : column < TableShape.cols input)
    (readEq : TableAccess.readColumn input column = .ok read) :
    (Reference.moments T engine input column).center = columnMean T input column ∧
      (Reference.moments T engine input column).variance = columnVariance T input column := by
  unfold Reference.moments
  rw [ofColumn_eq_moments, values_of_readColumn readEq]
  constructor
  · rw [center_moments]
    exact mean_of_readColumn columnLt readEq
  · rw [variance_moments]
    exact deviations_of_readColumn columnLt readEq

variable [ReadableTable τ T]

omit [TableView τ T] [LawfulView τ T] in
theorem readFailure?_eq_none (input : τ) : Reference.readFailure? T input = none := by
  refine List.findSome?_eq_none_iff.2 fun column member => ?_
  obtain ⟨values, read⟩ :=
    ReadableTable.readable (T := T) input column (List.mem_range.1 member)
  rw [read]
  rfl

/-- The center and the variance that a scan gives a column, on any engine. -/
theorem columns_of_scanned
    (engine : Engine)
    {input : τ}
    {parameter : Parameter K}
    {column : Nat}
    (scanned : parameter.method = .defaultDense)
    (columnLt : column < TableShape.cols input) :
    Reference.center T engine input parameter column = columnMean T input column ∧
      Reference.variance T engine input parameter column = columnVariance T input column := by
  obtain ⟨read, readEq⟩ := ReadableTable.readable (T := T) input column columnLt
  unfold Reference.center Reference.variance
  rw [scanned]
  exact statistics_of_readColumn engine columnLt readEq

/-- Scanned statistics of a readable table are those of the cells. -/
theorem statistics_eq_columns
    (engine : Engine)
    {input : τ}
    {parameter : Parameter K}
    (rowsSome : TableShape.rows input ≠ 0)
    (colsSome : TableShape.cols input ≠ 0)
    (scanned : parameter.method = .defaultDense) :
    Statistics.compute T engine input parameter =
      .ok {
        means := (Array.range (TableShape.cols input)).map (columnMean T input)
        variances := (Array.range (TableShape.cols input)).map (columnVariance T input) } := by
  apply statistics_of_columns engine rowsSome colsSome (parameterFailure?_of_scanned scanned _)
    (readFailure?_eq_none input)
  intro column columnLt
  exact columns_of_scanned engine scanned columnLt

/-- **The scan is exact.** Without rounding, every engine finds for every column
the mean of its cells and the mean of their squared distances from it, so all
engines agree; and where a column is constant, the center and the variance are
still what the formulas give. -/
theorem statistics_exact
    (engine : Engine)
    (input : τ)
    (parameter : Parameter K)
    (rowsSome : TableShape.rows input ≠ 0)
    (colsSome : TableShape.cols input ≠ 0)
    (scanned : parameter.method = .defaultDense) :
    Statistics.compute T engine input parameter =
        .ok {
          means := (Array.range (TableShape.cols input)).map (columnMean T input)
          variances := (Array.range (TableShape.cols input)).map (columnVariance T input) } ∧
      (∀ other : Engine,
        Statistics.compute T other input parameter =
          Statistics.compute T engine input parameter) ∧
      ∀ (backend : Backend) (column : Array T) (blockLength : Nat),
        (Moments.ofColumn backend column blockLength).center =
            (Moments.ofColumn backend column blockLength).mean ∧
          (Moments.ofColumn backend column blockLength).variance =
            (Moments.ofColumn backend column blockLength).m2 /
              (Moments.ofColumn backend column blockLength).count := by
  refine ⟨statistics_eq_columns engine rowsSome colsSome scanned, fun other => ?_,
    fun backend column blockLength => ?_⟩
  · rw [statistics_eq_columns other rowsSome colsSome scanned,
      statistics_eq_columns engine rowsSome colsSome scanned]
  · rw [ofColumn_eq_moments]
    exact ⟨center_moments _, variance_moments _⟩

/-- Three rows in blocks of one, on a pool with more threads than columns. -/
theorem statistics_exact_of_three_rows :
    let input : Dense Rat := ⟨3, 1, #[1, 2, 6], rfl⟩
    let engine : Engine := ⟨.avx2, .pool 2 (by decide)⟩
    TableShape.rows input ≠ 0 ∧ TableShape.cols input ≠ 0 ∧
      Statistics.compute Rat engine input Parameter.standard = .ok ⟨#[3], #[14 / 3]⟩ := by
  intro input engine
  have rowsSome : TableShape.rows input ≠ 0 := by decide
  have colsSome : TableShape.cols input ≠ 0 := by decide
  obtain ⟨answer, -, -⟩ :=
    statistics_exact (T := Rat) engine input Parameter.standard rowsSome colsSome rfl
  refine ⟨rowsSome, colsSome, answer.trans ?_⟩
  have means : (Array.range (TableShape.cols input)).map (columnMean Rat input) = #[3] := by
    decide +kernel
  have variances :
      (Array.range (TableShape.cols input)).map (columnVariance Rat input) = #[14 / 3] := by
    decide +kernel
  rw [means, variances]

end Standardize.Exact
