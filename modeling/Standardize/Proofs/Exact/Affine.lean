import Mathlib.Algebra.Order.BigOperators.Group.Finset
import Mathlib.Data.Sign.Basic
import Standardize.Proofs.Exact.Normalized

/-!
Contract: without rounding, units and origins of the columns do not matter.

Owns:
- `AffineImage`, a table whose columns are those of another, scaled and shifted;
- the mean and the variance of such columns, the root of the variance, and the factor
  that they are standardized with;
- standardized data, which differs from that of the other table by the signs of the
  slopes alone;
- standardized data as such an image itself, which standardizing again leaves as it is.

Does not own: columns scaled by zero.
-/

set_option autoImplicit false

namespace Standardize.Exact

open Finset

variable {K τ σ : Type} [Field K] [TableShape τ] [TableView τ K] [TableShape σ] [TableView σ K]

/-- Each column of a table is a column of another in another unit and from another
origin. -/
structure AffineImage
    [LinearOrder K]
    (slope offset : Nat → K)
    (input : τ)
    (image : σ) :
    Prop where
  rows_eq : TableShape.rows image = TableShape.rows input
  cols_eq : TableShape.cols image = TableShape.cols input
  slope_ne : ∀ column < TableShape.cols input, slope column ≠ 0
  cell :
    ∀ row < TableShape.rows input, ∀ column < TableShape.cols input,
      cellNumber K image row column = slope column * cellNumber K input row column + offset column

variable [LinearOrder K]
variable {slope offset : Nat → K} {input : τ} {image : σ} {column : Nat}

/-! ## Statistics -/

section Statistics

variable [CharZero K]

theorem AffineImage.columnMean_eq
    (affine : AffineImage slope offset input image)
    (rowsSome : TableShape.rows input ≠ 0)
    (columnLt : column < TableShape.cols input) :
    columnMean K image column = slope column * columnMean K input column + offset column := by
  have rowsNe : (TableShape.rows input : K) ≠ 0 := Nat.cast_ne_zero.2 rowsSome
  have cells : ∀ row ∈ range (TableShape.rows input),
      cellNumber K image row column =
        slope column * cellNumber K input row column + offset column :=
    fun row member => affine.cell row (mem_range.1 member) column columnLt
  unfold columnMean
  rw [affine.rows_eq, sum_congr rfl cells, sum_add_distrib, ← mul_sum, sum_const, card_range,
    nsmul_eq_mul, add_div, mul_div_assoc, mul_div_cancel_left₀ _ rowsNe]

/-- Distances from the mean scale with the slope. -/
theorem AffineImage.distance_eq
    (affine : AffineImage slope offset input image)
    {row : Nat}
    (rowLt : row < TableShape.rows input)
    (columnLt : column < TableShape.cols input) :
    cellNumber K image row column - columnMean K image column =
      slope column * (cellNumber K input row column - columnMean K input column) := by
  rw [affine.cell row rowLt column columnLt,
    affine.columnMean_eq (Nat.ne_zero_of_lt rowLt) columnLt]
  ring

theorem AffineImage.columnVariance_eq
    (affine : AffineImage slope offset input image)
    (columnLt : column < TableShape.cols input) :
    columnVariance K image column = slope column ^ 2 * columnVariance K input column := by
  have squares : ∀ row ∈ range (TableShape.rows input),
      (cellNumber K image row column - columnMean K image column) ^ 2 =
        slope column ^ 2 * (cellNumber K input row column - columnMean K input column) ^ 2 := by
    intro row member
    rw [affine.distance_eq (mem_range.1 member) columnLt, mul_pow]
  unfold columnVariance
  rw [affine.rows_eq, sum_congr rfl squares, ← mul_sum, mul_div_assoc]

end Statistics

variable [IsStrictOrderedRing K]

private theorem columnVariance_nonneg (input : τ) (column : Nat) :
    0 ≤ columnVariance K input column :=
  div_nonneg (Finset.sum_nonneg fun _ _ => sq_nonneg _) (Nat.cast_nonneg _)

/-- The cells of a column without variance are all its mean. -/
theorem cellNumber_of_columnVariance_eq_zero
    (none : columnVariance K input column = 0)
    {row : Nat}
    (rowLt : row < TableShape.rows input) :
    cellNumber K input row column = columnMean K input column := by
  have rowsNe : (TableShape.rows input : K) ≠ 0 := Nat.cast_ne_zero.2 (Nat.ne_zero_of_lt rowLt)
  have squares : ∑ row ∈ range (TableShape.rows input),
      (cellNumber K input row column - columnMean K input column) ^ 2 = 0 :=
    (div_eq_zero_iff.1 none).resolve_right rowsNe
  have square := (sum_eq_zero_iff_of_nonneg fun _ _ => sq_nonneg _).1 squares row
    (mem_range.2 rowLt)
  exact sub_eq_zero.1 (pow_eq_zero_iff two_ne_zero |>.1 square)

section Image

variable [Rooted K] [TableAccess σ K] [LawfulView σ K] [ReadableTable σ K]

/-- The statistics of an image, by those of the table. -/
theorem AffineImage.statistics_eq
    (affine : AffineImage slope offset input image)
    (engine : Engine)
    {parameter : Parameter K}
    (rowsSome : TableShape.rows input ≠ 0)
    (colsSome : TableShape.cols input ≠ 0)
    (scanned : parameter.method = .defaultDense) :
    Statistics.compute K engine image parameter =
      .ok {
        means := (Array.range (TableShape.cols input)).map fun column =>
          slope column * columnMean K input column + offset column
        variances := (Array.range (TableShape.cols input)).map fun column =>
          slope column ^ 2 * columnVariance K input column } := by
  rw [← affine.cols_eq]
  apply statistics_of_columns engine (by rwa [affine.rows_eq]) (by rwa [affine.cols_eq])
    (parameterFailure?_of_scanned scanned _) (readFailure?_eq_none image)
  intro column columnLt
  have inInput : column < TableShape.cols input := by rwa [← affine.cols_eq]
  obtain ⟨centerEq, varianceEq⟩ := columns_of_scanned (T := K) engine scanned columnLt
  rw [centerEq, varianceEq, affine.columnMean_eq rowsSome inInput,
    affine.columnVariance_eq inInput]
  exact ⟨rfl, rfl⟩

end Image

/-! ## Factors -/

variable [Rooted K] [LawfulRoot K] {parameter : Parameter K}

/-- A root is the only number that is not negative whose square is the number. -/
private theorem root_sq_mul (number : K) {variance : K} (nonneg : 0 ≤ variance) :
    Rooted.root (number ^ 2 * variance) = |number| * Rooted.root variance := by
  have product : 0 ≤ number ^ 2 * variance := mul_nonneg (sq_nonneg number) nonneg
  apply (mul_self_inj (LawfulRoot.root_nonneg _)
    (mul_nonneg (abs_nonneg number) (LawfulRoot.root_nonneg variance))).1
  calc
    Rooted.root (number ^ 2 * variance) * Rooted.root (number ^ 2 * variance)
      = number ^ 2 * variance := LawfulRoot.root_mul_root _ product
    _ = |number| * |number| * (Rooted.root variance * Rooted.root variance) := by
        rw [LawfulRoot.root_mul_root variance nonneg, abs_mul_abs_self, sq]
    _ = |number| * Rooted.root variance * (|number| * Rooted.root variance) := by ring

/-- A column in another unit is scaled by a factor in the other unit. -/
theorem scale_sq_mul
    (scaled : parameter.doScale = true)
    {number variance : K}
    (numberNe : number ≠ 0)
    (nonneg : 0 ≤ variance) :
    |number| * Reference.scale parameter (number ^ 2 * variance) =
      Reference.scale parameter variance := by
  rcases nonneg.eq_or_lt with none | positive
  · rw [← none, mul_zero, scale_zero scaled, mul_zero]
  · have product : 0 < number ^ 2 * variance := mul_pos (sq_pos_of_ne_zero numberNe) positive
    have absNe : |number| ≠ 0 := abs_ne_zero.2 numberNe
    have factor : Reference.scale parameter variance = 1 / Rooted.root variance :=
      scale_of_lt scaled (decide_eq_true positive)
    have otherFactor : Reference.scale parameter (number ^ 2 * variance) =
        1 / Rooted.root (number ^ 2 * variance) :=
      scale_of_lt scaled (decide_eq_true product)
    rw [factor, otherFactor, root_sq_mul number nonneg, mul_one_div,
      mul_comm |number| (Rooted.root variance), div_mul_cancel_right₀ absNe, one_div]

private theorem scale_pos
    (scaled : parameter.doScale = true)
    {variance : K}
    (positive : 0 < variance) :
    0 < Reference.scale parameter variance := by
  have squared : Rooted.root variance * Rooted.root variance = variance :=
    LawfulRoot.root_mul_root variance positive.le
  have rootNe : Rooted.root variance ≠ 0 := by
    intro none
    rw [none, mul_zero] at squared
    exact positive.ne squared
  have factor : Reference.scale parameter variance = 1 / Rooted.root variance :=
    scale_of_lt scaled (decide_eq_true positive)
  rw [factor]
  exact one_div_pos.2 ((LawfulRoot.root_nonneg variance).lt_of_ne rootNe.symm)

/-! ## Standardized data -/

variable [TableAccess τ K] [LawfulView τ K] [ReadableTable τ K]
variable [TableAccess σ K] [LawfulView σ K] [ReadableTable σ K]
variable {left right : Engine} {table again : Dense K}

/-- Standardized, a column and its image differ by the sign of the slope. -/
theorem AffineImage.standardized_eq
    (affine : AffineImage slope offset input image)
    (fromInput : Standardizes left input parameter table)
    (fromImage : Standardizes right image parameter again)
    (scanned : parameter.method = .defaultDense)
    (scaled : parameter.doScale = true)
    {row : Nat}
    (rowLt : row < TableShape.rows input)
    (columnLt : column < TableShape.cols input) :
    cellNumber K again row column =
      SignType.sign (slope column) * cellNumber K table row column := by
  have imageRowLt : row < TableShape.rows image := by rwa [affine.rows_eq]
  have imageColumnLt : column < TableShape.cols image := by rwa [affine.cols_eq]
  have factors := scale_sq_mul scaled (affine.slope_ne column columnLt)
    (columnVariance_nonneg input column)
  rw [cellNumber_of_scanned fromImage scanned imageColumnLt imageRowLt,
    cellNumber_of_scanned fromInput scanned columnLt rowLt, affine.distance_eq rowLt columnLt,
    affine.columnVariance_eq columnLt]
  calc
    slope column * (cellNumber K input row column - columnMean K input column) *
        Reference.scale parameter (slope column ^ 2 * columnVariance K input column)
      = SignType.sign (slope column) * |slope column| *
          (cellNumber K input row column - columnMean K input column) *
          Reference.scale parameter (slope column ^ 2 * columnVariance K input column) := by
        rw [sign_mul_abs]
    _ = SignType.sign (slope column) *
          ((cellNumber K input row column - columnMean K input column) *
            (|slope column| *
              Reference.scale parameter (slope column ^ 2 * columnVariance K input column))) := by
        ring
    _ = SignType.sign (slope column) *
          ((cellNumber K input row column - columnMean K input column) *
            Reference.scale parameter (columnVariance K input column)) := by
        rw [factors]

/-- What standardized data is multiplied by; a column without variance, which it leaves
zero, could be multiplied by any number. -/
def standardizedSlope (parameter : Parameter K) (input : τ) (column : Nat) : K :=
  if 0 < columnVariance K input column then
    Reference.scale parameter (columnVariance K input column)
  else 1

omit [TableAccess τ K] [LawfulView τ K] [ReadableTable τ K] in
private theorem standardizedSlope_pos
    (scaled : parameter.doScale = true)
    (input : τ)
    (column : Nat) :
    0 < standardizedSlope parameter input column := by
  unfold standardizedSlope
  split
  · rename_i positive
    exact scale_pos scaled positive
  · exact one_pos

/-- Standardized data is an image of the data, with slopes above zero. -/
theorem affineImage_of_standardizes
    (fromInput : Standardizes left input parameter table)
    (scanned : parameter.method = .defaultDense)
    (scaled : parameter.doScale = true) :
    AffineImage (standardizedSlope parameter input)
      (fun column => -(standardizedSlope parameter input column * columnMean K input column))
      input table where
  rows_eq := fromInput.rows_eq
  cols_eq := fromInput.cols_eq
  slope_ne := fun column _ => (standardizedSlope_pos scaled input column).ne'
  cell := by
    intro row rowLt column columnLt
    rw [cellNumber_of_scanned fromInput scanned columnLt rowLt]
    unfold standardizedSlope
    split
    · ring
    · rename_i notPositive
      have none : columnVariance K input column = 0 :=
        le_antisymm (le_of_not_gt notPositive) (columnVariance_nonneg input column)
      rw [none, scale_zero scaled, cellNumber_of_columnVariance_eq_zero none rowLt]
      ring

omit [IsStrictOrderedRing K] [Rooted K] [LawfulRoot K] in
private theorem get?_eq_cellNumber
    {row : Nat}
    (rowLt : row < table.rows)
    (columnLt : column < table.cols) :
    table.get? row column = some (cellNumber K table row column) := by
  have cell : (TableView.cell? table row column : Option K) =
      some (table.cell row column rowLt columnLt) :=
    table.get?_eq_some rowLt columnLt
  unfold cellNumber
  rw [cell]
  exact cell

/-- Standardized data is left as it is. -/
theorem standardized_again
    (fromInput : Standardizes left input parameter table)
    (fromTable : Standardizes right table parameter again)
    (scanned : parameter.method = .defaultDense)
    (scaled : parameter.doScale = true) :
    again = table := by
  have affine := affineImage_of_standardizes fromInput scanned scaled
  apply Dense.eq_of_get?_eq fromTable.rows_eq fromTable.cols_eq
  intro row column
  by_cases inside : row < table.rows ∧ column < table.cols
  · obtain ⟨rowLt, columnLt⟩ := inside
    have againRowLt : row < again.rows := by rwa [fromTable.rows_eq]
    have againColumnLt : column < again.cols := by rwa [fromTable.cols_eq]
    have same := affine.standardized_eq fromInput fromTable scanned scaled
      (by rwa [← affine.rows_eq]) (by rwa [← affine.cols_eq])
    rw [sign_pos (standardizedSlope_pos scaled input column), SignType.coe_one, one_mul] at same
    rw [get?_eq_cellNumber againRowLt againColumnLt, get?_eq_cellNumber rowLt columnLt, same]
  · have outside : ¬(row < again.rows ∧ column < again.cols) := by
      rwa [fromTable.rows_eq, fromTable.cols_eq]
    rw [again.get?_eq_none outside, table.get?_eq_none inside]

/-- **Units and origins do not matter.** Without rounding, on any engines, scaling and
shifting the columns of a table does the same to their means and scales their
variances by the square. The standardized data only takes the signs of the slopes, and
standardizing it again leaves it as it is. -/
theorem affine_invariance
    (memory : Memory)
    (left right : Engine)
    (input : τ)
    (image : σ)
    (slope offset : Nat → K)
    (parameter : Parameter K)
    (output other : Output K)
    (rowsSome : TableShape.rows input ≠ 0)
    (colsSome : TableShape.cols input ≠ 0)
    (scanned : parameter.method = .defaultDense)
    (affine : AffineImage slope offset input image) :
    (Statistics.compute K left input parameter =
        .ok {
          means := (Array.range (TableShape.cols input)).map (columnMean K input)
          variances := (Array.range (TableShape.cols input)).map (columnVariance K input) } ∧
      Statistics.compute K right image parameter =
        .ok {
          means := (Array.range (TableShape.cols input)).map fun column =>
            slope column * columnMean K input column + offset column
          variances := (Array.range (TableShape.cols input)).map fun column =>
            slope column ^ 2 * columnVariance K input column }) ∧
    (parameter.doScale = true → parameter.zeroVariance = .emitZero →
      (output.allocate memory (TableShape.rows input) (TableShape.cols input) parameter).1 =
        .ok () →
      (other.allocate memory (TableShape.rows input) (TableShape.cols input) parameter).1 =
        .ok () →
      ∃ written table writtenImage tableImage writtenAgain,
        compute memory left input parameter output = (.ok (), written) ∧
        written.get? .normalizedData = some table ∧
        compute memory right image parameter other = (.ok (), writtenImage) ∧
        writtenImage.get? .normalizedData = some tableImage ∧
        (tableImage.rows = table.rows ∧ tableImage.cols = table.cols ∧
          ∀ row < TableShape.rows input, ∀ column < TableShape.cols input,
            ∃ number, table.get? row column = some number ∧
              tableImage.get? row column = some (SignType.sign (slope column) * number)) ∧
        compute memory right table parameter other = (.ok (), writtenAgain) ∧
        writtenAgain.get? .normalizedData = some table) := by
  have imageRowsSome : TableShape.rows image ≠ 0 := by rwa [affine.rows_eq]
  have imageColsSome : TableShape.cols image ≠ 0 := by rwa [affine.cols_eq]
  refine ⟨⟨?_, ?_⟩, ?_⟩
  · exact statistics_eq_columns left rowsSome colsSome scanned
  · exact affine.statistics_eq right rowsSome colsSome scanned
  · intro scaled emitted allocated alsoAllocated
    have accepted : parameter.zeroVariance ≠ .reject := by
      rw [emitted]
      exact ZeroVariance.noConfusion
    obtain ⟨written, table, succeeded, held, fromInput⟩ :=
      exists_standardizes_of_scanned left rowsSome colsSome scanned allocated
        fun _ refused => absurd refused accepted
    obtain ⟨writtenImage, tableImage, imageSucceeded, imageHeld, fromImage⟩ :=
      exists_standardizes_of_scanned right imageRowsSome imageColsSome scanned
        (by rwa [affine.rows_eq, affine.cols_eq]) fun _ refused => absurd refused accepted
    have tableRows : TableShape.rows table = TableShape.rows input := fromInput.rows_eq
    have tableCols : TableShape.cols table = TableShape.cols input := fromInput.cols_eq
    obtain ⟨writtenAgain, again, againSucceeded, againHeld, fromTable⟩ :=
      exists_standardizes_of_scanned right (by rwa [tableRows]) (by rwa [tableCols]) scanned
        (by rwa [tableRows, tableCols]) fun _ refused => absurd refused accepted
    rw [standardized_again fromInput fromTable scanned scaled] at againHeld
    have imageRows : tableImage.rows = table.rows := by
      rw [fromImage.rows_eq, fromInput.rows_eq, affine.rows_eq]
    have imageCols : tableImage.cols = table.cols := by
      rw [fromImage.cols_eq, fromInput.cols_eq, affine.cols_eq]
    refine ⟨written, table, writtenImage, tableImage, writtenAgain, succeeded, held, imageSucceeded,
      imageHeld, ⟨imageRows, imageCols, ?_⟩, againSucceeded, againHeld⟩
    intro row rowLt column columnLt
    have rowInTable : row < table.rows := by rwa [fromInput.rows_eq]
    have columnInTable : column < table.cols := by rwa [fromInput.cols_eq]
    refine ⟨_, get?_eq_cellNumber rowInTable columnInTable, ?_⟩
    rw [get?_eq_cellNumber (by rwa [imageRows]) (by rwa [imageCols]),
      affine.standardized_eq fromInput fromImage scanned scaled rowLt columnLt]

/-- Real numbers in blocks of one row on one side: a column that is turned around and a
constant one. -/
theorem affine_invariance_of_real_numbers :
    let input : Dense ℝ := ⟨2, 2, #[1, 4, 3, 4], rfl⟩
    let image : Dense ℝ := ⟨2, 2, #[5, 9, 1, 9], rfl⟩
    let slope : Nat → ℝ := fun column => if column = 0 then -2 else 2
    let offset : Nat → ℝ := fun column => if column = 0 then 7 else 1
    let engine : Engine := ⟨.avx2, .pool 3 (by decide)⟩
    let parameter : Parameter ℝ := Parameter.standard
    TableShape.rows input ≠ 0 ∧ TableShape.cols input ≠ 0 ∧
      AffineImage slope offset input image ∧
      Statistics.compute ℝ engine image parameter = .ok ⟨#[3, 9], #[4, 0]⟩ ∧
      ∃ written table writtenImage tableImage number,
        compute Memory.unbounded (Engine.sequential .scalar) input parameter
            (SlotMap.empty : Output ℝ) = (.ok (), written) ∧
          written.get? .normalizedData = some table ∧
          compute Memory.unbounded engine image parameter (SlotMap.empty : Output ℝ) =
            (.ok (), writtenImage) ∧
          writtenImage.get? .normalizedData = some tableImage ∧
          table.get? 0 0 = some number ∧ tableImage.get? 0 0 = some (-number) := by
  intro input image slope offset engine parameter
  have rowsSome : TableShape.rows input ≠ 0 := by decide
  have colsSome : TableShape.cols input ≠ 0 := by decide
  have affine : AffineImage slope offset input image := by
    refine ⟨rfl, rfl, ?_, ?_⟩
    · intro column _
      simp only [slope]
      split <;> norm_num
    · intro row rowLt column columnLt
      have rowCases : row = 0 ∨ row = 1 :=
        Nat.le_one_iff_eq_zero_or_eq_one.1 (Nat.le_of_lt_succ rowLt)
      have columnCases : column = 0 ∨ column = 1 :=
        Nat.le_one_iff_eq_zero_or_eq_one.1 (Nat.le_of_lt_succ columnLt)
      rcases rowCases with rfl | rfl <;> rcases columnCases with rfl | rfl
      · change (5 : ℝ) = _ * 1 + _
        norm_num [slope, offset]
      · change (9 : ℝ) = _ * 4 + _
        norm_num [slope, offset]
      · change (1 : ℝ) = _ * 3 + _
        norm_num [slope, offset]
      · change (9 : ℝ) = _ * 4 + _
        norm_num [slope, offset]
  have allocated :
      (Output.allocate Memory.unbounded (SlotMap.empty : Output ℝ) 2 2
        (Parameter.standard : Parameter ℝ)).1 = .ok () := rfl
  obtain ⟨⟨-, ofImage⟩, outcome⟩ :=
    affine_invariance Memory.unbounded (Engine.sequential .scalar) engine input image slope offset
      parameter SlotMap.empty SlotMap.empty rowsSome colsSome rfl affine
  obtain ⟨written, table, writtenImage, tableImage, -, succeeded, held, imageSucceeded, imageHeld,
    ⟨-, -, cells⟩, -, -⟩ := outcome rfl rfl allocated allocated
  obtain ⟨number, numberEq, imageEq⟩ := cells 0 Nat.zero_lt_two 0 Nat.zero_lt_two
  refine ⟨rowsSome, colsSome, affine, ?_, written, table, writtenImage, tableImage, number,
    succeeded, held, imageSucceeded, imageHeld, numberEq, ?_⟩
  · have firstColumn : cellNumber ℝ input 0 0 = 1 ∧ cellNumber ℝ input 1 0 = 3 := ⟨rfl, rfl⟩
    have secondColumn : cellNumber ℝ input 0 1 = 4 ∧ cellNumber ℝ input 1 1 = 4 := ⟨rfl, rfl⟩
    have rows : TableShape.rows input = 2 := rfl
    have means : columnMean ℝ input 0 = 2 ∧ columnMean ℝ input 1 = 4 := by
      norm_num [columnMean, rows, sum_range_succ, firstColumn, secondColumn]
    have variances : columnVariance ℝ input 0 = 1 ∧ columnVariance ℝ input 1 = 0 := by
      norm_num [columnVariance, means, rows, sum_range_succ, firstColumn, secondColumn]
    have range : Array.range (TableShape.cols input) = #[0, 1] := rfl
    rw [ofImage, range]
    norm_num [slope, offset, means, variances]
  · rw [imageEq]
    norm_num [slope]

end Standardize.Exact
