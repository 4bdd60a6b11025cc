import Standardize.Proofs.Outcome

/-!
Contract: the data of a standardization, and when there is any.

Owns:
- the factor of a column, by the flag for scaling and by its variance;
- `Standardizes`, by which the cells of a table are those of the input, centered
  and scaled column by column;
- the runs without a cause of failure, each of which leaves such a table;
- the conditions under which a run over readable columns meets no cause, and the
  column for which it is refused otherwise.

Does not own: the statistics, nor what the cells amount to.
-/

set_option autoImplicit false

namespace Standardize

open Reference

variable {T F τ : Type} [Arithmetic F] [Element T F] [TableShape τ] [TableAccess τ T]

/-- A table of the shape of the input, whose cells are those of the input with the
center of their column taken away and the scale of their column applied. -/
structure Standardizes
    [TableView τ T]
    (engine : Engine)
    (input : τ)
    (parameter : Parameter F)
    (table : Dense T) :
    Prop where
  rows_eq : table.rows = TableShape.rows input
  cols_eq : table.cols = TableShape.cols input
  cell :
    ∀ row < TableShape.rows input, ∀ column < TableShape.cols input,
      ∃ value : T, TableView.cell? input row column = some value ∧
        table.get? row column =
          some (standardizeValue (center T engine input parameter column)
            (scale parameter (variance T engine input parameter column)) value)

variable
  {memory : Memory}
  {engine : Engine}
  {input : τ}
  {parameter : Parameter F}
  {output written : Output T}

/-! ## Factors -/

section Factors

variable {variance : F}

theorem scale_of_not_scaled
    (unscaled : parameter.doScale = false)
    (variance : F) :
    scale parameter variance = 1 := by
  unfold scale
  rw [unscaled]
  rfl

theorem scale_of_lt
    (scaled : parameter.doScale = true)
    (above : Arithmetic.lt 0 variance = true) :
    scale parameter variance = 1 / Arithmetic.sqrt variance := by
  unfold scale
  rw [if_pos scaled, if_pos above]

theorem scale_of_not_lt
    (scaled : parameter.doScale = true)
    (notAbove : Arithmetic.lt 0 variance = false) :
    scale parameter variance = 0 := by
  unfold scale
  rw [if_pos scaled]
  exact if_neg (Bool.eq_false_iff.1 notAbove)

end Factors

/-! ## Runs that leave data -/

/-- Columns with one center and one factor are standardized alike. -/
theorem Standardizes.get?_eq
    [TableView τ T]
    {other : Engine}
    {otherParameter : Parameter F}
    {table otherTable : Dense T}
    {column : Nat}
    (standardizes : Standardizes engine input parameter table)
    (alsoStandardizes : Standardizes other input otherParameter otherTable)
    (centers : center T engine input parameter column =
      center T other input otherParameter column)
    (factors : scale parameter (variance T engine input parameter column) =
      scale otherParameter (variance T other input otherParameter column))
    (row : Nat) :
    table.get? row column = otherTable.get? row column := by
  by_cases inside : row < TableShape.rows input ∧ column < TableShape.cols input
  · obtain ⟨value, valueEq, cell⟩ := standardizes.cell row inside.1 column inside.2
    obtain ⟨same, sameEq, otherCell⟩ := alsoStandardizes.cell row inside.1 column inside.2
    cases valueEq.symm.trans sameEq
    rw [cell, otherCell, centers, factors]
  · rw [table.get?_eq_none, otherTable.get?_eq_none]
    · rwa [alsoStandardizes.rows_eq, alsoStandardizes.cols_eq]
    · rwa [standardizes.rows_eq, standardizes.cols_eq]

/-- A data place that was filled from columns that can be read holds the
standardized cells. -/
theorem Filled.standardizes
    [TableView τ T]
    [LawfulView τ T]
    (filled : Filled engine input parameter written)
    (readable : readFailure? T input = none) :
    ∃ table, written.get? .normalizedData = some table ∧
      Standardizes engine input parameter table := by
  obtain ⟨table, held, rowsEq, colsEq, cells⟩ := filled.data
  refine ⟨table, held, rowsEq, colsEq, ?_⟩
  intro row rowLt column columnLt
  have inside : (TableView.cell? input row column : Option T).isSome :=
    (LawfulView.isSome_cell?_iff input row column).2 ⟨rowLt, columnLt⟩
  obtain ⟨value, cellEq⟩ := Option.isSome_iff_exists.1 inside
  have read : (values T input column)[row]? = some value :=
    (getElem?_values readable columnLt row).trans cellEq
  have standardizedRow : (standardized T engine input parameter column)[row]? =
      some (standardizeValue (center T engine input parameter column)
        (scale parameter (variance T engine input parameter column)) value) := by
    unfold standardized
    rw [Array.getElem?_map, read]
    rfl
  refine ⟨value, cellEq, ?_⟩
  rw [cells]
  dsimp only
  rw [if_pos columnLt, standardizedRow]

private theorem readFailure?_of_runFailure?_eq_none
    (causeless : runFailure? memory engine input parameter output = none) :
    readFailure? T input = none := by
  have filling : fillFailure? T engine input parameter = none :=
    ((Option.orElse_eq_none _ _).1 causeless).2
  unfold fillFailure? at filling
  have policyAndRead := ((Option.orElse_eq_none _ _).1 filling).2
  exact ((Option.orElse_eq_none _ _).1 policyAndRead).2

/-- Without a cause of failure every place is filled. -/
theorem exists_filled
    (regular : Table.Regular T input)
    (causeless : runFailure? memory engine input parameter output = none) :
    ∃ written, compute memory engine input parameter output = (.ok (), written) ∧
      Filled engine input parameter written := by
  rcases run_settles memory engine parameter output regular with
    ⟨failure, cause, -⟩ | ⟨written, -, leaves, filled⟩
  · rw [causeless] at cause
    cases cause
  · exact ⟨written, compute_of_ok leaves, filled⟩

/-- **Without a cause of failure there is data**, and it is the standardized input. -/
theorem exists_standardizes
    [TableView τ T]
    [LawfulView τ T]
    (causeless : runFailure? memory engine input parameter output = none) :
    ∃ written table, compute memory engine input parameter output = (.ok (), written) ∧
      written.get? .normalizedData = some table ∧
      Standardizes engine input parameter table := by
  obtain ⟨written, succeeded, filled⟩ := exists_filled (LawfulView.regular input) causeless
  obtain ⟨table, held, standardizes⟩ :=
    filled.standardizes (readFailure?_of_runFailure?_eq_none causeless)
  exact ⟨written, table, succeeded, held, standardizes⟩

/-- A cause of failure is told, and no place is left filled. -/
theorem compute_of_runFailure?
    {failure : Error}
    (regular : Table.Regular T input)
    (cause : runFailure? memory engine input parameter output = some failure) :
    compute memory engine input parameter output = (.error failure, SlotMap.empty) := by
  have failed : (compute memory engine input parameter output).1 = .error failure := by
    rw [compute_fst_eq_settle memory engine parameter output regular, cause]
    rfl
  exact Prod.ext failed (compute_snd_of_error failed)

/-- An outcome that is not a failure had no cause of one. -/
theorem runFailure?_of_compute_eq_ok
    (regular : Table.Regular T input)
    (succeeded : compute memory engine input parameter output = (.ok (), written)) :
    runFailure? memory engine input parameter output = none := by
  have answer := compute_fst_eq_settle memory engine parameter output regular
  rw [succeeded] at answer
  exact (settle_eq_ok_iff.1 answer.symm).1

/-- Without a cause of failure the statistics are those of the columns. -/
theorem statistics_of_runFailure?_eq_none
    (causeless : runFailure? memory engine input parameter output = none) :
    Statistics.compute T engine input parameter =
      .ok (Reference.statistics T engine input parameter) := by
  obtain ⟨prepared, filling⟩ := (Option.orElse_eq_none _ _).1 causeless
  unfold preparationFailure? at prepared
  unfold fillFailure? at filling
  obtain ⟨nonempty, later⟩ := (Option.orElse_eq_none _ _).1 prepared
  have checked := ((Option.orElse_eq_none _ _).1 later).1
  have scanned := ((Option.orElse_eq_none _ _).1 filling).1
  rw [statistics_eq_settle, nonempty, checked, scanned]
  rfl

/-! ## Runs over columns that can be read -/

omit [Arithmetic F] [TableAccess τ T] in
/-- Nothing stands in the way of cells whose sums fit and whose places can be had. -/
theorem preparationFailure?_of_allocated
    (rowsSome : TableShape.rows input ≠ 0)
    (colsSome : TableShape.cols input ≠ 0)
    (fits : parameterFailure? parameter (TableShape.cols input) = none)
    (allocated :
      (output.allocate memory (TableShape.rows input) (TableShape.cols input) parameter).1 =
        .ok ()) :
    preparationFailure? memory input parameter output = none := by
  have nonempty : emptyFailure? input = none := if_neg (not_or.2 ⟨rowsSome, colsSome⟩)
  unfold preparationFailure?
  rw [nonempty, fits, allocated]
  rfl

/-- Over places that can be had, readable columns are refused for one without variance
or not at all. -/
theorem runFailure?_of_readable
    (prepared : preparationFailure? memory input parameter output = none)
    (readable : readFailure? T input = none) :
    runFailure? memory engine input parameter output =
      policyFailure? T engine input parameter := by
  unfold runFailure? fillFailure?
  rw [prepared, scanFailure?_of_readable readable, readable]
  cases policyFailure? T engine input parameter <;> rfl

/-- Where no column without variance would be refused, none is. -/
theorem policyFailure?_of_accepted
    (accepted : parameter.doScale = true → parameter.zeroVariance = .reject →
      ∀ column < TableShape.cols input,
        Arithmetic.lt 0 (variance T engine input parameter column) = true) :
    policyFailure? T engine input parameter = none := by
  unfold policyFailure? degenerate?
  by_cases refuses : parameter.doScale = true ∧ parameter.zeroVariance = .reject
  · have allAbove : (List.range (TableShape.cols input)).find?
        (fun column => !Arithmetic.lt 0 (variance T engine input parameter column)) = none := by
      apply List.find?_eq_none.2
      intro column member
      simp [accepted refuses.1 refuses.2 column (List.mem_range.1 member)]
    rw [if_pos refuses, allAbove]
    rfl
  · rw [if_neg refuses]

/-- The lowest column without variance is the one that is refused. -/
theorem policyFailure?_of_lowest
    {lowest : Nat}
    (scaled : parameter.doScale = true)
    (refused : parameter.zeroVariance = .reject)
    (lowestLt : lowest < TableShape.cols input)
    (none : Arithmetic.lt 0 (variance T engine input parameter lowest) = false)
    (before : ∀ column < lowest,
      Arithmetic.lt 0 (variance T engine input parameter column) = true) :
    policyFailure? T engine input parameter = some (.single (.degenerateColumn lowest)) := by
  have found : degenerate? T engine input parameter = some lowest := by
    unfold degenerate?
    refine List.find?_range_eq_some.2 ⟨?_, List.mem_range.2 lowestLt, ?_⟩
    · rw [none]
      rfl
    · intro column columnLt
      rw [before column columnLt]
      rfl
  unfold policyFailure?
  rw [if_pos ⟨scaled, refused⟩, found]
  rfl

end Standardize
