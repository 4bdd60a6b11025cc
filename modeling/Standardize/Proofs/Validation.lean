import Standardize.Proofs.Columnwise

/-!
Contract: the checks before anything is provided or computed.

Owns:
- the check of the given sums and of the shape, as the first failure there is,
  and the shape otherwise;
- the statistics of a table that need not have passed its checks.

Does not own: the failures.
-/

set_option autoImplicit false

namespace Standardize

open Reference

variable {F τ : Type} [TableShape τ]

private theorem checkLength_eq_settle (subject : Subject) (cols length : Nat) :
    Parameter.checkLength subject cols length =
      settle (lengthFailure? subject cols length) () := by
  unfold Parameter.checkLength lengthFailure?
  split <;> rfl

/-- Both vectors of sums are checked, and one error tells of both. -/
theorem check_eq_settle (parameter : Parameter F) (cols : Nat) :
    parameter.check cols = settle (parameterFailure? parameter cols) () := by
  unfold Parameter.check parameterFailure?
  cases parameter.method with
  | defaultDense => rfl
  | sumDense =>
      cases parameter.sums with
      | none => rfl
      | some given =>
          dsimp only
          rw [checkLength_eq_settle, checkLength_eq_settle]
          cases lengthFailure? .columnSums cols given.sums.size <;>
            cases lengthFailure? .columnSumsOfSquares cols given.sumsOfSquares.size <;> rfl

theorem validate_eq_settle (input : τ) (parameter : Parameter F) :
    Statistics.validate input parameter =
      settle (emptyFailure? input <|> parameterFailure? parameter (TableShape.cols input))
        (TableShape.rows input, TableShape.cols input) := by
  unfold Statistics.validate emptyFailure?
  dsimp only
  split
  · rfl
  · rw [check_eq_settle]
    cases parameterFailure? parameter (TableShape.cols input) <;> rfl

/-- The statistics of a table fail for the first cause there is, and are otherwise
those of its columns. -/
theorem statistics_eq_settle
    {T : Type}
    [Arithmetic F]
    [Element T F]
    [TableAccess τ T]
    (engine : Engine)
    (input : τ)
    (parameter : Parameter F) :
    Statistics.compute T engine input parameter =
      settle
        (emptyFailure? input <|>
          parameterFailure? parameter (TableShape.cols input) <|>
          scanFailure? T input parameter)
        (Reference.statistics T engine input parameter) := by
  unfold Statistics.compute
  rw [validate_eq_settle]
  cases emptyFailure? input with
  | some failure => rfl
  | none =>
      cases checked : parameterFailure? parameter (TableShape.cols input) with
      | some failure => rfl
      | none =>
          change Statistics.computeValidated T engine input parameter = _
          rw [computeValidated_eq_settle engine input checked]
          rfl

theorem parameterFailure?_of_scanned
    {parameter : Parameter F}
    (scanned : parameter.method = .defaultDense)
    (cols : Nat) :
    parameterFailure? parameter cols = none := by
  unfold parameterFailure?
  rw [scanned]

/-- Given sums with an entry for each column pass their check. -/
theorem parameterFailure?_of_sums
    {parameter : Parameter F}
    {given : ColumnSums F}
    {cols : Nat}
    (sums : parameter.sums = some given)
    (sumsFit : given.sums.size = cols)
    (squaresFit : given.sumsOfSquares.size = cols) :
    parameterFailure? parameter cols = none := by
  have first : lengthFailure? .columnSums cols given.sums.size = none := if_pos sumsFit
  have second : lengthFailure? .columnSumsOfSquares cols given.sumsOfSquares.size = none :=
    if_pos squaresFit
  unfold parameterFailure?
  cases parameter.method with
  | defaultDense => rfl
  | sumDense =>
      rw [sums]
      dsimp only
      rw [first, second]
      rfl

theorem scanFailure?_of_readable
    {T : Type}
    [TableAccess τ T]
    {input : τ}
    (readable : readFailure? T input = none)
    (parameter : Parameter F) :
    scanFailure? T input parameter = none := by
  unfold scanFailure?
  cases parameter.method with
  | defaultDense => exact readable
  | sumDense => rfl

/-- Cells that can be read, with sums that fit where they are given, have the
statistics of their columns. -/
theorem statistics_of_readable
    {T : Type}
    [Arithmetic F]
    [Element T F]
    [TableAccess τ T]
    (engine : Engine)
    {input : τ}
    {parameter : Parameter F}
    (rowsSome : TableShape.rows input ≠ 0)
    (colsSome : TableShape.cols input ≠ 0)
    (fits : parameterFailure? parameter (TableShape.cols input) = none)
    (readable : readFailure? T input = none) :
    Statistics.compute T engine input parameter =
      .ok (Reference.statistics T engine input parameter) := by
  have nonempty : emptyFailure? input = none := if_neg (not_or.2 ⟨rowsSome, colsSome⟩)
  rw [statistics_eq_settle, nonempty, fits, scanFailure?_of_readable readable]
  rfl

/-- The statistics of columns whose centers and variances are known. -/
theorem statistics_of_columns
    {T : Type}
    [Arithmetic F]
    [Element T F]
    [TableAccess τ T]
    (engine : Engine)
    {input : τ}
    {parameter : Parameter F}
    {means variances : Nat → F}
    (rowsSome : TableShape.rows input ≠ 0)
    (colsSome : TableShape.cols input ≠ 0)
    (fits : parameterFailure? parameter (TableShape.cols input) = none)
    (readable : readFailure? T input = none)
    (columns : ∀ column < TableShape.cols input,
      center T engine input parameter column = means column ∧
        variance T engine input parameter column = variances column) :
    Statistics.compute T engine input parameter =
      .ok {
        means := (Array.range (TableShape.cols input)).map means
        variances := (Array.range (TableShape.cols input)).map variances } := by
  rw [statistics_of_readable engine rowsSome colsSome fits readable]
  refine congrArg Except.ok ?_
  unfold Reference.statistics
  congr 1
  · exact Array.map_congr_left fun column member => (columns column (Array.mem_range.1 member)).1
  · exact Array.map_congr_left fun column member => (columns column (Array.mem_range.1 member)).2

end Standardize
