import Mathlib.Data.List.FinRange
import Standardize.Proofs.Reference

/-!
Contract: statistics and scales are found column by column.

Owns:
- the scan of the data, which is the moments of every column or the failure of
  the lowest that cannot be read, whichever way the work is shared;
- the statistics of given sums;
- the scales, or the lowest column that the policy refuses.

Does not own: what a reduction computes.
-/

set_option autoImplicit false

namespace Standardize

open Reference

variable {T F τ : Type} [Arithmetic F] [Element T F] [TableShape τ] [TableAccess τ T]

private theorem map_finRange_val {β : Type} (count : Nat) (work : Nat → β) :
    ((List.finRange count).map fun place => work place.val) = (List.range count).map work := by
  rw [← List.map_coe_finRange_eq_range, List.map_map]
  rfl

private theorem toArray_map_range {β : Type} (count : Nat) (work : Nat → β) :
    ((List.range count).map work).toArray = (Array.range count).map work := by
  rw [← List.map_toArray, List.toArray_range]

theorem getElem?_map_range_eq_some_iff
    {β : Type}
    {count place : Nat}
    {work : Nat → β}
    {result : β} :
    ((Array.range count).map work)[place]? = some result ↔
      place < count ∧ work place = result := by
  rw [Array.getElem?_map, Array.getElem?_range]
  split <;> simp_all

/-! ## Moments of one column -/

theorem values_of_readColumn
    {input : τ}
    {column : Nat}
    {read : Array T}
    (answered : TableAccess.readColumn input column = .ok read) :
    values T input column = read := by
  unfold values
  rw [answered]

private theorem columnMoments_eq_settle
    (backend : Backend)
    (input : τ)
    (length column : Nat) :
    Statistics.columnMoments T backend input length column =
      settle (failure? (TableAccess.readColumn input column : Except Error (Array T)))
        (Moments.ofColumn backend (values T input column) length) := by
  unfold Statistics.columnMoments values
  cases (TableAccess.readColumn input column : Except Error (Array T)) <;> rfl

/-- A column whose blocks are shared has the moments of its blocks, if it can be
read. -/
private theorem blockwiseMoments_eq_columnMoments
    (engine : Engine)
    (input : τ)
    (length column : Nat) :
    Statistics.blockwiseMoments T engine input length column =
      Statistics.columnMoments T engine.backend input length column :=
  rfl

/-! ## Statistics -/

private theorem collect_columnMoments (backend : Backend) (input : τ) (length cols : Nat) :
    Engine.collect
        ((List.range cols).map (Statistics.columnMoments T backend input length)) =
      settle
        ((List.range cols).findSome? fun column =>
          failure? (TableAccess.readColumn input column : Except Error (Array T)))
        ((List.range cols).map fun column =>
          Moments.ofColumn backend (values T input column) length) := by
  simp only [funext (columnMoments_eq_settle (T := T) backend input length)]
  rw [collect_map fun column => Moments.ofColumn backend (values T input column) length]
  · simp only [failure?_settle]
  · intro column _ result answered
    exact (settle_eq_ok_iff.1 answered).2.symm

/-- **The scan is columnwise.** Sharing the columns and sharing the blocks of
each column differ only in the block length. -/
theorem scan_eq_settle (engine : Engine) (input : τ) :
    Statistics.scan T engine input =
      settle (readFailure? T input)
        (Statistics.ofMoments
          ((List.range (TableShape.cols input)).map (moments T engine input))) := by
  unfold Statistics.scan readFailure? moments blockLength
  dsimp only
  by_cases wide : engine.threads ≤ TableShape.cols input
  · simp only [if_pos wide]
    unfold Engine.batch
    rw [map_finRange_val, collect_columnMoments]
    cases (List.range (TableShape.cols input)).findSome? _ <;> rfl
  · simp only [if_neg wide]
    rw [momentsFrom_eq_collect, ← List.range_eq_range']
    simp only [funext (blockwiseMoments_eq_columnMoments (T := T) engine input _)]
    rw [collect_columnMoments]
    cases (List.range (TableShape.cols input)).findSome? _ <;> rfl

omit [Arithmetic F] in
private theorem exists_sums_of_check
    {parameter : Parameter F}
    {cols : Nat}
    (method : parameter.method = .sumDense)
    (checked : parameterFailure? parameter cols = none) :
    ∃ given, parameter.sums = some given ∧ given.sums.size = cols ∧
      given.sumsOfSquares.size = cols := by
  unfold parameterFailure? lengthFailure? at checked
  rw [method] at checked
  cases sums : parameter.sums with
  | none => simp [sums] at checked
  | some given =>
      refine ⟨given, rfl, ?_⟩
      by_cases first : given.sums.size = cols <;>
        by_cases second : given.sumsOfSquares.size = cols <;>
          simp_all

/-- The statistics of given sums are taken entry by entry. -/
theorem ofSums_eq_ok
    {parameter : Parameter F}
    {given : ColumnSums F}
    {rows cols : Nat}
    (sums : parameter.sums = some given)
    (sumsFit : given.sums.size = cols)
    (squaresFit : given.sumsOfSquares.size = cols) :
    Statistics.ofSums parameter rows =
      .ok ⟨(Array.range cols).map fun column => (summed parameter rows column).1,
        (Array.range cols).map fun column => (summed parameter rows column).2⟩ := by
  have entries :
      ((given.sums.toList.zip given.sumsOfSquares.toList).map fun pair =>
        Statistics.ofSum (Arithmetic.ofCount rows) pair.1 pair.2) =
      (List.range cols).map (summed parameter rows) := by
    apply List.ext_getElem
    · simp [sumsFit, squaresFit]
    · intro column inside _
      have columnLt : column < cols := by simpa [sumsFit, squaresFit] using inside
      simp [summed, sums, sumsFit, squaresFit, columnLt]
  unfold Statistics.ofSums
  rw [sums]
  dsimp only
  rw [entries, List.map_map, List.map_map, toArray_map_range, toArray_map_range]
  rfl

/-- **Statistics are columnwise**, for both methods. -/
theorem computeValidated_eq_settle
    (engine : Engine)
    (input : τ)
    {parameter : Parameter F}
    (checked : parameterFailure? parameter (TableShape.cols input) = none) :
    Statistics.computeValidated T engine input parameter =
      settle (scanFailure? T input parameter) (Reference.statistics T engine input parameter) := by
  unfold Statistics.computeValidated scanFailure? Reference.statistics
  cases method : parameter.method with
  | defaultDense =>
      dsimp only
      rw [scan_eq_settle]
      unfold Statistics.ofMoments center variance
      rw [method, List.map_map, List.map_map, toArray_map_range, toArray_map_range]
      rfl
  | sumDense =>
      dsimp only
      obtain ⟨given, sums, sumsFit, squaresFit⟩ := exists_sums_of_check method checked
      rw [ofSums_eq_ok sums sumsFit squaresFit]
      unfold center variance
      rw [method]
      rfl

/-! ## Scales -/

private theorem inverseScale_eq_settle
    {parameter : Parameter F}
    (scaled : parameter.doScale = true)
    (column : Nat)
    (variance : F) :
    inverseScale parameter.zeroVariance column variance =
      settle
        (if parameter.zeroVariance = .reject ∧ Arithmetic.lt 0 variance = false then
          some (.single (.degenerateColumn column))
        else none)
        (scale parameter variance) := by
  unfold inverseScale scale
  cases Arithmetic.lt 0 variance <;> cases parameter.zeroVariance <;> simp [scaled, Fault.raise]

/-- Looking for the first failure is looking for the first place that fails. -/
private theorem findSome?_ite
    {α ε : Type}
    (fails : α → Bool)
    (failure : α → ε)
    (places : List α) :
    (places.findSome? fun place => if fails place then some (failure place) else none) =
      (places.find? fails).map failure := by
  rw [List.find?_eq_findSome?_guard, List.map_findSome?]
  congr 1
  funext place
  cases fired : fails place <;> simp [Option.guard, fired]

private theorem zipIdx_map_range {β : Type} (count : Nat) (entry : Nat → β) :
    ((List.range count).map entry).zipIdx =
      (List.range count).map fun number => (entry number, number) := by
  apply List.ext_getElem
  · simp
  · intro number inside _
    simp

/-- The scales of columns of given variances, or the refusal of the first whose
variance is not above zero. -/
theorem inverseScalesFrom_eq_settle
    {parameter : Parameter F}
    (scaled : parameter.doScale = true)
    (variances : List F) :
    inverseScalesFrom parameter.zeroVariance 0 variances =
      settle
        (if parameter.zeroVariance = .reject then
          (variances.zipIdx.find? fun (variance, _) => !Arithmetic.lt 0 variance).map
            fun (_, column) => .single (.degenerateColumn column)
        else none)
        (variances.zipIdx.map fun (variance, _) => scale parameter variance) := by
  rw [inverseScalesFrom_eq_collect]
  have answers (column : Nat) (variance : F) := inverseScale_eq_settle scaled column variance
  rw [collect_map fun (variance, _) => scale parameter variance]
  · congr 1
    simp only [answers, failure?_settle]
    cases policy : parameter.zeroVariance with
    | emitZero => simp
    | reject =>
        rw [if_pos rfl, ← findSome?_ite]
        congr 1
        funext ⟨variance, column⟩
        cases Arithmetic.lt 0 variance <;> rfl
  · intro ⟨variance, column⟩ _ result answered
    exact (settle_eq_ok_iff.1 ((answers column variance).symm.trans answered)).2.symm

private theorem inverseScalesFrom_range
    {parameter : Parameter F}
    (scaled : parameter.doScale = true)
    (variance : Nat → F)
    (cols : Nat) :
    inverseScalesFrom parameter.zeroVariance 0 ((List.range cols).map variance) =
      settle
        (if parameter.zeroVariance = .reject then
          ((List.range cols).find? fun column => !Arithmetic.lt 0 (variance column)).map
            fun column => .single (.degenerateColumn column)
        else none)
        ((List.range cols).map fun column => scale parameter (variance column)) := by
  rw [inverseScalesFrom_eq_settle scaled, zipIdx_map_range, List.find?_map, Option.map_map,
    List.map_map]
  rfl

/-- **Scales are columnwise**, whether or not scaling is asked for. -/
theorem inverseScales_eq_settle (engine : Engine) (input : τ) (parameter : Parameter F) :
    inverseScales (Reference.statistics T engine input parameter) parameter =
      settle (policyFailure? T engine input parameter) (scales T engine input parameter) := by
  unfold inverseScales policyFailure? scales Reference.statistics degenerate?
  by_cases scaled : parameter.doScale = true
  · simp only [Array.toList_map, Array.toList_range,
      inverseScalesFrom_range scaled, scaled, true_and]
    by_cases reject : parameter.zeroVariance = .reject
    · simp only [if_pos reject, ← toArray_map_range]
      cases (List.range (TableShape.cols input)).find? _ <;> rfl
    · simp only [if_neg reject, ← toArray_map_range]
      rfl
  · rw [if_neg scaled, if_neg (fun both => scaled both.1)]
    unfold scale Statistics.cols
    simp only [if_neg scaled, Array.size_map, Array.size_range, settle_none]
    rw [Array.map_const', Array.size_range]

end Standardize
