import Standardize.Compute
import Standardize.Proofs.Columnwise
import Standardize.Proofs.ColumnLoop
import Standardize.Proofs.Provision
import Standardize.Proofs.Table.View

/-!
Contract: what a standardization leaves in the places that were provided.

Owns:
- `Holds`, by which a place holds a table of a shape with given cells;
- numbers written into a table of one row;
- `Filled`, by which the data place holds the standardized columns and the
  places for statistics hold their numbers;
- the steps from the statistics on: they fail for the first cause there is, and
  otherwise leave every place filled.

Does not own: the checks and the allocation that come before.
-/

set_option autoImplicit false

namespace Standardize

open Reference

variable {T F τ : Type} [Element T F]

/-- A place holds a table of a shape with the given cells. -/
def Output.Holds
    (output : Output T)
    (slot : OutputSlot)
    (rows cols : Nat)
    (cell? : Nat → Nat → Option T) :
    Prop :=
  ∃ table, output.get? slot = some table ∧ table.rows = rows ∧ table.cols = cols ∧
    ∀ row column, table.get? row column = cell? row column

/-- The cells of a table of one row, narrowed from a number for each column. -/
def rowCell? (cols : Nat) (number : Nat → F) (row column : Nat) : Option T :=
  if row = 0 ∧ column < cols then some (Element.narrow (number column)) else none

/-! ## Rows -/

/-- Numbers written into a row from a column on reach one column each. -/
theorem fillRow_eq_ok
    (table : Dense T)
    (number : Nat → F)
    (column count : Nat)
    (oneRow : table.rows = 1)
    (inside : column + count ≤ table.cols) :
    ∃ next, Output.fillRow table column ((List.range' column count).map number) = .ok next ∧
      next.rows = 1 ∧ next.cols = table.cols ∧
      ∀ row other, next.get? row other =
        if column ≤ other ∧ other < column + count then
          rowCell? table.cols number row other
        else table.get? row other := by
  induction count generalizing table column with
  | zero => exact ⟨table, rfl, oneRow, rfl, fun row other => by rw [if_neg (by omega)]⟩
  | succ count inductionHypothesis =>
      obtain ⟨between, written, rowsEq, colsEq, cells⟩ :=
        table.writeColumn_of_fits #[Element.narrow (number column)]
          (show column < table.cols by omega) (by simp [oneRow])
      obtain ⟨next, rest, nextRows, nextCols, nextCells⟩ :=
        inductionHypothesis between (column + 1) (by omega) (by omega)
      refine ⟨next, ?_, nextRows, nextCols.trans colsEq, ?_⟩
      · rw [List.range'_succ, List.map_cons, Output.fillRow, written]
        exact rest
      · intro row other
        rw [nextCells, colsEq, cells]
        by_cases later : column + 1 ≤ other ∧ other < column + 1 + count
        · rw [if_pos later, if_pos (by omega)]
        · by_cases here : other = column
          · rw [if_neg later, if_pos here, if_pos (by omega), here, rowCell?]
            by_cases first : row = 0
            · simp [first, show column < table.cols by omega]
            · simp [first]
          · rw [if_neg later, if_neg here, if_neg (by omega)]

/-- Numbers written into a place that holds a row fill it, and a place that is
empty stays empty; no other place is touched. -/
theorem writeRow_eq_ok
    (output : Output T)
    {slot : OutputSlot}
    {cols : Nat}
    (number : Nat → F)
    (shape : ∀ table, output.get? slot = some table → table.rows = 1 ∧ table.cols = cols) :
    ∃ next, output.writeRow slot ((Array.range cols).map number) = .ok next ∧
      (∀ other, other ≠ slot → next.get? other = output.get? other) ∧
      (if (output.get? slot).isSome then next.Holds slot 1 cols (rowCell? cols number)
      else next.get? slot = none) := by
  unfold Output.writeRow
  cases held : output.get? slot with
  | none => exact ⟨output, rfl, fun _ _ => rfl, held⟩
  | some table =>
      obtain ⟨oneRow, rfl⟩ := shape table held
      obtain ⟨filled, written, rowsEq, colsEq, cells⟩ :=
        fillRow_eq_ok table number 0 table.cols oneRow (Nat.le_of_eq (Nat.zero_add _))
      dsimp only
      rw [Array.toList_map, Array.toList_range, List.range_eq_range', written]
      refine ⟨output.set slot filled, rfl,
        fun other differs => SlotMap.get?_put_of_ne _ differs.symm _, ?_⟩
      rw [Option.isSome_some, if_pos rfl]
      refine ⟨filled, SlotMap.get?_put_self _ _ _, rowsEq, colsEq, ?_⟩
      intro row other
      rw [cells]
      by_cases within : other < table.cols
      · rw [if_pos (by omega)]
      · rw [if_neg (by omega), table.get?_eq_none (by omega), rowCell?, if_neg (by omega)]

/-! ## The input -/

variable [Arithmetic F] [TableShape τ] [TableAccess τ T]

/-- The places after a standardization: the standardized columns of the input,
and the centers and variances where they are asked for. -/
structure Filled
    (engine : Engine)
    (input : τ)
    (parameter : Parameter F)
    (written : Output T) :
    Prop where
  data :
    written.Holds .normalizedData (TableShape.rows input) (TableShape.cols input)
      fun row column =>
        if column < TableShape.cols input then
          (standardized T engine input parameter column)[row]?
        else none
  means :
    if parameter.wants .mean then
      written.Holds .means 1 (TableShape.cols input)
        (rowCell? (TableShape.cols input) (center T engine input parameter))
    else written.get? .means = none
  variances :
    if parameter.wants .variance then
      written.Holds .variances 1 (TableShape.cols input)
        (rowCell? (TableShape.cols input) (variance T engine input parameter))
    else written.get? .variances = none

/-- Statistics are written into the places that are provided for them, and the
data stays as it is. -/
theorem writeStatistics_eq_ok
    {engine : Engine}
    {input : τ}
    {parameter : Parameter F}
    {output : Output T}
    (provided :
      Provided (places parameter (TableShape.rows input) (TableShape.cols input)) output)
    (data :
      output.Holds .normalizedData (TableShape.rows input) (TableShape.cols input)
        fun row column =>
          if column < TableShape.cols input then
            (standardized T engine input parameter column)[row]?
          else none) :
    ∃ written,
      output.writeStatistics (Reference.statistics T engine input parameter) = .ok written ∧
        Filled engine input parameter written := by
  obtain ⟨meansAsked, meansShape⟩ :=
    provided.statistic (show (.mean, .means) ∈ Output.statisticSlots by decide)
  obtain ⟨variancesAsked, variancesShape⟩ :=
    provided.statistic (show (.variance, .variances) ∈ Output.statisticSlots by decide)
  obtain ⟨between, meansWritten, meansOthers, meansHeld⟩ :=
    writeRow_eq_ok output (center T engine input parameter) meansShape
  have variancesBefore := meansOthers .variances (by decide)
  obtain ⟨written, variancesWritten, variancesOthers, variancesHeld⟩ :=
    writeRow_eq_ok between (variance T engine input parameter)
      (variancesBefore.symm ▸ variancesShape)
  refine ⟨written, ?_, ?_, ?_, ?_⟩
  · unfold Output.writeStatistics Reference.statistics
    rw [meansWritten]
    exact variancesWritten
  · unfold Output.Holds
    rw [variancesOthers .normalizedData (by decide), meansOthers .normalizedData (by decide)]
    exact data
  · unfold Output.Holds at meansHeld ⊢
    rw [variancesOthers .means (by decide), ← meansAsked]
    exact meansHeld
  · rw [← variancesAsked, ← variancesBefore]
    exact variancesHeld

/-! ## Data -/

/-- A column is standardized value by value, if it can be read. -/
theorem standardizeColumn_eq_settle
    (engine : Engine)
    (input : τ)
    (parameter : Parameter F)
    (column : Nat) :
    Normalize.standardizeColumn T engine.backend input column
        (center T engine input parameter column)
        (scale parameter (variance T engine input parameter column)) =
      settle (failure? (TableAccess.readColumn input column : Except Error (Array T)))
        (standardized T engine input parameter column) := by
  unfold Normalize.standardizeColumn standardized values
  simp only [Backend.standardize_eq_map]
  cases (TableAccess.readColumn input column : Except Error (Array T)) <;> rfl

section Dense

variable
  {engine : Engine}
  {input : τ}
  {parameter : Parameter F}
  {out : Dense T}

/-- Standardizing into a table of the same shape writes the standardized columns
in order, up to the first that cannot be read. -/
theorem normalizeInto_reference
    (rowsFit : out.rows = TableShape.rows input)
    (colsFit : out.cols = TableShape.cols input) :
    normalizeInto T engine input (Reference.statistics T engine input parameter)
        (scales T engine input parameter) out =
      Normalize.writeAll out
        ((List.range (TableShape.cols input)).map fun column =>
          (column, settle
            (failure? (TableAccess.readColumn input column : Except Error (Array T)))
            (standardized T engine input parameter column))) := by
  simp only [← standardizeColumn_eq_settle]
  exact normalizeInto_eq_writeAll engine (center T engine input parameter)
    (fun column => scale parameter (variance T engine input parameter column))
    rfl rfl rowsFit colsFit

private theorem size_standardized
    (regular : Table.Regular T input)
    {column : Nat}
    (columnLt : column < TableShape.cols input)
    (readable :
      failure? (TableAccess.readColumn input column : Except Error (Array T)) = none) :
    (standardized T engine input parameter column).size = TableShape.rows input := by
  obtain ⟨read, readEq⟩ := exists_of_failure?_eq_none readable
  rw [← regular column columnLt read readEq]
  simp [standardized, values_of_readColumn readEq]

/-- The answer is the failure of the lowest column that cannot be read. -/
theorem normalizeInto_fst
    (regular : Table.Regular T input)
    (rowsFit : out.rows = TableShape.rows input)
    (colsFit : out.cols = TableShape.cols input) :
    (normalizeInto T engine input (Reference.statistics T engine input parameter)
        (scales T engine input parameter) out).1 =
      settle (readFailure? T input) () := by
  rw [normalizeInto_reference rowsFit colsFit, Normalize.writeAll_dense_fst]
  · simp only [failure?_settle]
    rfl
  · intro column member
    rw [colsFit]
    exact List.mem_range.1 member
  · intro column member result answered
    obtain ⟨readable, rfl⟩ := settle_eq_ok_iff.1 answered
    rw [rowsFit]
    exact size_standardized regular (List.mem_range.1 member) readable

variable (engine parameter) in
/-- Where every column can be read, the table is left with the standardized
columns. -/
theorem normalizeInto_eq_ok
    (regular : Table.Regular T input)
    (readable : readFailure? T input = none)
    (rowsFit : out.rows = TableShape.rows input)
    (colsFit : out.cols = TableShape.cols input) :
    ∃ next,
      normalizeInto T engine input (Reference.statistics T engine input parameter)
          (scales T engine input parameter) out = (.ok (), next) ∧
        next.rows = out.rows ∧ next.cols = out.cols ∧
        ∀ row column, next.get? row column =
          if column < TableShape.cols input then
            (standardized T engine input parameter column)[row]?
          else none := by
  have reads : ∀ column ∈ List.range (TableShape.cols input),
      failure? (TableAccess.readColumn input column : Except Error (Array T)) = none :=
    List.findSome?_eq_none_iff.1 readable
  rw [normalizeInto_reference rowsFit colsFit]
  obtain ⟨next, written, nextRows, nextCols, cells⟩ :=
    Normalize.writeAll_dense_ok
      (fun column => settle
        (failure? (TableAccess.readColumn input column : Except Error (Array T)))
        (standardized T engine input parameter column))
      (standardized T engine input parameter) (List.range (TableShape.cols input)) out
      (fun column member => by rw [reads column member]; rfl)
      (fun column member => by rw [colsFit]; exact List.mem_range.1 member)
      (fun column member => by
        rw [rowsFit]
        exact size_standardized regular (List.mem_range.1 member) (reads column member))
  refine ⟨next, written, nextRows, nextCols, fun row column => ?_⟩
  rw [cells]
  by_cases within : column < TableShape.cols input
  · rw [if_pos (List.mem_range.2 within), if_pos within]
  · rw [if_neg fun member => within (List.mem_range.1 member), if_neg within,
      out.get?_eq_none fun inside => within (colsFit ▸ inside.2)]

end Dense

/-! ## All steps over provided places -/

section Provided

variable
  {engine : Engine}
  {input : τ}
  {parameter : Parameter F}
  {output : Output T}

/-- **Filling fails for the first cause there is**, and otherwise leaves every
place filled. -/
theorem fill_settles
    (engine : Engine)
    (regular : Table.Regular T input)
    (checked : parameterFailure? parameter (TableShape.cols input) = none)
    (provided :
      Provided (places parameter (TableShape.rows input) (TableShape.cols input)) output) :
    (∃ failure, fillFailure? T engine input parameter = some failure ∧
        fill engine input parameter output = .error failure) ∨
      ∃ written, fillFailure? T engine input parameter = none ∧
        fill engine input parameter output = .ok written ∧
        Filled engine input parameter written := by
  obtain ⟨table, held, rowsEq, colsEq⟩ := provided.normalizedData
  have answer : (normalizeInto T engine input (Reference.statistics T engine input parameter)
      (scales T engine input parameter) table).1 = settle (readFailure? T input) () :=
    normalizeInto_fst regular rowsEq colsEq
  unfold fill fillFailure?
  rw [computeValidated_eq_settle engine input checked]
  cases scanFailure? T input parameter with
  | some failure => exact .inl ⟨failure, rfl, rfl⟩
  | none =>
      dsimp only [settle_none]
      rw [inverseScales_eq_settle]
      cases policyFailure? T engine input parameter with
      | some failure => exact .inl ⟨failure, rfl, rfl⟩
      | none =>
          dsimp only [settle_none]
          rw [held]
          dsimp only
          cases unread : readFailure? T input with
          | some failure =>
              rw [unread] at answer
              refine .inl ⟨failure, rfl, ?_⟩
              generalize normalizeInto T engine input
                (Reference.statistics T engine input parameter)
                (scales T engine input parameter) table = outcome at answer ⊢
              obtain ⟨first, next⟩ := outcome
              cases show first = .error failure from answer
              rfl
          | none =>
              obtain ⟨next, normalized, nextRows, nextCols, cells⟩ :=
                normalizeInto_eq_ok engine parameter regular unread rowsEq colsEq
              rw [normalized]
              obtain ⟨written, writes, filled⟩ := writeStatistics_eq_ok
                (provided.setData (nextRows.trans rowsEq) (nextCols.trans colsEq))
                ⟨next, SlotMap.get?_put_self _ _ _, nextRows.trans rowsEq,
                  nextCols.trans colsEq, cells⟩
              exact .inr ⟨written, rfl, writes, filled⟩

end Provided

end Standardize
