import Mathlib.Data.List.FinRange
import Standardize.Normalize
import Standardize.Proofs.FirstFailure
import Standardize.Proofs.Partition
import Standardize.Proofs.Store
import Standardize.Proofs.Table.Cells

/-!
Contract: the columns of a table are standardized as if one by one.

Owns:
- groups of columns, made before any of them is written, written as one list
  of columns;
- the standardization of a table as the loop over its columns;
- what that loop leaves in a dense table.

Does not own: the centers and scales.
-/

set_option autoImplicit false

namespace Standardize

variable {T F τ ω : Type} [Arithmetic F]

namespace Normalize

variable [TableShape ω] [TableAccess ω T]

/-! ## Groups -/

/-- Writing stops inside the first part, or goes on with the second. -/
private theorem writeAll_append
    (out : ω)
    (first second : List (Nat × Except Error (Array T))) :
    writeAll out (first ++ second) =
      match writeAll out first with
      | (.ok _, next) => writeAll next second
      | (.error error, next) => (.error error, next) := by
  induction first generalizing out with
  | nil => rfl
  | cons head rest inductionHypothesis =>
      obtain ⟨column, made⟩ := head
      cases made with
      | error failure => rfl
      | ok values =>
          rw [List.cons_append, writeAll, writeAll]
          rcases TableAccess.writeColumn out column values with ⟨answer, next⟩
          cases answer with
          | error failure => rfl
          | ok _ => exact inductionHypothesis next

omit [TableShape ω] [TableAccess ω T] in
private theorem batch_group
    {β : Type}
    (engine : Engine)
    (group : Array ω)
    (work : ω → β) :
    (engine.batch group.size fun place => work (getElem group place place.isLt)) =
      group.toList.map work := by
  unfold Engine.batch
  apply List.ext_getElem
  · simp
  · intro place _ _
    simp

/-- **Groups do not show.** Columns made and written group by group are written
as one list of columns. -/
theorem writeGroups_eq_writeAll
    {cols : Nat}
    (engine : Engine)
    (make : Fin cols → Except Error (Array T))
    (out : ω)
    (groups : List (Array (Fin cols))) :
    writeGroups engine make out groups =
      writeAll out
        ((groups.map Array.toList).flatten.map fun column => (column.val, make column)) := by
  induction groups generalizing out with
  | nil => rfl
  | cons group rest inductionHypothesis =>
      rw [List.map_cons, List.flatten_cons, List.map_append, writeAll_append, writeGroups,
        batch_group engine group fun column => (column.val, make column)]
      generalize writeAll out (group.toList.map fun column => (column.val, make column)) = first
      obtain ⟨answer, next⟩ := first
      cases answer with
      | error failure => rfl
      | ok _ => exact inductionHypothesis next

/-- A group for each thread, the last one shorter, covers the columns in order. -/
theorem writeGroups_chunks
    {cols : Nat}
    (engine : Engine)
    (make : Fin cols → Except Error (Array T))
    (out : ω) :
    writeGroups engine make out (chunks engine.threads (Array.finRange cols)) =
      writeAll out ((List.finRange cols).map fun column => (column.val, make column)) := by
  rw [writeGroups_eq_writeAll, flatten_chunks, Array.finRange, Array.toList_ofFn]
  rfl

/-! ## Dense tables -/

section Dense

variable (answer : Nat → Except Error (Array T))

/-- Columns that can be had and fit are all written: they hold their values, and
every other column is as it was. -/
theorem writeAll_dense_ok
    (values : Nat → Array T)
    (columns : List Nat)
    (out : Dense T)
    (made : ∀ column ∈ columns, answer column = .ok (values column))
    (inside : ∀ column ∈ columns, column < out.cols)
    (fits : ∀ column ∈ columns, (values column).size = out.rows) :
    ∃ next, writeAll out (columns.map fun column => (column, answer column)) = (.ok (), next) ∧
      next.rows = out.rows ∧ next.cols = out.cols ∧
      ∀ row other, next.get? row other =
        if other ∈ columns then (values other)[row]? else out.get? row other := by
  induction columns generalizing out with
  | nil => exact ⟨out, rfl, rfl, rfl, fun row other => by simp⟩
  | cons column rest inductionHypothesis =>
      obtain ⟨between, written, rowsEq, colsEq, cells⟩ :=
        out.writeColumn_of_fits (values column) (inside column List.mem_cons_self)
          (fits column List.mem_cons_self)
      obtain ⟨next, restWritten, nextRows, nextCols, nextCells⟩ :=
        inductionHypothesis between
          (fun other member => made other (List.mem_cons_of_mem _ member))
          (fun other member => by
            rw [colsEq]; exact inside other (List.mem_cons_of_mem _ member))
          (fun other member => by
            rw [rowsEq]; exact fits other (List.mem_cons_of_mem _ member))
      refine ⟨next, ?_, nextRows.trans rowsEq, nextCols.trans colsEq, ?_⟩
      · rw [List.map_cons, made column List.mem_cons_self, writeAll]
        have writes : TableAccess.writeColumn out column (values column) = (.ok (), between) :=
          written
        rw [writes]
        exact restWritten
      · intro row other
        rw [nextCells, cells]
        by_cases later : other ∈ rest
        · rw [if_pos later, if_pos (List.mem_cons_of_mem _ later)]
        · by_cases here : other = column
          · rw [if_neg later, if_pos here, if_pos (here ▸ List.mem_cons_self), here]
          · rw [if_neg later, if_neg here,
              if_neg fun member => (List.mem_cons.1 member).elim here later]

/-- The answer of a run of writes that all fit is the first column that could
not be had. -/
theorem writeAll_dense_fst
    (columns : List Nat)
    (out : Dense T)
    (inside : ∀ column ∈ columns, column < out.cols)
    (fits : ∀ column ∈ columns, ∀ result, answer column = .ok result → result.size = out.rows) :
    (writeAll out (columns.map fun column => (column, answer column))).1 =
      settle (columns.findSome? fun column => failure? (answer column)) () := by
  induction columns generalizing out with
  | nil => rfl
  | cons column rest inductionHypothesis =>
      rw [List.map_cons, List.findSome?_cons]
      cases answered : answer column with
      | error failure => rfl
      | ok result =>
          obtain ⟨between, written, rowsEq, colsEq, _⟩ :=
            out.writeColumn_of_fits result (inside column List.mem_cons_self)
              (fits column List.mem_cons_self result answered)
          rw [writeAll]
          have writes : TableAccess.writeColumn out column result = (.ok (), between) := written
          rw [writes]
          exact inductionHypothesis between
            (fun other member => by
              rw [colsEq]; exact inside other (List.mem_cons_of_mem _ member))
            (fun other member => by
              rw [rowsEq]; exact fits other (List.mem_cons_of_mem _ member))

end Dense

end Normalize

/-! ## Whole tables -/

section Table

variable [Element T F] [TableShape τ] [TableAccess τ T] [TableShape ω] [TableAccess ω T]

private theorem checkFit_of_eq
    {subject : Subject}
    {expected actual : Nat}
    (fits : actual = expected) :
    checkFit subject expected actual = .ok () := by
  unfold checkFit
  rw [if_pos fits]

open Normalize in
/-- **One column after the other.** Where lengths and shapes fit, standardizing a
table is reading, standardizing and writing each column in turn, up to the first
that fails. -/
theorem normalizeInto_eq_writeAll
    (engine : Engine)
    {input : τ}
    {statistics : Statistics F}
    {scales : Array F}
    {out : ω}
    (center scale : Nat → F)
    (means : statistics.means = (Array.range (TableShape.cols input)).map center)
    (factors : scales = (Array.range (TableShape.cols input)).map scale)
    (rowsFit : TableShape.rows out = TableShape.rows input)
    (colsFit : TableShape.cols out = TableShape.cols input) :
    normalizeInto T engine input statistics scales out =
      writeAll out
        ((List.range (TableShape.cols input)).map fun column =>
          (column, standardizeColumn T engine.backend input column (center column)
            (scale column))) := by
  have meansFit : statistics.cols = TableShape.cols input := by simp [Statistics.cols, means]
  have scalesFit : scales.size = TableShape.cols input := by simp [factors]
  unfold normalizeInto
  dsimp only
  split
  · rename_i failure refused
    rw [checkFit_of_eq meansFit] at refused
    cases refused
  split
  · rename_i failure refused
    rw [checkFit_of_eq scalesFit] at refused
    cases refused
  rw [checkFit_of_eq rowsFit, checkFit_of_eq colsFit]
  dsimp only
  rw [writeGroups_chunks, ← List.map_coe_finRange_eq_range, List.map_map]
  congr 2
  funext column
  simp [means, factors]

end Table

end Standardize
