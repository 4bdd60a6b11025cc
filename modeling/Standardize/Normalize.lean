import Standardize.Statistics

/-!
Contract: writing `(x - mean) / sqrt variance` column by column.

Owns:
- the factor that each column is scaled by, and the policy for columns without
  variance;
- the columns of a table standardized into the columns of another, in groups
  as wide as the engine has threads: a group is read before any of it is
  written, and the first failure in column order ends the run.

Does not own: the statistics, nor the tables.
-/

set_option autoImplicit false

namespace Standardize

variable {T F τ ω : Type} [Arithmetic F]

/-! ## Scales -/

/-- The factor for a column of some variance; a variance that is not above
zero, or not a number, is left to the policy. -/
def inverseScale (policy : ZeroVariance) (column : Nat) (variance : F) : Except Error F :=
  if Arithmetic.lt 0 variance then .ok (1 / Arithmetic.sqrt variance)
  else
    match policy with
    | .emitZero => .ok 0
    | .reject => (Fault.degenerateColumn column).raise

/-- The factors for columns numbered from `column` on. -/
def inverseScalesFrom
    (policy : ZeroVariance)
    (column : Nat) :
    List F → Except Error (List F)
  | [] => .ok []
  | variance :: rest =>
      match inverseScale policy column variance with
      | .error error => .error error
      | .ok scale =>
          match inverseScalesFrom policy (column + 1) rest with
          | .ok scales => .ok (scale :: scales)
          | .error error => .error error

/-- The factor for each column; one where no scaling is asked for. -/
def inverseScales
    (statistics : Statistics F)
    (parameter : Parameter F) :
    Except Error (Array F) :=
  if parameter.doScale then
    match inverseScalesFrom parameter.zeroVariance 0 statistics.variances.toList with
    | .ok scales => .ok scales.toArray
    | .error error => .error error
  else .ok (Array.replicate statistics.cols 1)

/-! ## Columns -/

namespace Normalize

variable [Element T F] [TableShape τ] [TableAccess τ T] [TableShape ω] [TableAccess ω T]

/-- A column as it was read, standardized. -/
def standardizeColumn
    (T : Type)
    [Element T F]
    [TableAccess τ T]
    (backend : Backend)
    (input : τ)
    (column : Nat)
    (mean scale : F) :
    Except Error (Array T) :=
  match (TableAccess.readColumn input column : Except Error (Array T)) with
  | .ok values => .ok (backend.standardize values mean scale)
  | .error error => .error error

/-- Write columns in order, up to the first that could not be had or cannot be
written. -/
def writeAll (out : ω) : List (Nat × Except Error (Array T)) → Except Error Unit × ω
  | [] => (.ok (), out)
  | (_, .error error) :: _ => (.error error, out)
  | (column, .ok values) :: rest =>
      match TableAccess.writeColumn out column values with
      | (.ok _, next) => writeAll next rest
      | (.error error, next) => (.error error, next)

/-- Make and write the columns of one group after the other. -/
def writeGroups
    {cols : Nat}
    (engine : Engine)
    (make : Fin cols → Except Error (Array T))
    (out : ω) :
    List (Array (Fin cols)) → Except Error Unit × ω
  | [] => (.ok (), out)
  | group :: rest =>
      let made := engine.batch group.size fun place => (group[place].val, make group[place])
      match writeAll out made with
      | (.ok _, next) => writeGroups engine make next rest
      | (.error error, next) => (.error error, next)

end Normalize

/-- Lengths and shapes fit together. -/
def checkFit (subject : Subject) (expected actual : Nat) : Except Error Unit :=
  if actual = expected then .ok ()
  else (Fault.dimensionMismatch subject expected actual).raise

theorem eq_of_checkFit
    {subject : Subject}
    {expected actual : Nat}
    (checked : checkFit subject expected actual = .ok ()) :
    actual = expected := by
  unfold checkFit at checked
  split at checked
  · assumption
  · cases checked

open Normalize in
/-- Standardize every column of a table into the column of the same number of
another. Nothing is written unless all lengths and shapes fit. -/
def normalizeInto
    (T : Type)
    [Element T F]
    [TableShape τ]
    [TableAccess τ T]
    [TableShape ω]
    [TableAccess ω T]
    (engine : Engine)
    (input : τ)
    (statistics : Statistics F)
    (scales : Array F)
    (out : ω) :
    Except Error Unit × ω :=
  let rows := TableShape.rows input
  let cols := TableShape.cols input
  match meansFit : checkFit .columnStatistics cols statistics.cols with
  | .error error => (.error error, out)
  | .ok _ =>
  match scalesFit : checkFit .columnScales cols scales.size with
  | .error error => (.error error, out)
  | .ok _ =>
  match checkFit .outputRows rows (TableShape.rows out) with
  | .error error => (.error error, out)
  | .ok _ =>
  match checkFit .outputColumns cols (TableShape.cols out) with
  | .error error => (.error error, out)
  | .ok _ =>
      let make (column : Fin cols) : Except Error (Array T) :=
        have inMeans : column < statistics.means.size := by
          rw [show statistics.means.size = cols from eq_of_checkFit meansFit]
          exact column.isLt
        have inScales : column < scales.size := by
          rw [eq_of_checkFit scalesFit]
          exact column.isLt
        standardizeColumn T engine.backend input column
          statistics.means[column] scales[column]
      writeGroups engine make out (chunks engine.threads (Array.finRange cols))

end Standardize
