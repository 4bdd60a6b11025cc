import Standardize.Engine
import Standardize.Moments
import Standardize.Parameter
import Standardize.Table.Interface

/-!
Contract: the mean and the variance of every column of a table.

Owns:
- `Statistics`, means and variances by column, and the columns that count as
  having no variance;
- the checks that come before any statistics;
- the scan of the data, whole columns at a time when there are enough of them
  for the engine's threads, and otherwise one column after the other in blocks
  of rows;
- the statistics that given sums stand for, with an allowance for what
  rounding did to them.

Does not own: moments of a block.
-/

set_option autoImplicit false

namespace Standardize

/-- The mean and the population variance of each column. -/
structure Statistics (F : Type) where
  means : Array F
  variances : Array F
deriving DecidableEq, Repr

namespace Statistics

variable {T F τ : Type} [Arithmetic F]

def cols (statistics : Statistics F) : Nat :=
  statistics.means.size

/-- The columns whose variance is not above zero, in order; a variance that is
not a number is not among them. -/
def degenerateColumns (statistics : Statistics F) : List Nat :=
  (statistics.variances.toList.zipIdx.filter fun (variance, _) =>
    Arithmetic.le variance 0).map Prod.snd

def ofMoments (moments : List (Moments F)) : Statistics F where
  means := (moments.map Moments.center).toArray
  variances := (moments.map Moments.variance).toArray

/-! ## From given sums -/

/-- What rounding may have done to a mean of `n` squares, relative to it. -/
def roundingAllowance (n : F) : F :=
  Arithmetic.ofCount 8 * Arithmetic.sqrt n * Arithmetic.epsilon

/-- Mean and variance of `n` values from their sum and the sum of their
squares. A variance within the allowance is zero. -/
def ofSum (n sum sumOfSquares : F) : F × F :=
  let mean := sum / n
  let secondMoment := sumOfSquares / n
  let variance := secondMoment - mean * mean
  if Arithmetic.le variance (roundingAllowance n * Arithmetic.abs secondMoment) then (mean, 0)
  else (mean, variance)

/-- The statistics of a table of so many rows from given sums. -/
def ofSums (parameter : Parameter F) (rows : Nat) : Except Error (Statistics F) :=
  match parameter.sums with
  | none => (Fault.parameterUnset .columnSums).raise
  | some given =>
      let pairs :=
        (given.sums.toList.zip given.sumsOfSquares.toList).map fun (sum, sumOfSquares) =>
          ofSum (Arithmetic.ofCount rows) sum sumOfSquares
      .ok ⟨(pairs.map Prod.fst).toArray, (pairs.map Prod.snd).toArray⟩

variable [TableShape τ]

/-- A table has cells, and the parameter fits its columns. -/
def validate (input : τ) (parameter : Parameter F) : Except Error (Nat × Nat) :=
  let rows := TableShape.rows input
  let cols := TableShape.cols input
  if rows = 0 ∨ cols = 0 then (Fault.invalidInput (.emptyTable rows cols)).raise
  else
    match parameter.check cols with
    | .ok _ => .ok (rows, cols)
    | .error error => .error error

/-! ## From the data -/

variable [Element T F] [TableAccess τ T]

/-- The moments of a column read as a whole, in blocks of a length. -/
def columnMoments
    (T : Type)
    [Element T F]
    [TableAccess τ T]
    (backend : Backend)
    (input : τ)
    (blockLength : Nat)
    (column : Nat) :
    Except Error (Moments F) :=
  match (TableAccess.readColumn input column : Except Error (Array T)) with
  | .ok values => .ok (Moments.ofColumn backend values blockLength)
  | .error error => .error error

/-- The moments of a column whose blocks an engine works on. -/
def blockwiseMoments
    (T : Type)
    [Element T F]
    [TableAccess τ T]
    (engine : Engine)
    (input : τ)
    (blockLength : Nat)
    (column : Nat) :
    Except Error (Moments F) :=
  match (TableAccess.readColumn input column : Except Error (Array T)) with
  | .ok values =>
      .ok (Moments.mergeAll
        (engine.mapChunks values blockLength (Moments.ofBlock engine.backend)))
  | .error error => .error error

/-- The columns of a table from `column` on, one after the other, up to the
first that cannot be read. -/
def momentsFrom
    (moments : Nat → Except Error (Moments F))
    (column : Nat) :
    Nat → Except Error (List (Moments F))
  | 0 => .ok []
  | remaining + 1 =>
      match moments column with
      | .error error => .error error
      | .ok first =>
          match momentsFrom moments (column + 1) remaining with
          | .ok rest => .ok (first :: rest)
          | .error error => .error error

/-- The block length for a table that has fewer columns than the engine has
threads. -/
def blockLength (engine : Engine) (rows : Nat) : Nat :=
  min (engine.chunkSize rows) blockRows

/-- The statistics of the data. With at least as many columns as threads the
columns are the work to share, and otherwise the blocks of each column. -/
def scan
    (T : Type)
    [Element T F]
    [TableAccess τ T]
    (engine : Engine)
    (input : τ) :
    Except Error (Statistics F) :=
  let rows := TableShape.rows input
  let cols := TableShape.cols input
  let moments :=
    if engine.threads ≤ cols then
      Engine.collect (engine.batch cols fun column =>
        columnMoments T engine.backend input blockRows column)
    else momentsFrom (blockwiseMoments T engine input (blockLength engine rows)) 0 cols
  match moments with
  | .ok moments => .ok (ofMoments moments)
  | .error error => .error error

/-- The statistics of a table that passed its checks. -/
def computeValidated
    (T : Type)
    [Element T F]
    [TableAccess τ T]
    (engine : Engine)
    (input : τ)
    (parameter : Parameter F) :
    Except Error (Statistics F) :=
  match parameter.method with
  | .defaultDense => scan T engine input
  | .sumDense => ofSums parameter (TableShape.rows input)

def compute
    (T : Type)
    [Element T F]
    [TableAccess τ T]
    (engine : Engine)
    (input : τ)
    (parameter : Parameter F) :
    Except Error (Statistics F) :=
  match validate input parameter with
  | .ok _ => computeValidated T engine input parameter
  | .error error => .error error

end Statistics

end Standardize
