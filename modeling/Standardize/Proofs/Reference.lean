import Standardize.Output
import Standardize.Proofs.FirstFailure

/-!
Contract: what a standardization means, one column at a time.

Owns:
- for each column the values it is read as, its center, its variance and the
  factor it is scaled by;
- the causes for which a standardization fails, each on its own, and the order
  in which they are looked for.

Does not own: how columns are shared among threads, grouped or written.
-/

set_option autoImplicit false

namespace Standardize.Reference

variable {T F τ : Type} [Arithmetic F] [Element T F] [TableShape τ] [TableAccess τ T]

/-! ## Columns -/

/-- The values that a column is read as; none where it cannot be read. -/
def values (T : Type) [TableAccess τ T] (input : τ) (column : Nat) : Array T :=
  match (TableAccess.readColumn input column : Except Error (Array T)) with
  | .ok values => values
  | .error _ => #[]

/-- The rows of a block: the full length when there are as many columns as
threads, and otherwise no more than the engine's share of the rows. -/
def blockLength (engine : Engine) (rows cols : Nat) : Nat :=
  if engine.threads ≤ cols then blockRows else min (engine.chunkSize rows) blockRows

/-- The moments of a column over the blocks that an engine takes it in. -/
def moments
    (T : Type)
    [Element T F]
    [TableAccess τ T]
    (engine : Engine)
    (input : τ)
    (column : Nat) :
    Moments F :=
  Moments.ofColumn engine.backend (values T input column)
    (blockLength engine (TableShape.rows input) (TableShape.cols input))

/-- Mean and variance of a column of so many rows from its given sums. -/
def summed (parameter : Parameter F) (rows column : Nat) : F × F :=
  match parameter.sums with
  | none => (0, 0)
  | some given =>
      Statistics.ofSum (Arithmetic.ofCount rows) (given.sums.getD column 0)
        (given.sumsOfSquares.getD column 0)

/-- What is subtracted from the values of a column. -/
def center
    (T : Type)
    [Element T F]
    [TableAccess τ T]
    (engine : Engine)
    (input : τ)
    (parameter : Parameter F)
    (column : Nat) :
    F :=
  match parameter.method with
  | .defaultDense => (moments T engine input column).center
  | .sumDense => (summed parameter (TableShape.rows input) column).1

/-- The variance that a column is scaled by. -/
def variance
    (T : Type)
    [Element T F]
    [TableAccess τ T]
    (engine : Engine)
    (input : τ)
    (parameter : Parameter F)
    (column : Nat) :
    F :=
  match parameter.method with
  | .defaultDense => (moments T engine input column).variance
  | .sumDense => (summed parameter (TableShape.rows input) column).2

/-- The factor for a variance: one without scaling, zero for a variance that is
not above zero. -/
def scale (parameter : Parameter F) (variance : F) : F :=
  if parameter.doScale then
    if Arithmetic.lt 0 variance then 1 / Arithmetic.sqrt variance else 0
  else 1

/-- The centers and variances of all columns. -/
def statistics
    (T : Type)
    [Element T F]
    [TableAccess τ T]
    (engine : Engine)
    (input : τ)
    (parameter : Parameter F) :
    Statistics F where
  means := (Array.range (TableShape.cols input)).map (center T engine input parameter)
  variances := (Array.range (TableShape.cols input)).map (variance T engine input parameter)

def scales
    (T : Type)
    [Element T F]
    [TableAccess τ T]
    (engine : Engine)
    (input : τ)
    (parameter : Parameter F) :
    Array F :=
  (Array.range (TableShape.cols input)).map fun column =>
    scale parameter (variance T engine input parameter column)

/-- The values of a column, centered and scaled. -/
def standardized
    (T : Type)
    [Element T F]
    [TableAccess τ T]
    (engine : Engine)
    (input : τ)
    (parameter : Parameter F)
    (column : Nat) :
    Array T :=
  (values T input column).map
    (standardizeValue (center T engine input parameter column)
      (scale parameter (variance T engine input parameter column)))

/-! ## Failures -/

/-- There are no cells. -/
def emptyFailure? (input : τ) : Option Error :=
  if TableShape.rows input = 0 ∨ TableShape.cols input = 0 then
    some (.single (.invalidInput (.emptyTable (TableShape.rows input) (TableShape.cols input))))
  else none

/-- A vector of sums does not have an entry for each column. -/
def lengthFailure? (subject : Subject) (cols length : Nat) : Option Error :=
  if length = cols then none else some (.single (.dimensionMismatch subject cols length))

/-- The sums that the method needs are missing or do not fit; where neither
vector fits, both are told. -/
def parameterFailure? (parameter : Parameter F) (cols : Nat) : Option Error :=
  match parameter.method, parameter.sums with
  | .defaultDense, _ => none
  | .sumDense, none => some (.single (.parameterUnset .columnSums))
  | .sumDense, some given =>
      match lengthFailure? .columnSums cols given.sums.size,
        lengthFailure? .columnSumsOfSquares cols given.sumsOfSquares.size with
      | some first, some second => some (.composite [first, second])
      | first, second => first <|> second

/-- A place that a standardization fills, and the shape of its table. -/
structure Place where
  slot : OutputSlot
  rows : Nat
  cols : Nat
deriving DecidableEq, Repr

/-- The places that are asked for, in the order in which they are provided. -/
def places (parameter : Parameter F) (rows cols : Nat) : List Place :=
  [⟨.normalizedData, rows, cols⟩] ++
    (if parameter.wants .mean then [⟨.means, 1, cols⟩] else []) ++
    (if parameter.wants .variance then [⟨.variances, 1, cols⟩] else [])

/-- The table that is registered in a place has another shape. -/
def shapeFailure? (output : Output T) (place : Place) : Option Error :=
  (output.get? place.slot).bind fun table =>
    if table.rows = place.rows ∧ table.cols = place.cols then none
    else
      some (.single (.allocation
        (.registeredShape place.slot.name table.rows table.cols place.rows place.cols)))

/-- The first place whose registered table does not fit. -/
def outputFailure? (output : Output T) (places : List Place) : Option Error :=
  places.findSome? (shapeFailure? output)

/-- The lowest column that cannot be read. -/
def readFailure? (T : Type) [TableAccess τ T] (input : τ) : Option Error :=
  (List.range (TableShape.cols input)).findSome? fun column =>
    failure? (TableAccess.readColumn input column : Except Error (Array T))

/-- The scan of the data meets a column that cannot be read. -/
def scanFailure?
    (T : Type)
    [TableAccess τ T]
    (input : τ)
    (parameter : Parameter F) :
    Option Error :=
  match parameter.method with
  | .defaultDense => readFailure? T input
  | .sumDense => none

/-- The lowest column whose variance is not above zero. -/
def degenerate?
    (T : Type)
    [Element T F]
    [TableAccess τ T]
    (engine : Engine)
    (input : τ)
    (parameter : Parameter F) :
    Option Nat :=
  (List.range (TableShape.cols input)).find? fun column =>
    !Arithmetic.lt 0 (variance T engine input parameter column)

/-- A column without variance is refused. -/
def policyFailure?
    (T : Type)
    [Element T F]
    [TableAccess τ T]
    (engine : Engine)
    (input : τ)
    (parameter : Parameter F) :
    Option Error :=
  if parameter.doScale ∧ parameter.zeroVariance = .reject then
    (degenerate? T engine input parameter).map fun column => .single (.degenerateColumn column)
  else none

/-- The first cause of failure, over places that were provided. -/
def fillFailure?
    (T : Type)
    [Element T F]
    [TableAccess τ T]
    (engine : Engine)
    (input : τ)
    (parameter : Parameter F) :
    Option Error :=
  scanFailure? T input parameter <|>
    policyFailure? T engine input parameter <|>
    readFailure? T input

/-- The first cause for which no places are provided: no cells, sums that do not
fit, places that cannot be had. -/
def preparationFailure?
    (memory : Memory)
    (input : τ)
    (parameter : Parameter F)
    (output : Output T) :
    Option Error :=
  emptyFailure? input <|>
    parameterFailure? parameter (TableShape.cols input) <|>
    failure?
      (output.allocate memory (TableShape.rows input) (TableShape.cols input) parameter).1

/-- The first cause of failure: there are no places, or they cannot be filled. -/
def runFailure?
    (memory : Memory)
    (engine : Engine)
    (input : τ)
    (parameter : Parameter F)
    (output : Output T) :
    Option Error :=
  preparationFailure? memory input parameter output <|>
    fillFailure? T engine input parameter

end Standardize.Reference
