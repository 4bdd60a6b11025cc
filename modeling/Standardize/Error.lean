/-!
Contract: what can go wrong, and how it is told.

Owns:
- `Fault`, one cause each, with the data that its message shows;
- `Error`, a fault or several errors reported together;
- the message of an error and the faults it consists of, in order.

Does not own: the checks that find a fault.
-/

set_option autoImplicit false

namespace Standardize

/-- What a length or a shape was measured of. -/
inductive Subject where
  | tableData
  | row (index : Nat)
  | columnBlock
  | columnLength
  | tensorData
  | columnSums
  | columnSumsOfSquares
  | columnStatistics
  | columnScales
  | outputRows
  | outputColumns
  | named (text : String)
deriving DecidableEq, Repr

/-- Why an input is refused. -/
inductive InputFault where
  | emptyTable (rows cols : Nat)
  | columnOutOfRange (column cols : Nat)
  | rowsOutOfRange (start count rows : Nat)
  | shapeOverflow (rows cols : Nat)
  | named (text : String)
deriving DecidableEq, Repr

/-- Why a buffer cannot be had. -/
inductive AllocationFault where
  | shapeOverflow (rows cols : Nat)
  | dimensionsOverflow (dims : List Nat)
  | beyondCapacity (rows cols : Nat) (element : String)
  | refused (rows cols : Nat) (element : String)
  | registeredShape (slot : String) (rows cols neededRows neededCols : Nat)
  | named (text : String)
deriving DecidableEq, Repr

/-- What a computation was not given. -/
inductive MissingParameter where
  | columnSums
  | named (text : String)
deriving DecidableEq, Repr

/-- What the running build cannot do. -/
inductive MissingFeature where
  | avx2
  | parallelExecution
  | named (text : String)
deriving DecidableEq, Repr

/-- One cause of failure. -/
inductive Fault where
  | inputUnset
  | resultUnset
  | parameterUnset (missing : MissingParameter)
  | dimensionMismatch (subject : Subject) (expected actual : Nat)
  | unsupportedMethod (name : String)
  | allocation (cause : AllocationFault)
  | engineOrLayerUnset
  | targetMissing
  | degenerateColumn (column : Nat)
  | invalidInput (cause : InputFault)
  | execution (detail : String)
  | unavailable (feature : MissingFeature)
  | other (detail : String)
deriving DecidableEq, Repr

/-- A fault, or errors reported together, which may be compound themselves. -/
inductive Error where
  | single (fault : Fault)
  | composite (errors : List Error)
deriving Repr

def Fault.raise {α : Type} (fault : Fault) : Except Error α :=
  .error (.single fault)

/-! ## Messages -/

def Subject.text : Subject → String
  | tableData => "table data"
  | row index => s!"row {index}"
  | columnBlock => "column block"
  | columnLength => "column length"
  | tensorData => "tensor data"
  | columnSums => "column sums"
  | columnSumsOfSquares => "column sums of squares"
  | columnStatistics => "column statistics"
  | columnScales => "column scales"
  | outputRows => "output rows"
  | outputColumns => "output columns"
  | named text => text

def InputFault.text : InputFault → String
  | emptyTable rows cols =>
      s!"table must have at least one row and one column, got {rows}x{cols}"
  | columnOutOfRange column cols =>
      s!"column index {column} out of range for table with {cols} columns"
  | rowsOutOfRange start count rows =>
      s!"row block {start}..{start}+{count} out of range for table with {rows} rows"
  | shapeOverflow rows cols => s!"{rows}x{cols} overflows usize"
  | named text => text

def AllocationFault.text : AllocationFault → String
  | shapeOverflow rows cols => s!"{rows}x{cols} elements overflow usize"
  | dimensionsOverflow dims =>
      "tensor dimensions [" ++ ", ".intercalate (dims.map toString) ++ "] overflow usize"
  | beyondCapacity rows cols element =>
      s!"cannot reserve {rows}x{cols} {element}: memory allocation failed because " ++
        "the computed capacity exceeded the collection's maximum"
  | refused rows cols element =>
      s!"cannot reserve {rows}x{cols} {element}: memory allocation failed because " ++
        "the memory allocator returned an error"
  | registeredShape slot rows cols neededRows neededCols =>
      s!"registered {slot} buffer is {rows}x{cols}, expected {neededRows}x{neededCols}"
  | named text => text

def MissingParameter.text : MissingParameter → String
  | columnSums => "sumDense requires precomputed column sums"
  | named text => text

def MissingFeature.text : MissingFeature → String
  | avx2 => "not compiled with AVX2 support"
  | parallelExecution => "parallel execution requires the `parallel` feature"
  | named text => text

def Fault.message : Fault → String
  | inputUnset => "Input numeric table is not set"
  | resultUnset => "Result is not set"
  | parameterUnset missing => "Parameter is not set: " ++ missing.text
  | dimensionMismatch subject expected actual =>
      "Dimension mismatch in " ++ subject.text ++ s!": expected {expected}, got {actual}"
  | unsupportedMethod name => "Unsupported method: " ++ name
  | allocation cause => "Allocation failure: " ++ cause.text
  | engineOrLayerUnset => "Random engine or layer is not set"
  | targetMissing => "Target tensor is missing from the result"
  | degenerateColumn column => s!"Column {column} has zero variance"
  | invalidInput cause => "Invalid input: " ++ cause.text
  | execution detail => "Execution error: " ++ detail
  | unavailable feature => "Feature not available: " ++ feature.text
  | other detail => "Other error: " ++ detail

namespace Error

mutual

/-- A compound error counts its members and joins their messages. -/
def message : Error → String
  | single fault => fault.message
  | composite errors =>
      s!"{errors.length} errors: " ++ "; ".intercalate (messages errors)

def messages : List Error → List String
  | [] => []
  | error :: rest => message error :: messages rest

end

mutual

/-- The faults that an error consists of, from left to right. -/
def codes : Error → List Fault
  | single fault => [fault]
  | composite errors => codesOf errors

def codesOf : List Error → List Fault
  | [] => []
  | error :: rest => codes error ++ codesOf rest

end

theorem codesOf_eq_flatMap (errors : List Error) :
    codesOf errors = errors.flatMap codes := by
  induction errors with
  | nil => simp [codesOf]
  | cons error rest inductionHypothesis => simp [codesOf, inductionHypothesis]

end Error

end Standardize
