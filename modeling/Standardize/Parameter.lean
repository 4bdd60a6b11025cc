import Standardize.Status

/-!
Contract: what a standardization is asked to do.

Owns:
- the methods, by which column statistics are scanned from the data or derived
  from given sums, and their names;
- the optional results, a set of flags in which unknown flags are kept;
- the policy for columns without variance;
- `Parameter`, its defaults, the check against a number of columns, and its
  description.

Does not own: the statistics.
-/

set_option autoImplicit false

namespace Standardize

/-- Where column statistics come from. -/
inductive Method where
  /-- A scan of the data. -/
  | defaultDense
  /-- Sums and sums of squares that the caller gives. -/
  | sumDense
deriving DecidableEq, Repr

namespace Method

def name : Method → String
  | defaultDense => "defaultDense"
  | sumDense => "sumDense"

def tag : Method → String
  | defaultDense => "DefaultDense"
  | sumDense => "SumDense"

/-- The method of a name, which must match exactly. -/
def ofName (text : String) : Except Error Method :=
  if text = defaultDense.name then .ok defaultDense
  else if text = sumDense.name then .ok sumDense
  else (Fault.unsupportedMethod text).raise

end Method

/-- A set of results, one bit each. -/
structure ResultSet where
  bits : UInt32
deriving DecidableEq, Repr

namespace ResultSet

def none : ResultSet :=
  ⟨0⟩

def mean : ResultSet :=
  ⟨1⟩

def variance : ResultSet :=
  ⟨2⟩

/-- Every flag of `part` is in the set. -/
def contains (set part : ResultSet) : Bool :=
  set.bits &&& part.bits == part.bits

/-- The number in hexadecimal digits. -/
def hexadecimal (number : Nat) : String :=
  "0x" ++ String.ofList (Nat.toDigits 16 number)

/-- The flags with a name, in order, then the number that the others make; an
empty set is the number zero. -/
def describe (set : ResultSet) : String :=
  let named :=
    (if set.contains mean then ["MEAN"] else []) ++
      (if set.contains variance then ["VARIANCE"] else [])
  let rest := set.bits.toNat / 4 * 4
  let parts := named ++ (if rest = 0 then [] else [hexadecimal rest])
  match parts with
  | [] => hexadecimal 0
  | parts => " | ".intercalate parts

end ResultSet

/-- What becomes of a column without variance. -/
inductive ZeroVariance where
  /-- Its values are scaled by zero. -/
  | emitZero
  /-- The standardization fails. -/
  | reject
deriving DecidableEq, Repr

def ZeroVariance.tag : ZeroVariance → String
  | emitZero => "EmitZero"
  | reject => "Reject"

/-- For each column the sum of its values and the sum of their squares. -/
structure ColumnSums (F : Type) where
  sums : Array F
  sumsOfSquares : Array F
deriving DecidableEq, Repr

/-- What a standardization is asked to do. -/
structure Parameter (F : Type) where
  method : Method := .defaultDense
  results : ResultSet := .none
  doScale : Bool := true
  zeroVariance : ZeroVariance := .emitZero
  sums : Option (ColumnSums F) := none
deriving DecidableEq, Repr

namespace Parameter

variable {F : Type}

/-- A scan without optional results, scaled, with zeros for columns without
variance. -/
def standard : Parameter F :=
  {}

def sumDense (sums sumsOfSquares : Array F) : Parameter F :=
  { method := .sumDense, sums := some ⟨sums, sumsOfSquares⟩ }

def forMethod (name : String) : Except Error (Parameter F) :=
  match Method.ofName name with
  | .ok method => .ok { method := method }
  | .error error => .error error

def wants (parameter : Parameter F) (results : ResultSet) : Bool :=
  parameter.results.contains results

def isStandard (parameter : Parameter F) : Bool :=
  parameter.method == .defaultDense && parameter.results == .none && parameter.doScale &&
    parameter.zeroVariance == .emitZero && parameter.sums.isNone

/-- A vector of sums has an entry for each column. -/
def checkLength (subject : Subject) (cols length : Nat) : Except Error Unit :=
  if length = cols then .ok ()
  else (Fault.dimensionMismatch subject cols length).raise

/-- Given sums must be there and have an entry for each column; both vectors
are checked before the outcome is told. -/
def check (parameter : Parameter F) (cols : Nat) : Except Error Unit :=
  match parameter.method with
  | .defaultDense => .ok ()
  | .sumDense =>
      match parameter.sums with
      | none => (Fault.parameterUnset .columnSums).raise
      | some given =>
          Status.empty
            |>.check (checkLength .columnSums cols given.sums.size)
            |>.check (checkLength .columnSumsOfSquares cols given.sumsOfSquares.size)
            |>.result

/-! ## Description -/

/-- A record with the given fields. -/
def describeRecord (name : String) (fields : List (String × String)) : String :=
  name ++ " \x7b " ++
    ", ".intercalate (fields.map fun (field, text) => field ++ ": " ++ text) ++ " \x7d"

def describeNumbers (showNumber : F → String) (numbers : Array F) : String :=
  "[" ++ ", ".intercalate (numbers.toList.map showNumber) ++ "]"

def describe (showNumber : F → String) (parameter : Parameter F) : String :=
  let sums :=
    match parameter.sums with
    | none => "None"
    | some given =>
        "Some(" ++
          describeRecord "PrecomputedSums"
            [("sums", describeNumbers showNumber given.sums),
              ("sums_of_squares", describeNumbers showNumber given.sumsOfSquares)] ++ ")"
  describeRecord "Parameter"
    [("method", parameter.method.tag),
      ("results_to_compute", "ResultsToCompute(" ++ parameter.results.describe ++ ")"),
      ("do_scale", toString parameter.doScale),
      ("zero_variance", parameter.zeroVariance.tag),
      ("sums", sums)]

end Parameter

end Standardize
