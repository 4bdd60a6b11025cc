import Standardize.Normalize
import Standardize.Output

/-!
Contract: the standardization of a table as a whole.

Owns: the order of its steps. The input is checked, places are provided, the
statistics are computed, the scales follow from them, the columns are written,
and the statistics last. A standardization that fails leaves no table at all,
whatever was there before.

Does not own: the steps.
-/

set_option autoImplicit false

namespace Standardize

variable {T F τ : Type} [Arithmetic F] [Element T F] [TableShape τ] [TableAccess τ T]

/-- The steps from the statistics on, over places that were provided. -/
def fill
    (engine : Engine)
    (input : τ)
    (parameter : Parameter F)
    (output : Output T) :
    Except Error (Output T) :=
  match Statistics.computeValidated T engine input parameter with
  | .error error => .error error
  | .ok statistics =>
  match inverseScales statistics parameter with
  | .error error => .error error
  | .ok scales =>
  match output.get? .normalizedData with
  | none => Fault.resultUnset.raise
  | some table =>
  match normalizeInto T engine input statistics scales table with
  | (.error error, _) => .error error
  | (.ok _, written) =>
      Output.writeStatistics (output.set .normalizedData written) statistics

/-- All steps of a standardization. -/
def run
    (memory : Memory)
    (engine : Engine)
    (input : τ)
    (parameter : Parameter F)
    (output : Output T) :
    Except Error (Output T) :=
  match Statistics.validate input parameter with
  | .error error => .error error
  | .ok (rows, cols) =>
  match output.allocate memory rows cols parameter with
  | (.error error, _) => .error error
  | (.ok _, provided) => fill engine input parameter provided

/-- Standardize a table into the tables of an output, which a failure leaves
empty. -/
def compute
    (memory : Memory)
    (engine : Engine)
    (input : τ)
    (parameter : Parameter F)
    (output : Output T) :
    Except Error Unit × Output T :=
  match run memory engine input parameter output with
  | .ok written => (.ok (), written)
  | .error error => (.error error, SlotMap.empty)

end Standardize
