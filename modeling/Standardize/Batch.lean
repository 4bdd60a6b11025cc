import Standardize.Compute

/-!
Contract: a standardization kept ready to run.

Owns:
- `Batch`: an input that may be unset, a parameter, an engine, and a result
  that may have been taken;
- what a run does to the result, and what a copy shares with its batch: the
  very input, but not the result;
- the description of a batch.

Does not own: the standardization.
-/

set_option autoImplicit false

namespace Standardize

/-- A table that may be the input of several batches, told apart from equal
ones by its number. -/
structure SharedInput (τ : Type) where
  number : Nat
  table : τ

/-- A standardization kept ready to run. -/
structure Batch (τ T F : Type) where
  input? : Option (SharedInput τ)
  parameter : Parameter F
  engine : Engine
  result? : Option (Output T)

namespace Batch

variable {τ T F : Type}

/-- A batch without input, over an empty result. -/
def withParameter (engine : Engine) (parameter : Parameter F) : Batch τ T F :=
  ⟨none, parameter, engine, some SlotMap.empty⟩

def new (engine : Engine) : Batch τ T F :=
  withParameter engine Parameter.standard

def setInput (batch : Batch τ T F) (input : SharedInput τ) : Batch τ T F :=
  { batch with input? := some input }

def clearInput (batch : Batch τ T F) : Batch τ T F :=
  { batch with input? := none }

def setParameter (batch : Batch τ T F) (parameter : Parameter F) : Batch τ T F :=
  { batch with parameter := parameter }

def setResult (batch : Batch τ T F) (result : Output T) : Batch τ T F :=
  { batch with result? := some result }

/-- The result, which the batch gives away. -/
def takeResult (batch : Batch τ T F) : Option (Output T) × Batch τ T F :=
  (batch.result?, { batch with result? := none })

/-- A batch over the same input, with a result of its own. -/
def copy (batch : Batch τ T F) : Batch τ T F :=
  { batch with result? := some SlotMap.empty }

/-- Whether two batches have the very same input; `none` when one has none. -/
def sameInput? (left right : Batch τ T F) : Option Bool :=
  match left.input?, right.input? with
  | some a, some b => some (a.number == b.number)
  | _, _ => none

def sameResult [Element T F] (left right : Batch τ T F) : Bool :=
  match left.result?, right.result? with
  | some a, some b => a.equal b
  | none, none => true
  | _, _ => false

def compute
    [Arithmetic F]
    [Element T F]
    [TableShape τ]
    [TableAccess τ T]
    (memory : Memory)
    (batch : Batch τ T F) :
    Except Error (Output T) × Batch τ T F :=
  match batch.input?, batch.result? with
  | none, _ => (Fault.inputUnset.raise, batch)
  | some _, none => (Fault.resultUnset.raise, batch)
  | some input, some result =>
      match Standardize.compute memory batch.engine input.table batch.parameter result with
      | (.ok _, written) => (.ok written, { batch with result? := some written })
      | (.error error, cleared) => (.error error, { batch with result? := some cleared })

/-! ## Description -/

def describeInput
    (T : Type)
    [Element T F]
    [TableShape τ]
    (input? : Option (SharedInput τ)) :
    String :=
  match input? with
  | some input =>
      s!"Input({TableShape.rows input.table}x{TableShape.cols input.table} " ++
        Element.name T ++ ")"
  | none => "Input(unset)"

def describe
    [Element T F]
    [TableShape τ]
    (showNumber : F → String)
    (batch : Batch τ T F) :
    String :=
  Parameter.describeRecord "ZScoreBatch"
    [("input", describeInput T batch.input?),
      ("parameter", batch.parameter.describe showNumber),
      ("strategy", batch.engine.strategy.tag),
      ("has_result", toString batch.result?.isSome)]

end Batch

end Standardize
