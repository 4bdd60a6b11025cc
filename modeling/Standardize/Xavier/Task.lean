import Standardize.Slots
import Standardize.Status
import Standardize.Tensor

/-!
Contract: an initialization, from its parts to its effect.

Owns:
- `InitializerResult`, the place for the tensor to fill;
- `Store`, the random engines, layers and results that initializations share;
- `Parameter`, which engine and which layer of a store to use;
- `Task`, the parts of an initialization that has all of them, and the errors
  of one that has not;
- the run of a fill kernel on a task, which changes the task's engine and the
  tensor of its result and nothing else.

Does not own: kernels. A kernel is any function of the engine's state, the
layer and the tensor.
-/

set_option autoImplicit false

namespace Standardize.Xavier

/-- What an initializer leaves. -/
inductive InitializerSlot where
  | value
deriving DecidableEq, Repr

namespace InitializerSlot

def name : InitializerSlot → String
  | value => "value"

def tag : InitializerSlot → String
  | value => "Value"

instance : SlotKey InitializerSlot where
  count := 1
  index := fun _ => 0
  index_injective := by
    intro left right _
    cases left
    cases right
    rfl
  name := name
  tag := tag

end InitializerSlot

/-- The place for the tensor to fill. -/
abbrev InitializerResult (T : Type) :=
  SlotMap InitializerSlot (Tensor T)

namespace InitializerResult

variable {T F : Type}

def withValue (tensor : Tensor T) : InitializerResult T :=
  SlotMap.set SlotMap.empty .value tensor

def value? (result : InitializerResult T) : Option (Tensor T) :=
  result.get? .value

def equal [Element T F] (left right : InitializerResult T) : Bool :=
  SlotMap.equal Tensor.equal left right

end InitializerResult

/-- Random engines, layers and results, each known by its number. -/
structure Store (E L T : Type) where
  engines : Array E
  layers : Array L
  results : Array (InitializerResult T)

/-- The engine and the layer to use, by number; either may be missing. -/
structure Parameter where
  engine? : Option Nat
  layer? : Option Nat
deriving DecidableEq, Repr

def Parameter.describe (parameter : Parameter) : String :=
  "XavierParameter \x7b engine: " ++ toString parameter.engine?.isSome ++
    ", layer: " ++ toString parameter.layer?.isSome ++ " \x7d"

/-- The parts of an initialization: each by its number and as it is now. -/
structure Task (E L T : Type) where
  engine : Nat
  engineState : E
  layer : Nat
  layerShape : L
  result : Nat
  target : Tensor T

/-- What a kernel leaves: the engine's state, the tensor, and its answer. -/
structure Filled (E T : Type) where
  engineState : E
  target : Tensor T
  answer : Except Error Unit

/-- What an initialization answers, and whether its kernel ran. -/
structure Outcome where
  ran : Bool
  answer : Except Error Unit

namespace Store

variable {E L T : Type}

def empty : Store E L T :=
  ⟨#[], #[], #[]⟩

def engine? (store : Store E L T) (parameter : Parameter) : Option (Nat × E) :=
  parameter.engine?.bind fun number => store.engines[number]?.map (number, ·)

def layer? (store : Store E L T) (parameter : Parameter) : Option (Nat × L) :=
  parameter.layer?.bind fun number => store.layers[number]?.map (number, ·)

def target? (store : Store E L T) (result : Nat) : Option (Tensor T) :=
  store.results[result]?.bind InitializerResult.value?

/-- Why parts are missing: the engine and the layer count as one, and the
tensor as the other. -/
def missingParts (sourcesMissing targetMissing : Bool) : Error :=
  let status := if sourcesMissing then Status.empty.push (.single .engineOrLayerUnset)
    else Status.empty
  let status := if targetMissing then status.push (.single .targetMissing) else status
  status.error?.getD (.single .engineOrLayerUnset)

def task (store : Store E L T) (parameter : Parameter) (result : Nat) :
    Except Error (Task E L T) :=
  match store.engine? parameter, store.layer? parameter, store.target? result with
  | some (engine, engineState), some (layer, layerShape), some target =>
      .ok ⟨engine, engineState, layer, layerShape, result, target⟩
  | engine, layer, target =>
      .error (missingParts (engine.isNone || layer.isNone) target.isNone)

def fillResult (result : InitializerResult T) (target : Tensor T) : InitializerResult T :=
  result.set .value target

/-- The store after a kernel ran on a task. -/
def commit
    (store : Store E L T)
    (task : Task E L T)
    (filled : Filled E T) :
    Store E L T where
  engines := store.engines.setIfInBounds task.engine filled.engineState
  layers := store.layers
  results := store.results.modify task.result (fillResult · filled.target)

/-- Run a kernel on the task of a parameter and a result, if there is one. -/
def fill
    (kernel : E → L → Tensor T → Filled E T)
    (store : Store E L T)
    (parameter : Parameter)
    (result : Nat) :
    Outcome × Store E L T :=
  match store.task parameter result with
  | .error error => (⟨false, .error error⟩, store)
  | .ok task =>
      let filled := kernel task.engineState task.layerShape task.target
      (⟨true, filled.answer⟩, store.commit task filled)

/-- Run a kernel that may stop the program; `none` when it does. -/
def fill?
    (kernel : E → L → Tensor T → Option (Filled E T))
    (store : Store E L T)
    (parameter : Parameter)
    (result : Nat) :
    Option (Outcome × Store E L T) :=
  match store.task parameter result with
  | .error error => some (⟨false, .error error⟩, store)
  | .ok task =>
      match kernel task.engineState task.layerShape task.target with
      | some filled => some (⟨true, filled.answer⟩, store.commit task filled)
      | none => none

/-- A kernel that never stops the program runs the same either way. -/
theorem fill?_some
    (kernel : E → L → Tensor T → Filled E T)
    (store : Store E L T)
    (parameter : Parameter)
    (result : Nat) :
    store.fill? (fun engine layer target => some (kernel engine layer target))
        parameter result =
      some (store.fill kernel parameter result) := by
  unfold fill? fill
  split <;> rfl

end Store

end Standardize.Xavier
