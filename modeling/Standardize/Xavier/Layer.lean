import Standardize.Arithmetic
import Standardize.Size

/-!
Contract: the shape of a layer, as far as an initializer needs it.

Owns:
- `LayerShape`, the number of inputs and of outputs that a weight is between;
- `DenseShape`, the dimensions of a weight tensor, outputs before inputs and
  the receptive field after them;
- the bound of the uniform distribution that keeps variances level.

Fans and their sum must be sizes; one that is not is missing.

Does not own: weights.
-/

set_option autoImplicit false

namespace Standardize.Xavier

/-- The fans of a layer; missing where the number is not a size. -/
class LayerShape (L : Type) where
  fanIn? : L → Option Nat
  fanOut? : L → Option Nat

/-- The dimensions of a weight tensor. -/
structure DenseShape where
  dims : List Nat
deriving DecidableEq, Repr

namespace DenseShape

def fullyConnected (inputs outputs : Nat) : DenseShape :=
  ⟨[outputs, inputs]⟩

/-- The weights between one input and one output. -/
def receptiveField? (shape : DenseShape) : Option Nat :=
  Size.product? (shape.dims.drop 2)

/-- A channel count times the receptive field. -/
def overField? (shape : DenseShape) (channels : Nat) : Option Nat :=
  match shape.receptiveField? with
  | some field => Size.mul? channels field
  | none => none

def fanIn? (shape : DenseShape) : Option Nat :=
  match shape.dims with
  | [] => some 1
  | [_] => some 1
  | _ :: inputs :: _ => shape.overField? inputs

def fanOut? (shape : DenseShape) : Option Nat :=
  match shape.dims with
  | [] => some 1
  | [length] => some length
  | outputs :: _ :: _ => shape.overField? outputs

instance : LayerShape DenseShape where
  fanIn? := fanIn?
  fanOut? := fanOut?

end DenseShape

variable {F : Type} [Arithmetic F]

/-- The bound for a number of fans; zero without any. -/
def boundOf (fans : Nat) : F :=
  if fans = 0 then 0
  else Arithmetic.sqrt (Arithmetic.ofCount 6 / Arithmetic.ofCount fans)

/-- The bound for a layer's fans, when their sum is a size. -/
def uniformBound? (fanIn fanOut : Nat) : Option F :=
  match Size.add? fanIn fanOut with
  | some fans => some (boundOf fans)
  | none => none

/-- The bound for a layer, when its fans and their sum are sizes. -/
def layerBound? {L : Type} [LayerShape L] (layer : L) : Option F :=
  match LayerShape.fanIn? layer, LayerShape.fanOut? layer with
  | some fanIn, some fanOut => uniformBound? fanIn fanOut
  | _, _ => none

end Standardize.Xavier
