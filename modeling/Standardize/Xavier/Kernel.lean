import Standardize.Xavier.Layer
import Standardize.Xavier.Task

/-!
Contract: kernels that fill a tensor.

Owns:
- `RandomSource`, engines that give a 64-bit word at a time, and the one that
  counts on in equal steps;
- the kernel that writes ones, the one that refuses, and the one that draws
  every weight from the uniform distribution of its layer.

Does not own: which kernel is run.
-/

set_option autoImplicit false

namespace Standardize.Xavier

/-- Engines that give a word and move on. -/
class RandomSource (E : Type) where
  next : E → UInt64 × E

/-- An engine whose words go up in equal steps, around the end of the range. -/
structure Counter where
  state : UInt64
  step : UInt64
deriving DecidableEq, Repr

instance : RandomSource Counter where
  next := fun counter => (counter.state, ⟨counter.state + counter.step, counter.step⟩)

/-- The kernels. -/
inductive Kernel where
  | ones
  | refuse
  | uniform
deriving DecidableEq, Repr

namespace Kernel

variable {E L T F : Type} [Arithmetic F] [Element T F]

def fillOnes (target : Tensor T) : Tensor T :=
  target.map fun _ => Element.narrow 1

/-- The weight of a word: its upper 53 bits as a fraction of one, spread evenly
from minus the bound to the bound. -/
def weight (bound : F) (word : UInt64) : F :=
  let fraction : F :=
    Arithmetic.ofCount (word >>> 11).toNat / Arithmetic.ofCount (Nat.pow 2 53)
  (Arithmetic.ofCount 2 * fraction - 1) * bound

def drawWeights
    [RandomSource E]
    (bound : F)
    (engine : E)
    (drawn : Array T) :
    Nat → Array T × E
  | 0 => (drawn, engine)
  | remaining + 1 =>
      let (word, next) := RandomSource.next engine
      drawWeights bound next (drawn.push (Element.narrow (weight bound word))) remaining

/-- Run a kernel. The uniform one needs the bound of its layer first, and
without one the program stops. -/
def run
    [RandomSource E]
    [LayerShape L]
    (kernel : Kernel)
    (engine : E)
    (layer : L)
    (target : Tensor T) :
    Option (Filled E T) :=
  match kernel with
  | ones => some ⟨engine, fillOnes target, .ok ()⟩
  | refuse => some ⟨engine, target, (Fault.execution "kernel refused").raise⟩
  | uniform =>
      match (layerBound? layer : Option F) with
      | some bound =>
          let (drawn, next) := drawWeights bound engine #[] target.size
          some ⟨next, ⟨target.dims, drawn⟩, .ok ()⟩
      | none => none

end Kernel

end Standardize.Xavier
