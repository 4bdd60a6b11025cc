import Standardize.Memory

/-!
Contract: dense arrays of any number of dimensions.

Owns:
- `Tensor`, whose buffer has as many values as the product of its dimensions;
- the number of elements of a list of dimensions, taken from the left and
  refused at the first partial product that is not a size;
- tensors of zeros and over a given buffer.

Does not own: the order of the elements; nothing here depends on it.
-/

set_option autoImplicit false

namespace Standardize

/-- A list of dimensions and the elements that they span. -/
structure Tensor (T : Type) where
  dims : List Nat
  data : Array T

namespace Tensor

variable {T F : Type}

/-- The number of elements that dimensions span; one for no dimensions. -/
def elementCount (dims : List Nat) : Except Error Nat :=
  match Size.product? dims with
  | some count => .ok count
  | none => (Fault.allocation (.dimensionsOverflow dims)).raise

def zeros [Element T F] (memory : Memory) (dims : List Nat) : Except Error (Tensor T) :=
  match elementCount dims with
  | .error error => .error error
  | .ok count =>
      match memory.zeroed T count 1 with
      | .ok data => .ok ⟨dims, data⟩
      | .error error => .error error

/-- A tensor over a buffer, which must have one value for each element. -/
def ofArray (dims : List Nat) (data : Array T) : Except Error (Tensor T) :=
  match elementCount dims with
  | .error error => .error error
  | .ok count =>
      if data.size = count then .ok ⟨dims, data⟩
      else (Fault.dimensionMismatch .tensorData count data.size).raise

def size (tensor : Tensor T) : Nat :=
  tensor.data.size

def isEmpty (tensor : Tensor T) : Bool :=
  tensor.size == 0

def set? (tensor : Tensor T) (place : Nat) (value : T) : Option (Tensor T) :=
  if inside : place < tensor.data.size then
    some ⟨tensor.dims, tensor.data.set place value inside⟩
  else none

def map (change : T → T) (tensor : Tensor T) : Tensor T :=
  ⟨tensor.dims, tensor.data.map change⟩

def equal [Element T F] (left right : Tensor T) : Bool :=
  left.dims == right.dims && elementsEqual left.data right.data

end Tensor

end Standardize
