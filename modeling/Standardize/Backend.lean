import Standardize.Arithmetic
import Standardize.Platform
import Standardize.Reduction

/-!
Contract: what every backend computes on a slice of elements.

Owns:
- sums, sums of squares, sums of squared deviations and means, each in the
  order of its backend;
- standardization, which writes `(x - center) * scale` for every value into an
  output slice of the same length.

Does not own: which backend is used.
-/

set_option autoImplicit false

namespace Standardize

variable {T F : Type} [Arithmetic F] [Element T F]

def kernelName : String := "zscore"

/-- A standardized value, computed in aggregation numbers and narrowed once. -/
def standardizeValue (center scale : F) (value : T) : T :=
  Element.narrow ((Element.widen value - center) * scale)

namespace Backend

/-! ## Sums -/

/-- The sum over `n` places in the order of a backend. -/
def reduce
    {M : Type → Type}
    [Monad M]
    {n : Nat}
    (backend : Backend)
    (read : Fin n → M F) :
    M F :=
  match backend with
  | scalar => Reduction.sequential read
  | avx2 => Reduction.fourLanes read

def sumOf (backend : Backend) (term : T → F) (data : Array T) : F :=
  Id.run (backend.reduce fun place : Fin data.size => pure (term data[place]))

def squaredDeviation (center : F) (value : T) : F :=
  let distance := Element.widen value - center
  distance * distance

def square (value : T) : F :=
  Element.widen value * Element.widen value

def sum (backend : Backend) (data : Array T) : F :=
  backend.sumOf Element.widen data

def sumSquaredDeviations (backend : Backend) (data : Array T) (center : F) : F :=
  backend.sumOf (squaredDeviation center) data

/-- Four lanes at a time, squares are squared distances from zero. -/
def sumOfSquares (backend : Backend) (data : Array T) : F :=
  match backend with
  | scalar => backend.sumOf square data
  | avx2 => backend.sumSquaredDeviations data 0

/-- The mean of a slice, zero for an empty one. -/
def mean (backend : Backend) (data : Array T) : F :=
  if data.size = 0 then 0
  else backend.sum data / Arithmetic.ofCount data.size

/-! ## Standardization -/

/-- Store a function of the place at `count` places from `start` on. -/
def storeFrom
    {n : Nat}
    (value : Fin n → T)
    (start count : Nat)
    (inside : start + count ≤ n)
    (out : Vector T n) :
    Vector T n :=
  Nat.fold count
    (fun offset offsetLt out =>
      have placeLt : start + offset < n := by omega
      out.set (start + offset) (value ⟨start + offset, placeLt⟩) placeLt)
    out

/-- Store a function of the place over the first `groups` groups of four. -/
def storeGroups
    {n : Nat}
    (value : Fin n → T)
    (groups : Nat)
    (inside : 4 * groups ≤ n)
    (out : Vector T n) :
    Vector T n :=
  Nat.fold groups
    (fun group groupLt out =>
      storeFrom value (4 * group) 4 (by omega) out)
    out

/-- Write the standardized values of a slice into an output slice. -/
def standardizeInto
    (backend : Backend)
    (data : Array T)
    (center scale : F)
    (out : Vector T data.size) :
    Vector T data.size :=
  let value : Fin data.size → T := fun place => standardizeValue center scale data[place]
  match backend with
  | scalar => storeFrom value 0 data.size (by omega) out
  | avx2 =>
      let groups := data.size / 4
      storeFrom value (4 * groups) (data.size - 4 * groups) (by omega)
        (storeGroups value groups (by omega) out)

/-- Write the standardized values of a slice into an output slice of any
length; a slice of another length is a broken promise of the caller. -/
def standardizeInto?
    (backend : Backend)
    (data : Array T)
    (center scale : F)
    (out : Array T) :
    Option (Array T) :=
  if sameSize : out.size = data.size then
    some (backend.standardizeInto data center scale ⟨out, sameSize⟩).toArray
  else none

/-- The standardized values of a slice, written over zeros. -/
def standardize
    (backend : Backend)
    (data : Array T)
    (center scale : F) :
    Array T :=
  (backend.standardizeInto data center scale
    (Vector.replicate data.size Element.zero)).toArray

end Backend

end Standardize
