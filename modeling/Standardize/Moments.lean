import Standardize.Backend
import Standardize.Chunks
import Standardize.Size

/-!
Contract: the partial moments of a block of a column.

Owns:
- `Moments`: how many values, their mean, the sum of squared deviations from
  it, and the smallest and largest number;
- the moments of a block, computed in two passes, and the pairwise update that
  joins the moments of two disjoint blocks;
- the center and the variance, which a block whose values are all the same
  number has exactly, whatever rounding did to its mean.

A smallest or largest number is missing where no number was seen; such a block
is not constant.

Does not own: how a column is cut into blocks.
-/

set_option autoImplicit false

namespace Standardize

/-- The rows of a block of a long column. -/
def blockRows : Nat := 4096

/-- Partial moments of a block. -/
structure Moments (F : Type) where
  count : Nat
  mean : F
  m2 : F
  least? : Option F
  greatest? : Option F
deriving DecidableEq, Repr

namespace Moments

variable {T F : Type} [Arithmetic F]

def empty : Moments F :=
  ⟨0, 0, 0, none, none⟩

/-- The smallest number, above all others where none was seen. -/
def least [Unbounded F] (moments : Moments F) : F :=
  moments.least?.getD Unbounded.top

/-- The largest number, below all others where none was seen. -/
def greatest [Unbounded F] (moments : Moments F) : F :=
  moments.greatest?.getD Unbounded.bottom

/-- The joined moments of two blocks that both hold values. -/
def join (left right : Moments F) : Moments F :=
  let leftCount : F := Arithmetic.ofCount left.count
  let rightCount : F := Arithmetic.ofCount right.count
  let count := leftCount + rightCount
  let delta := right.mean - left.mean
  { count := left.count + right.count
    mean := left.mean + delta * rightCount / count
    m2 := left.m2 + right.m2 + delta * delta * leftCount * rightCount / count
    least? := Arithmetic.leastOf? left.least? right.least?
    greatest? := Arithmetic.greatestOf? left.greatest? right.greatest? }

def merge (left right : Moments F) : Moments F :=
  if left.count = 0 then right
  else if right.count = 0 then left
  else left.join right

/-- The moments of two disjoint blocks together, when their count is a size. -/
def merge? (left right : Moments F) : Option (Moments F) :=
  match Size.add? left.count right.count with
  | some _ => some (left.merge right)
  | none => none

/-- The block holds values and its smallest number equals its largest. -/
def isConstant (moments : Moments F) : Bool :=
  match moments.least?, moments.greatest? with
  | some low, some high => decide (0 < moments.count) && Arithmetic.eq low high
  | _, _ => false

/-- The mean, exact for a constant block. -/
def center (moments : Moments F) : F :=
  match moments.least? with
  | some low => if moments.isConstant then low else moments.mean
  | none => moments.mean

/-- The population variance; zero without values and for a constant block. -/
def variance (moments : Moments F) : F :=
  if moments.count = 0 ∨ moments.isConstant then 0
  else moments.m2 / Arithmetic.ofCount moments.count

variable [Element T F]

/-- The moments of a block: its mean, then the deviations from it. -/
def ofBlock (backend : Backend) (block : Array T) : Moments F :=
  if block.size = 0 then empty
  else
    let mean := backend.mean block
    { count := block.size
      mean := mean
      m2 := backend.sumSquaredDeviations block mean
      least? := block.foldl (fun seen value => Arithmetic.least? seen (Element.widen value)) none
      greatest? :=
        block.foldl (fun seen value => Arithmetic.greatest? seen (Element.widen value)) none }

def mergeAll (blocks : List (Moments F)) : Moments F :=
  blocks.foldl merge empty

/-- The moments of a column, cut into blocks of a length. -/
def ofColumn (backend : Backend) (column : Array T) (blockLength : Nat) : Moments F :=
  mergeAll ((chunks blockLength column).map (ofBlock backend))

end Moments

end Standardize
