import Standardize.Arithmetic

/-!
Contract: sums over a slice, in the order in which a processor takes them.

Owns:
- the plain order, from the first place to the last;
- the four-lane order: full groups of four are added lane by lane, the lanes
  are joined, and what is left over is added place by place.

Every value is taken through a `read`, which may act (in `M`) when a place is
read. Over the identity a reduction is its value; over a log it is the record
of the places read. Places are numbers below the length, so no reduction can
leave the slice.

Does not own: what is summed.
-/

set_option autoImplicit false

namespace Standardize.Reduction

variable {F : Type} [Arithmetic F] {M : Type → Type} [Monad M] {n : Nat}

/-- Add the values of `count` places from `start` on to a running total. -/
def addFrom
    (read : Fin n → M F)
    (start : Nat) :
    (count : Nat) → start + count ≤ n → F → M F
  | 0, _, total => pure total
  | count + 1, inside, total => do
      let value ← read ⟨start, by omega⟩
      addFrom read (start + 1) count (by omega) (total + value)

/-- The sum in the plain order, from zero. -/
def sequential (read : Fin n → M F) : M F :=
  addFrom read 0 n (by omega) 0

/-- Four running totals, one for each place of a group. -/
structure Lanes (F : Type) where
  first : F
  second : F
  third : F
  fourth : F
deriving DecidableEq, Repr

namespace Lanes

def zero : Lanes F :=
  ⟨0, 0, 0, 0⟩

def add (lanes : Lanes F) (first second third fourth : F) : Lanes F :=
  ⟨lanes.first + first, lanes.second + second, lanes.third + third, lanes.fourth + fourth⟩

/-- The upper half is added to the lower half, then the two sums to each other. -/
def total (lanes : Lanes F) : F :=
  (lanes.third + lanes.first) + (lanes.fourth + lanes.second)

end Lanes

/-- Add `groups` groups of four from `start` on, lane by lane. -/
def addGroups
    (read : Fin n → M F)
    (start : Nat) :
    (groups : Nat) → start + 4 * groups ≤ n → Lanes F → M (Lanes F)
  | 0, _, lanes => pure lanes
  | groups + 1, inside, lanes => do
      let first ← read ⟨start, by omega⟩
      let second ← read ⟨start + 1, by omega⟩
      let third ← read ⟨start + 2, by omega⟩
      let fourth ← read ⟨start + 3, by omega⟩
      addGroups read (start + 4) groups (by omega) (lanes.add first second third fourth)

/-- The sum in the four-lane order, from zero. -/
def fourLanes (read : Fin n → M F) : M F := do
  let lanes ← addGroups read 0 (n / 4) (by omega) Lanes.zero
  addFrom read (4 * (n / 4)) (n - 4 * (n / 4)) (by omega) lanes.total

end Standardize.Reduction
