import Mathlib.Algebra.Order.Field.Rat
import Mathlib.Algebra.Order.Group.Unbundled.Abs
import Mathlib.Data.Rat.Sqrt
import Standardize.Arithmetic

/-!
Contract: aggregation without rounding.

Owns:
- `Rooted`, the square root and the rounding unit, which an ordered field does
  not give by itself;
- the operations of an ordered field as aggregation numbers, and its numbers as
  elements that are neither widened nor narrowed;
- the smallest and the largest of several numbers, met one after the other.

Does not own: what is aggregated.
-/

set_option autoImplicit false

namespace Standardize

/-- What statistics take from outside of an ordered field. -/
class Rooted (K : Type) where
  /-- The square root. -/
  root : K → K
  /-- The distance from one to the next larger number. -/
  unit : K

namespace Exact

variable {K : Type} [Field K] [LinearOrder K]

instance arithmetic [Rooted K] : Arithmetic K where
  sqrt := Rooted.root
  abs := fun number => |number|
  smaller := min
  larger := max
  ofCount := fun count => (count : K)
  epsilon := Rooted.unit
  isNaN := fun _ => false
  lt := fun left right => decide (left < right)
  le := fun left right => decide (left ≤ right)
  eq := fun left right => decide (left = right)

instance element : Element K K where
  widen := id
  narrow := id
  zero := 0
  eq := fun left right => decide (left = right)
  isFinite := fun _ => true
  name := "number"
  byteSize := 8

/-- Rational numbers, with the root of what is a square. -/
instance : Rooted Rat where
  root := Rat.sqrt
  unit := 0

variable [Rooted K]

@[simp]
theorem ofCount_eq (count : Nat) : (Arithmetic.ofCount count : K) = count :=
  rfl

/-! ## Smallest and largest -/

omit [Field K] [LinearOrder K] [Rooted K] in
/-- An associative operation over two lists joins what it makes of each. -/
private theorem foldl_append_cons
    (operation : K → K → K)
    [Std.Associative operation]
    (first second : K)
    (left right : List K) :
    (left ++ second :: right).foldl operation first =
      operation (left.foldl operation first) (right.foldl operation second) := by
  rw [List.foldl_append, List.foldl_cons, List.foldl_assoc]

omit [Field K] [LinearOrder K] [Rooted K] in
/-- Once a number was met, the others are taken up by the operation alone. -/
private theorem foldl_met
    {operation : K → K → K}
    {meet : Option K → K → Option K}
    (next : ∀ seen number, meet (some seen) number = some (operation seen number))
    (first : K)
    (rest : List K) :
    rest.foldl meet (some first) = some (rest.foldl operation first) := by
  induction rest generalizing first with
  | nil => rfl
  | cons number rest inductionHypothesis =>
      rw [List.foldl_cons, List.foldl_cons, next, inductionHypothesis]

theorem leastOf?_min? (left right : List K) :
    Arithmetic.leastOf? left.min? right.min? = (left ++ right).min? := by
  cases left with
  | nil => cases right <;> rfl
  | cons first left =>
      cases right with
      | nil =>
          rw [List.append_nil]
          rfl
      | cons second right =>
          rw [List.cons_append, List.min?_cons', List.min?_cons', List.min?_cons',
            foldl_append_cons]
          rfl

theorem greatestOf?_max? (left right : List K) :
    Arithmetic.greatestOf? left.max? right.max? = (left ++ right).max? := by
  cases left with
  | nil => cases right <;> rfl
  | cons first left =>
      cases right with
      | nil =>
          rw [List.append_nil]
          rfl
      | cons second right =>
          rw [List.cons_append, List.max?_cons', List.max?_cons', List.max?_cons',
            foldl_append_cons]
          rfl

/-- One number after the other, the smallest met is the smallest of the list. -/
theorem foldl_least? (numbers : List K) :
    numbers.foldl Arithmetic.least? none = numbers.min? := by
  cases numbers with
  | nil => rfl
  | cons first rest => exact foldl_met (fun _ _ => rfl) first rest

theorem foldl_greatest? (numbers : List K) :
    numbers.foldl Arithmetic.greatest? none = numbers.max? := by
  cases numbers with
  | nil => rfl
  | cons first rest => exact foldl_met (fun _ _ => rfl) first rest

end Exact

end Standardize
