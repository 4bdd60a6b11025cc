/-!
Contract: the operations that statistics are computed with.

Owns:
- `Arithmetic`, the aggregation numbers: four operations, square root,
  comparisons that answer `false` when an operand is not a number, and a
  smallest and largest that pass over such operands;
- `Element`, what a table or tensor holds: widened to an aggregation number
  before it is used, narrowed once when a result is stored;
- `IntegerStorage`, the exchange with 32-bit integers;
- `Unbounded`, the two infinities, needed only to show an empty range.

Does not own: laws. The library is written over these operations alone, so
that one text of an algorithm is read over 64-bit floating point, over exact
numbers, or over operations of which nothing is known.
-/

set_option autoImplicit false

namespace Standardize

/-- Numbers that sums, means and variances are computed in. -/
class Arithmetic (F : Type) extends Zero F, One F, Add F, Sub F, Mul F, Div F where
  sqrt : F → F
  abs : F → F
  /-- The smaller operand; an operand that is not a number is passed over. -/
  smaller : F → F → F
  /-- The larger operand; an operand that is not a number is passed over. -/
  larger : F → F → F
  /-- The number nearest to a count. -/
  ofCount : Nat → F
  /-- The distance from one to the next larger number. -/
  epsilon : F
  isNaN : F → Bool
  lt : F → F → Bool
  le : F → F → Bool
  eq : F → F → Bool

/-- Values that a table or tensor holds, aggregated as numbers of type `F`. -/
class Element (T : Type) (F : outParam Type) where
  /-- The value as an aggregation number. -/
  widen : T → F
  /-- The value that an aggregation number is stored as. -/
  narrow : F → T
  /-- What a fresh buffer is filled with. -/
  zero : T
  /-- Numeric equality, false when a side is not a number. -/
  eq : T → T → Bool
  isFinite : T → Bool
  name : String
  byteSize : Nat

/-- Numbers that 32-bit integers are read as and stored from. -/
class IntegerStorage (F : Type) where
  ofInt32 : Int32 → F
  /-- The nearest integer, halves going away from zero, clamped to the range;
  zero for what is not a number. -/
  toInt32 : F → Int32

/-- Numbers with a bound above and a bound below all others. -/
class Unbounded (F : Type) where
  top : F
  bottom : F

namespace Arithmetic

variable {F : Type} [Arithmetic F]

/-- The smallest number met so far, `none` before the first; a value that is
not a number leaves it as it is. -/
def least? (seen : Option F) (value : F) : Option F :=
  match seen with
  | some low => some (smaller low value)
  | none => if isNaN value then none else some value

/-- The largest number met so far, `none` before the first; a value that is
not a number leaves it as it is. -/
def greatest? (seen : Option F) (value : F) : Option F :=
  match seen with
  | some high => some (larger high value)
  | none => if isNaN value then none else some value

/-- The smaller of two smallest numbers, either of which may be missing. -/
def leastOf? : Option F → Option F → Option F
  | some left, some right => some (smaller left right)
  | some left, none => some left
  | none, right => right

/-- The larger of two largest numbers, either of which may be missing. -/
def greatestOf? : Option F → Option F → Option F
  | some left, some right => some (larger left right)
  | some left, none => some left
  | none, right => right

end Arithmetic

/-- Numeric equality of two buffers: equal lengths and equal values in order. -/
def elementsEqual
    {T F : Type}
    [Element T F]
    (left right : Array T) :
    Bool :=
  left.isEqv right Element.eq

end Standardize
