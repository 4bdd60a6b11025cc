import Standardize.Arithmetic

/-!
Contract: aggregation in 64-bit floating point.

Owns:
- the cut of a 64-bit pattern into sign, exponent and fraction;
- the rounding of a number to a 32-bit integer;
- the instances that let the library run on `Float`.

Every operation is one IEEE operation rounded to nearest, and none is fused
with another.
-/

set_option autoImplicit false

namespace Standardize.Binary64

/-- The cut of a 64-bit pattern. -/
structure Fields where
  negative : Bool
  exponent : Nat
  fraction : Nat
deriving DecidableEq, Repr

def Fields.ofBits (bits : UInt64) : Fields where
  negative := bits >>> 63 != 0
  exponent := ((bits >>> 52) &&& 0x7ff).toNat
  fraction := (bits &&& 0xfffffffffffff).toNat

/-- The exponent of infinities and of what is not a number. -/
def specialExponent : Nat := 2047

/-- The whole significand: numbers above the subnormal range carry a leading
one that the fraction omits. -/
def Fields.significand (fields : Fields) : Nat :=
  if fields.exponent = 0 then fields.fraction else Nat.pow 2 52 + fields.fraction

/-- The magnitude of a finite number rounded to the nearest integer, halves
going up. From exponent 1075 on the number is an integer of at least `2 ^ 52`,
which no 32-bit integer reaches, and the significand stands for it. -/
def Fields.roundedMagnitude (fields : Fields) : Nat :=
  if 1075 ≤ fields.exponent then fields.significand
  else
    let shift := 1075 - max fields.exponent 1
    (fields.significand + Nat.pow 2 (shift - 1)) / Nat.pow 2 shift

/-- The nearest 32-bit integer, halves going away from zero; numbers beyond
the range go to its ends, and what is not a number to zero. -/
def Fields.nearestInt32 (fields : Fields) : Int :=
  if fields.exponent = specialExponent ∧ fields.fraction ≠ 0 then 0
  else if fields.negative then -(min fields.roundedMagnitude (Nat.pow 2 31) : Nat)
  else (min fields.roundedMagnitude (Nat.pow 2 31 - 1) : Nat)

def smaller (left right : Float) : Float :=
  if left.isNaN then right
  else if right.isNaN then left
  else if right < left then right
  else left

def larger (left right : Float) : Float :=
  if left.isNaN then right
  else if right.isNaN then left
  else if left < right then right
  else left

instance arithmetic : Arithmetic Float where
  zero := 0.0
  one := 1.0
  add := Float.add
  sub := Float.sub
  mul := Float.mul
  div := Float.div
  sqrt := Float.sqrt
  abs := Float.abs
  smaller := smaller
  larger := larger
  ofCount := Float.ofNat
  epsilon := Float.ofBits 0x3cb0000000000000
  isNaN := Float.isNaN
  lt := fun left right => left < right
  le := fun left right => left ≤ right
  eq := fun left right => left == right

instance element : Element Float Float where
  widen := id
  narrow := id
  zero := 0.0
  eq := fun left right => left == right
  isFinite := Float.isFinite
  name := "f64"
  byteSize := 8

instance integerStorage : IntegerStorage Float where
  ofInt32 := fun value => Float.ofInt value.toInt
  toInt32 := fun value => Int32.ofInt (Fields.ofBits value.toBits).nearestInt32

instance unbounded : Unbounded Float where
  top := Float.ofBits 0x7ff0000000000000
  bottom := Float.ofBits 0xfff0000000000000

end Standardize.Binary64
