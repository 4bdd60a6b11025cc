import Standardize.Arithmetic.Binary64

/-!
Contract: 32-bit floating-point elements, aggregated in 64 bits.

Owns:
- the cut of a 32-bit pattern and the exact pattern of the same number in 64
  bits (`widen`);
- the rounding of a 64-bit number to the nearest 32-bit one, ties to the even
  pattern (`narrow`);
- the instance that lets tables and tensors hold `Float32`.

Both conversions are written on bit patterns as natural numbers, where a
rounding that carries out of the fraction moves on to the next exponent by
itself.
-/

set_option autoImplicit false

namespace Standardize.Binary32

structure Fields where
  negative : Bool
  exponent : Nat
  fraction : Nat
deriving DecidableEq, Repr

def Fields.ofBits (bits : UInt32) : Fields where
  negative := bits >>> 31 != 0
  exponent := ((bits >>> 23) &&& 0xff).toNat
  fraction := (bits &&& 0x7fffff).toNat

def specialExponent : Nat := 255

/-- The 64-bit pattern of the same magnitude. A subnormal number is normal in
64 bits: its leading one moves out of the fraction. -/
def Fields.widenedMagnitude (fields : Fields) : Nat :=
  if fields.exponent = specialExponent then
    if fields.fraction = 0 then 0x7ff0000000000000 else 0x7ff8000000000000
  else if fields.exponent = 0 then
    if fields.fraction = 0 then 0
    else
      let lead := fields.fraction.log2
      (lead + 874) * Nat.pow 2 52 + (fields.fraction - Nat.pow 2 lead) * Nat.pow 2 (52 - lead)
  else (fields.exponent + 896) * Nat.pow 2 52 + fields.fraction * Nat.pow 2 29

/-- A quotient by a power of two rounded to nearest, ties to the even side. -/
def roundShift (value shift : Nat) : Nat :=
  let quotient := value / Nat.pow 2 shift
  let remainder := value % Nat.pow 2 shift
  if 2 * remainder > Nat.pow 2 shift then quotient + 1
  else if 2 * remainder = Nat.pow 2 shift then quotient + quotient % 2
  else quotient

def infinityMagnitude : Nat := 255 * Nat.pow 2 23

/-- The 32-bit pattern nearest to a magnitude in 64 bits. Below exponent 897
the result is subnormal and more of the significand is dropped. -/
def narrowedMagnitude (fields : Binary64.Fields) : Nat :=
  if fields.exponent = Binary64.specialExponent ∧ fields.fraction ≠ 0 then 0x7fc00000
  else
    min infinityMagnitude
      ((fields.exponent - 897) * Nat.pow 2 23 +
        roundShift (Nat.pow 2 52 + fields.fraction) (29 + (897 - fields.exponent)))

/-- The 64-bit number equal to a 32-bit one. -/
def widen (value : Float32) : Float :=
  let fields := Fields.ofBits value.toBits
  Float.ofBits
    (UInt64.ofNat (fields.widenedMagnitude + if fields.negative then Nat.pow 2 63 else 0))

/-- The 32-bit number nearest to a 64-bit one. -/
def narrow (value : Float) : Float32 :=
  let fields := Binary64.Fields.ofBits value.toBits
  Float32.ofBits
    (UInt32.ofNat (narrowedMagnitude fields + if fields.negative then Nat.pow 2 31 else 0))

instance element : Element Float32 Float where
  widen := widen
  narrow := narrow
  zero := 0.0
  eq := fun left right => left == right
  isFinite := Float32.isFinite
  name := "f32"
  byteSize := 4

end Standardize.Binary32
