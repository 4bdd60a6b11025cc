import Standardize.Arithmetic
import Standardize.Error
import Standardize.Size

/-!
Contract: fresh buffers.

Owns:
- `Memory`, which requests for bytes are granted;
- the order in which a request is judged: the number of elements must be a
  size, its bytes must not exceed the largest buffer, and the memory must
  grant them;
- buffers filled with the zero of their element type.

Does not own: what the buffer is for.
-/

set_option autoImplicit false

namespace Standardize

/-- Memory, as far as a request for a buffer can see it. -/
structure Memory where
  /-- Whether a request for so many bytes is granted. -/
  grants : Nat → Bool

namespace Memory

/-- The bytes that the largest buffer may take. -/
def largestBuffer : Nat := Nat.pow 2 63 - 1

def unbounded : Memory :=
  ⟨fun _ => true⟩

/-- A memory that grants less than a given number of bytes. -/
def below (bytes : Nat) : Memory :=
  ⟨fun requested => decide (requested < bytes)⟩

/-- The memory of the running machine: no address space holds `2 ^ 54` bytes. -/
def machine : Memory :=
  below (Nat.pow 2 54)

/-- Whether a buffer of `rows * cols` elements can be had, and if not, why. An
empty buffer takes no memory. -/
def reserve
    (memory : Memory)
    (element : String)
    (byteSize rows cols : Nat) :
    Except Error Nat :=
  match Size.mul? rows cols with
  | none => (Fault.allocation (.shapeOverflow rows cols)).raise
  | some count =>
      if largestBuffer < count * byteSize then
        (Fault.allocation (.beyondCapacity rows cols element)).raise
      else if count = 0 ∨ memory.grants (count * byteSize) then .ok count
      else (Fault.allocation (.refused rows cols element)).raise

def zeroed
    {F : Type}
    (memory : Memory)
    (T : Type)
    [Element T F]
    (rows cols : Nat) :
    Except Error (Array T) :=
  match memory.reserve (Element.name T) (Element.byteSize T) rows cols with
  | .ok count => .ok (Array.replicate count Element.zero)
  | .error error => .error error

private theorem reserve_eq_ok
    {memory : Memory}
    {element : String}
    {byteSize rows cols count : Nat}
    (granted : memory.reserve element byteSize rows cols = .ok count) :
    count = rows * cols := by
  unfold reserve at granted
  split at granted
  · simp [Fault.raise] at granted
  · rename_i product fits
    have productEq := (Size.fit?_eq_some_iff.1 fits).2
    split at granted
    · simp [Fault.raise] at granted
    · split at granted
      · simp_all
      · simp [Fault.raise] at granted

theorem size_of_zeroed
    {T F : Type}
    [Element T F]
    {memory : Memory}
    {rows cols : Nat}
    {buffer : Array T}
    (granted : memory.zeroed T rows cols = .ok buffer) :
    buffer.size = rows * cols := by
  unfold zeroed at granted
  split at granted
  · rename_i count reserved
    have countEq := reserve_eq_ok reserved
    cases granted
    simp [countEq]
  · cases granted

end Memory

end Standardize
