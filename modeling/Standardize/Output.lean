import Standardize.Parameter
import Standardize.Slots
import Standardize.Statistics
import Standardize.Table.Dense

/-!
Contract: the tables that a standardization leaves.

Owns:
- `OutputSlot` and `Output`, the places for the standardized data, the means
  and the variances;
- the allocation of the places that are asked for: a table that is already
  there is used when it has the shape, and a place that is not asked for is
  emptied;
- statistics written into the places that are there.

Does not own: the order in which they are computed.
-/

set_option autoImplicit false

namespace Standardize

/-- What a standardization can leave. -/
inductive OutputSlot where
  | normalizedData
  | means
  | variances
deriving DecidableEq, Repr

namespace OutputSlot

def name : OutputSlot → String
  | normalizedData => "normalizedData"
  | means => "means"
  | variances => "variances"

def ofName? (text : String) : Option OutputSlot :=
  [normalizedData, means, variances].find? (·.name == text)

def tag : OutputSlot → String
  | normalizedData => "NormalizedData"
  | means => "Means"
  | variances => "Variances"

def index : OutputSlot → Fin 3
  | normalizedData => 0
  | means => 1
  | variances => 2

instance : SlotKey OutputSlot where
  count := 3
  index := index
  index_injective := by
    intro left right same
    cases left <;> cases right <;> simp_all [index]
  name := name
  tag := tag

end OutputSlot

/-- The tables that a standardization leaves, each in its place. -/
abbrev Output (T : Type) :=
  SlotMap OutputSlot (Dense T)

namespace Output

variable {T F : Type} [Element T F]

/-- A table of a shape in a place: the one that is there, or a fresh one. -/
def ensure
    (memory : Memory)
    (output : Output T)
    (slot : OutputSlot)
    (rows cols : Nat) :
    Except Error (Output T) :=
  match output.get? slot with
  | some table =>
      if table.rows = rows ∧ table.cols = cols then .ok output
      else
        (Fault.allocation
          (.registeredShape slot.name table.rows table.cols rows cols)).raise
  | none =>
      match (Dense.zeros memory rows cols : Except Error (Dense T)) with
      | .ok table => .ok (output.set slot table)
      | .error error => .error error

/-- The places for statistics, with the flag that asks for each. -/
def statisticSlots : List (ResultSet × OutputSlot) :=
  [(.mean, .means), (.variance, .variances)]

/-- Provide the places that are asked for and empty the others, up to the first
that cannot be provided. -/
def allocateSlots
    (memory : Memory)
    (cols : Nat)
    (parameter : Parameter F)
    (output : Output T) :
    List (ResultSet × OutputSlot) → Except Error Unit × Output T
  | [] => (.ok (), output)
  | (flag, slot) :: rest =>
      if parameter.wants flag then
        match ensure memory output slot 1 cols with
        | .ok next => allocateSlots memory cols parameter next rest
        | .error error => (.error error, output)
      else allocateSlots memory cols parameter (output.erase slot) rest

/-- Provide all places for a table of a shape. -/
def allocate
    (memory : Memory)
    (output : Output T)
    (rows cols : Nat)
    (parameter : Parameter F) :
    Except Error Unit × Output T :=
  match ensure memory output .normalizedData rows cols with
  | .ok next => allocateSlots memory cols parameter next statisticSlots
  | .error error => (.error error, output)

/-- Numbers written into a table of one row, from a column on. -/
def fillRow
    (table : Dense T)
    (column : Nat) :
    List F → Except Error (Dense T)
  | [] => .ok table
  | number :: rest =>
      match table.writeColumn column #[Element.narrow number] with
      | (.ok _, next) => fillRow next (column + 1) rest
      | (.error error, _) => .error error

/-- Numbers written into a place, if it is filled. -/
def writeRow
    (output : Output T)
    (slot : OutputSlot)
    (numbers : Array F) :
    Except Error (Output T) :=
  match output.get? slot with
  | none => .ok output
  | some table =>
      match fillRow table 0 numbers.toList with
      | .ok filled => .ok (output.set slot filled)
      | .error error => .error error

/-- Means and variances written into their places, where those are filled. -/
def writeStatistics
    (output : Output T)
    (statistics : Statistics F) :
    Except Error (Output T) :=
  match output.writeRow .means statistics.means with
  | .ok next => next.writeRow .variances statistics.variances
  | .error error => .error error

def equal (left right : Output T) : Bool :=
  SlotMap.equal Dense.equal left right

end Output

end Standardize
