/-!
Contract: optional values under a small set of keys.

Owns:
- `SlotKey`, a key type numbered without repetition from zero to its count;
- `SlotMap`, one place for each number, empty or holding a value;
- the listing of a map in the order of its key numbers.

Does not own: which keys an algorithm uses.
-/

set_option autoImplicit false

namespace Standardize

/-- Keys numbered from zero to their count, no two alike. -/
class SlotKey (K : Type) where
  count : Nat
  index : K → Fin count
  index_injective : ∀ left right : K, index left = index right → left = right
  /-- The name of a key in messages and answers. -/
  name : K → String
  /-- The name of the key's constructor. -/
  tag : K → String

/-- A place for each key, empty or holding a value. -/
structure SlotMap (K V : Type) [SlotKey K] where
  slots : Vector (Option V) (SlotKey.count K)

namespace SlotMap

variable {K V : Type} [SlotKey K]

def empty : SlotMap K V :=
  ⟨Vector.replicate (SlotKey.count K) none⟩

def get? (map : SlotMap K V) (key : K) : Option V :=
  map.slots[SlotKey.index key]

/-- The map with the place of a key refilled. -/
def put (map : SlotMap K V) (key : K) (content : Option V) : SlotMap K V :=
  ⟨map.slots.set (SlotKey.index key) content⟩

def set (map : SlotMap K V) (key : K) (value : V) : SlotMap K V :=
  map.put key (some value)

def erase (map : SlotMap K V) (key : K) : SlotMap K V :=
  map.put key none

/-- Fill the place of a key; what was there before comes back. -/
def insert (map : SlotMap K V) (key : K) (value : V) : Option V × SlotMap K V :=
  (map.get? key, map.set key value)

/-- Empty the place of a key; what was there comes back. -/
def take (map : SlotMap K V) (key : K) : Option V × SlotMap K V :=
  (map.get? key, map.erase key)

def modify (map : SlotMap K V) (key : K) (change : V → V) : SlotMap K V :=
  match map.get? key with
  | some value => map.set key (change value)
  | none => map

def contains (map : SlotMap K V) (key : K) : Bool :=
  (map.get? key).isSome

def size (map : SlotMap K V) : Nat :=
  map.slots.toList.countP Option.isSome

def isEmpty (map : SlotMap K V) : Bool :=
  map.size == 0

/-- Two maps hold equal values at the same keys. -/
def equal (same : V → V → Bool) (left right : SlotMap K V) : Bool :=
  left.slots.isEqv right.slots fun
    | some a, some b => same a b
    | none, none => true
    | _, _ => false

/-- The filled places from the first number to the last. -/
def entries (map : SlotMap K V) : List (Nat × V) :=
  map.slots.toList.zipIdx.filterMap fun (content, index) =>
    content.map fun value => (index, value)

/-! ## Listings -/

def render (showValue : V → String) (map : SlotMap K V) : String :=
  "\x7b" ++ ", ".intercalate
    (map.entries.map fun (index, value) => toString index ++ ": " ++ showValue value) ++ "\x7d"

def renderLines (showValue : V → String) (map : SlotMap K V) : String :=
  match map.entries with
  | [] => "\x7b\x7d"
  | entries =>
      "\x7b\n" ++ String.join
        (entries.map fun (index, value) =>
          "    " ++ toString index ++ ": " ++ showValue value ++ ",\n") ++ "\x7d"

/-! ## One place at a time -/

@[simp]
theorem get?_empty (key : K) : (empty : SlotMap K V).get? key = none := by
  simp [empty, get?]

theorem get?_put (map : SlotMap K V) (key other : K) (content : Option V) :
    (map.put key content).get? other =
      if SlotKey.index key = SlotKey.index other then content else map.get? other := by
  simp only [put, get?, Fin.getElem_fin, Vector.getElem_set, Fin.val_inj]

@[simp]
theorem get?_put_self (map : SlotMap K V) (key : K) (content : Option V) :
    (map.put key content).get? key = content := by
  simp [get?_put]

theorem get?_put_of_ne
    (map : SlotMap K V)
    {key other : K}
    (distinct : key ≠ other)
    (content : Option V) :
    (map.put key content).get? other = map.get? other := by
  have indices : SlotKey.index key ≠ SlotKey.index other :=
    fun same => distinct (SlotKey.index_injective key other same)
  simp [get?_put, indices]

/-! ## Values that are changed in place -/

theorem modify_of_get?
    {map : SlotMap K V}
    {key : K}
    {value : V}
    (held : map.get? key = some value)
    (change : V → V) :
    map.modify key change = map.set key (change value) := by
  unfold modify
  rw [held]

@[simp]
theorem get?_modify_self (map : SlotMap K V) (key : K) (change : V → V) :
    (map.modify key change).get? key = (map.get? key).map change := by
  cases held : map.get? key with
  | none =>
      unfold modify
      rw [held]
      exact held
  | some value =>
      rw [modify_of_get? held, set, get?_put_self]
      rfl

/-- A value that does not change leaves its map as it is. -/
theorem modify_id (map : SlotMap K V) (key : K) : map.modify key id = map := by
  cases held : map.get? key with
  | none =>
      unfold modify
      rw [held]
  | some value =>
      rw [modify_of_get? held]
      unfold get? at held
      unfold set put
      rw [id_eq, ← held]
      exact congrArg SlotMap.mk (Vector.set_getElem_self _)

/-- What is set over a value that was changed stays, and nothing of the change. -/
theorem set_modify
    {map : SlotMap K V}
    {key : K}
    {value : V}
    (held : map.get? key = some value)
    (change : V → V)
    (later : V) :
    (map.modify key change).set key later = map.modify key fun _ => later := by
  rw [modify_of_get? held, modify_of_get? held]
  unfold set put
  rw [Vector.set_set]

end SlotMap

end Standardize
