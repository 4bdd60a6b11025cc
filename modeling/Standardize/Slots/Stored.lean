import Standardize.Slots

/-!
Contract: slot maps in use, and their places as they are stored.

Owns:
- what can be done with one map, and commands to several maps, each called by its number;
- `MapKind`, how maps of one kind are made, used and compared, and what maps of a kind reply
  to commands in order;
- slot maps as such a kind, and `StoredSlots`, places of which nothing in the data says how
  many there are. A place is looked up there by the number of its key.

An access to a place that there is not has no reply.

Does not own: why there always is a place.
-/

set_option autoImplicit false

namespace Standardize

namespace SlotMap

variable {K V M : Type}

/-! ## Commands -/

/-- What can be done with one map. A value is changed in its place by any function. -/
inductive Action (K V : Type) where
  | get (key : K)
  | contains (key : K)
  | size
  | isEmpty
  | insert (key : K) (value : V)
  | modify (key : K) (change : V → V)
  | take (key : K)
  | clear

/-- A command to maps that are numbered in the order in which they were made. -/
inductive Command (K V : Type) where
  | create
  | copy (number : Nat)
  | equal (left right : Nat)
  | act (number : Nat) (action : Action K V)

inductive Reply (V : Type) where
  /-- No map has the number. -/
  | unknown
  | done
  | content (held : Option V)
  | truth (holds : Bool)
  | count (size : Nat)

/-- How maps of one kind are made, used and compared. -/
structure MapKind (K V M : Type) where
  empty : M
  act? : M → Action K V → Option (Reply V × M)
  equal : M → M → Bool

namespace MapKind

/-- Reply to one command. -/
def step? (kind : MapKind K V M) (maps : List M) : Command K V → Option (Reply V × List M)
  | .create => some (.done, maps ++ [kind.empty])
  | .copy number =>
      match maps[number]? with
      | some map => some (.done, maps ++ [map])
      | none => some (.unknown, maps)
  | .equal left right =>
      match maps[left]?, maps[right]? with
      | some first, some second => some (.truth (kind.equal first second), maps)
      | _, _ => some (.unknown, maps)
  | .act number action =>
      match maps[number]? with
      | some map => (kind.act? map action).map fun (reply, next) => (reply, maps.set number next)
      | none => some (.unknown, maps)

/-- The replies to commands in order, and the maps that they leave. -/
def run? (kind : MapKind K V M) (maps : List M) :
    List (Command K V) → Option (List (Reply V) × List M)
  | [] => some ([], maps)
  | command :: rest => do
      let (reply, next) ← kind.step? maps command
      let (replies, last) ← kind.run? next rest
      return (reply :: replies, last)

end MapKind

/-! ## Slot maps -/

variable [SlotKey K]

def act (map : SlotMap K V) : Action K V → Reply V × SlotMap K V
  | .get key => (.content (map.get? key), map)
  | .contains key => (.truth (map.contains key), map)
  | .size => (.count map.size, map)
  | .isEmpty => (.truth map.isEmpty, map)
  | .insert key value => (.content (map.insert key value).1, (map.insert key value).2)
  | .modify key change => (.content ((map.modify key change).get? key), map.modify key change)
  | .take key => (.content (map.take key).1, (map.take key).2)
  | .clear => (.done, empty)

/-- Slot maps, with values compared by a function. -/
def kind (same : V → V → Bool) : MapKind K V (SlotMap K V) where
  empty := empty
  act? := fun map action => some (map.act action)
  equal := equal same

end SlotMap

/-! ## Stored places -/

/-- Two places are both empty or hold values that are the same. -/
def contentsEqual {V : Type} (same : V → V → Bool) : Option V → Option V → Bool
  | some left, some right => same left right
  | none, none => true
  | _, _ => false

/-- The places of a map, as many as there are. -/
structure StoredSlots (V : Type) where
  places : Array (Option V)

namespace StoredSlots

variable {K V : Type}

def empty (count : Nat) : StoredSlots V :=
  ⟨((List.range count).map fun _ => none).toArray⟩

/-- Refill a place; what was there comes back. -/
def replace? (slots : StoredSlots V) (place : Nat) (content : Option V) :
    Option (Option V × StoredSlots V) :=
  slots.places[place]?.map fun held => (held, ⟨slots.places.setIfInBounds place content⟩)

/-- Change the value in a place, if there is one in it; what it is then comes back. -/
def modify? (slots : StoredSlots V) (place : Nat) (change : V → V) :
    Option (Option V × StoredSlots V) :=
  slots.places[place]?.map fun
    | some value => (some (change value), ⟨slots.places.setIfInBounds place (some (change value))⟩)
    | none => (none, slots)

def size (slots : StoredSlots V) : Nat :=
  slots.places.toList.countP Option.isSome

def clear (slots : StoredSlots V) : StoredSlots V :=
  ⟨slots.places.map fun _ => none⟩

/-- Two stored maps have as many places, with the same in each. -/
def equal (same : V → V → Bool) (left right : StoredSlots V) : Bool :=
  left.places.isEqv right.places (contentsEqual same)

variable [SlotKey K]

/-- An action carried out on the stored places, each looked up by the number of its key. -/
def act? (slots : StoredSlots V) : SlotMap.Action K V → Option (SlotMap.Reply V × StoredSlots V)
  | .get key => slots.places[(SlotKey.index key).val]?.map fun held => (.content held, slots)
  | .contains key =>
      slots.places[(SlotKey.index key).val]?.map fun held => (.truth held.isSome, slots)
  | .size => some (.count slots.size, slots)
  | .isEmpty => some (.truth (slots.size == 0), slots)
  | .insert key value =>
      (slots.replace? (SlotKey.index key).val (some value)).map fun (held, next) =>
        (.content held, next)
  | .modify key change =>
      (slots.modify? (SlotKey.index key).val change).map fun (changed, next) =>
        (.content changed, next)
  | .take key =>
      (slots.replace? (SlotKey.index key).val none).map fun (held, next) => (.content held, next)
  | .clear => some (.done, slots.clear)

/-- Stored places as a kind of maps from keys. -/
def kind (K : Type) [SlotKey K] (same : V → V → Bool) : SlotMap.MapKind K V (StoredSlots V) where
  empty := empty (SlotKey.count K)
  act? := act?
  equal := equal same

end StoredSlots

/-- The same places, without what is known of their number. -/
def SlotMap.stored {K V : Type} [SlotKey K] (map : SlotMap K V) : StoredSlots V :=
  ⟨map.slots.toArray⟩

end Standardize
