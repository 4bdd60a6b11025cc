/-!
Contract: 64-bit sizes.

Owns:
- the bound that every size, index and count of the library stays below;
- sums and products of sizes that are refused when they reach that bound;
- the left-to-right product of a list of sizes.

Does not own: what a refused size means to its caller.
-/

set_option autoImplicit false

namespace Standardize.Size

/-- Sizes are below this number. -/
def limit : Nat := Nat.pow 2 64

/-- A size is kept when it is below the limit. -/
def fit? (size : Nat) : Option Nat :=
  if size < limit then some size else none

def add? (left right : Nat) : Option Nat :=
  fit? (left + right)

def mul? (left right : Nat) : Option Nat :=
  fit? (left * right)

/-- The running product of sizes from the left, refused at the first partial
product that is not a size. -/
def productFrom? (acc : Nat) : List Nat → Option Nat
  | [] => some acc
  | size :: rest =>
      match mul? acc size with
      | some next => productFrom? next rest
      | none => none

/-- The product of sizes taken from the left, starting at one. -/
def product? (sizes : List Nat) : Option Nat :=
  productFrom? 1 sizes

theorem fit?_eq_some_iff {size result : Nat} :
    fit? size = some result ↔ size < limit ∧ result = size := by
  unfold fit?
  split
  · rename_i below
    exact ⟨fun same => ⟨below, (Option.some.inj same).symm⟩, fun same => by rw [same.2]⟩
  · rename_i above
    exact ⟨fun same => (nomatch same), fun same => absurd same.1 above⟩

theorem fit?_eq_none_iff {size : Nat} : fit? size = none ↔ limit ≤ size := by
  unfold fit?
  split
  · rename_i below
    exact ⟨fun same => (nomatch same), fun above => absurd below (Nat.not_lt.2 above)⟩
  · rename_i above
    exact ⟨fun _ => Nat.le_of_not_lt above, fun _ => rfl⟩

theorem add?_of_lt {left right : Nat} (below : left + right < limit) :
    add? left right = some (left + right) :=
  if_pos below

theorem mul?_of_lt {left right : Nat} (below : left * right < limit) :
    mul? left right = some (left * right) :=
  if_pos below

theorem mul?_eq_none_iff {left right : Nat} : mul? left right = none ↔ limit ≤ left * right :=
  fit?_eq_none_iff

end Standardize.Size
