import Standardize.Proofs.Exact.Field
import Standardize.Proofs.Reduction

/-!
Contract: without rounding, the order of a sum does not matter.

Owns:
- the sum over all places, which is that of the plain order and of the four-lane order;
- sums, sums of squared deviations and means of a slice, on any backend.

Does not own: what is summed, nor which places are read on the way.
-/

set_option autoImplicit false

namespace Standardize.Exact

open Finset

variable {K T : Type} [Field K] [LinearOrder K] [Rooted K]

/-- **No order of a backend changes a sum.** -/
theorem reduce_eq_sum
    {n : Nat}
    (backend : Backend)
    (term : Fin n → K) :
    backend.reduce (M := Id) (fun place => pure (term place)) = ∑ place, term place := by
  apply Reduction.reduce_of_weights fun (weight total : K) => total = weight
  · intro leftWeight rightWeight left right leftEq rightEq
    rw [leftEq, rightEq]
  · rfl
  · exact fun place => rfl

/-! ## Slices -/

theorem sumOf_eq_sum (backend : Backend) (term : T → K) (data : Array T) :
    backend.sumOf term data = (data.toList.map term).sum := by
  unfold Backend.sumOf
  rw [reduce_eq_sum, ← Fin.sum_univ_fun_getElem]
  rfl

variable [Element T K]

theorem sum_eq_sum (backend : Backend) (data : Array T) :
    backend.sum data = (data.toList.map Element.widen).sum :=
  sumOf_eq_sum backend Element.widen data

theorem sumSquaredDeviations_eq_sum
    (backend : Backend)
    (data : Array T)
    (center : K) :
    backend.sumSquaredDeviations data center =
      ((data.toList.map Element.widen).map fun number => (number - center) ^ 2).sum := by
  rw [List.map_map]
  refine (sumOf_eq_sum backend _ data).trans ?_
  congr 2
  funext value
  exact (sq _).symm

theorem mean_eq_sum (backend : Backend) (data : Array T) :
    backend.mean data = (data.toList.map Element.widen).sum / data.size := by
  unfold Backend.mean
  rw [sum_eq_sum]
  split
  · rename_i none
    rw [none, Nat.cast_zero, div_zero]
  · rfl

end Standardize.Exact
