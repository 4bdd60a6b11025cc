import Standardize.Proofs.Exact.Sum
import Standardize.Proofs.Reduction

/-!
Contract: without rounding, the backends cannot be told apart by their reductions.

Owns:
- a reduction together with the record of the places that it reads;
- sums, sums of squares, sums of squared deviations and means, which are the same on
  all backends, each found in one pass over the slice.

Does not own: the order of additions, which differs.
-/

set_option autoImplicit false

namespace Standardize

/-! ## Passes over a slice -/

namespace Backend

variable {T F : Type} [Arithmetic F]

/-- The sum over a slice, with the places that were read on the way. -/
def recordedSum (backend : Backend) (term : T → F) (data : Array T) : F × List Nat :=
  (backend.reduce (Reduction.recorded fun place => term (data.toVector.get place))).run []

/-- A sum is found in one pass. -/
theorem recordedSum_eq (backend : Backend) (term : T → F) (data : Array T) :
    backend.recordedSum term data = (backend.sumOf term data, List.range data.size) :=
  Reduction.run_reduce_recorded backend fun place => term (data.toVector.get place)

variable [Element T F]

/-- What a backend adds for the square of a value. -/
def squareTerm : Backend → T → F
  | scalar => square
  | avx2 => squaredDeviation 0

private theorem sumOfSquares_eq_sumOf (backend : Backend) (data : Array T) :
    backend.sumOfSquares data = backend.sumOf backend.squareTerm data := by
  cases backend <;> rfl

end Backend

namespace Exact

variable {K T : Type} [Field K] [LinearOrder K] [Rooted K] [Element T K]

/-- A squared distance from zero is a square. -/
private theorem squareTerm_eq (backend : Backend) (value : T) :
    backend.squareTerm value = (Element.widen value : K) ^ 2 := by
  cases backend with
  | scalar => exact (sq _).symm
  | avx2 =>
      change (Element.widen value - 0 : K) * (Element.widen value - 0) = _
      rw [sub_zero, sq]

private theorem sumOfSquares_eq_sum (backend : Backend) (data : Array T) :
    backend.sumOfSquares data =
      (data.toList.map fun value => (Element.widen value : K) ^ 2).sum := by
  rw [Backend.sumOfSquares_eq_sumOf, sumOf_eq_sum,
    List.map_congr_left fun value _ => squareTerm_eq backend value]

/-- **Backends agree.** Without rounding, the reductions of a slice of any length are the
same on all backends. On each of them a reduction reads the places of the slice, every
place once, and no others. -/
theorem reductions_agree (data : Array T) (center : K) :
    ((Backend.avx2.sum data : K) = Backend.scalar.sum data ∧
        (Backend.avx2.sumOfSquares data : K) = Backend.scalar.sumOfSquares data ∧
        Backend.avx2.sumSquaredDeviations data center =
          Backend.scalar.sumSquaredDeviations data center ∧
        (Backend.avx2.mean data : K) = Backend.scalar.mean data) ∧
      ∀ backend : Backend,
        backend.recordedSum Element.widen data = ((backend.sum data : K), List.range data.size) ∧
        backend.recordedSum backend.squareTerm data =
          ((backend.sumOfSquares data : K), List.range data.size) ∧
        backend.recordedSum (Backend.squaredDeviation center) data =
          (backend.sumSquaredDeviations data center, List.range data.size) := by
  refine ⟨⟨?_, ?_, ?_, ?_⟩, fun backend => ⟨?_, ?_, ?_⟩⟩
  · rw [sum_eq_sum, sum_eq_sum]
  · rw [sumOfSquares_eq_sum, sumOfSquares_eq_sum]
  · rw [sumSquaredDeviations_eq_sum, sumSquaredDeviations_eq_sum]
  · rw [mean_eq_sum, mean_eq_sum]
  · exact backend.recordedSum_eq Element.widen data
  · rw [backend.sumOfSquares_eq_sumOf]
    exact backend.recordedSum_eq backend.squareTerm data
  · exact backend.recordedSum_eq (Backend.squaredDeviation center) data

end Exact

end Standardize
