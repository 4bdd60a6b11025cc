import Standardize.Proofs.Data
import Standardize.Proofs.Floating.Binary32

/-!
Contract: what is written for a column without variance.

Owns:
- a distance from the center, scaled by zero: zero where the distance is finite,
  and otherwise not a number;
- the cells of such a column, scanned or from given sums: those at a finite distance
  from the center are zero, and the others equal nothing;
- a column of infinities, which has no variance and is not written as zeros.

Does not own: which columns have no variance.
-/

set_option autoImplicit false

namespace Standardize

open Reference

variable {T τ : Type} [Element T Float] [TableShape τ] [TableAccess τ T]

/-! ## Cells -/

/-- A factor of zero leaves zero of what is at a finite distance, and of anything else
what equals nothing. -/
theorem standardizeValue_zero
    [LawfulElement T Float]
    (center : Float)
    (value : T) :
    if (Element.widen value - center).isFinite then
      Element.eq (standardizeValue center 0 value) Element.zero = true
    else ∀ other : T, Element.eq (standardizeValue center 0 value) other = false := by
  unfold standardizeValue
  rcases Binary64.mul_zero_cases (Element.widen value - center) with
    ⟨finite, zero⟩ | ⟨infinite, notANumber⟩
  · rw [if_pos finite]
    exact LawfulElement.narrow_eq_zero zero
  · rw [if_neg (Bool.eq_false_iff.1 infinite)]
    exact LawfulElement.narrow_ne notANumber

/-! ## Columns -/

variable [LawfulElement T Float] [TableView τ T] [LawfulView τ T]

/-- **Columns without variance.** Where a standardization scales and succeeds, a column
whose variance is zero, scanned or from given sums, is written as zeros wherever the
distance from its center is finite, and elsewhere as what equals nothing. -/
theorem zero_of_finite_distance
    (memory : Memory)
    (engine : Engine)
    (input : τ)
    (parameter : Parameter Float)
    (output written : Output T)
    (succeeded : compute memory engine input parameter output = (.ok (), written))
    (scaled : parameter.doScale = true) :
    ∃ statistics table, Statistics.compute T engine input parameter = .ok statistics ∧
      written.get? .normalizedData = some table ∧
      ∀ column center variance, statistics.means[column]? = some center →
        statistics.variances[column]? = some variance → Arithmetic.eq variance 0 = true →
          ∀ row < TableShape.rows input, ∃ value entry : T,
            TableView.cell? input row column = some value ∧
              table.get? row column = some entry ∧
              if (Element.widen value - center).isFinite then
                Element.eq entry Element.zero = true
              else ∀ other : T, Element.eq entry other = false := by
  have causeless := runFailure?_of_compute_eq_ok (LawfulView.regular input) succeeded
  obtain ⟨left, table, answered, held, standardizes⟩ := exists_standardizes causeless
  rw [succeeded] at answered
  cases answered
  refine ⟨_, table, statistics_of_runFailure?_eq_none causeless, held, ?_⟩
  intro column center variance centerEq varianceEq none row rowLt
  obtain ⟨columnLt, rfl⟩ := getElem?_map_range_eq_some_iff.1 centerEq
  obtain ⟨-, rfl⟩ := getElem?_map_range_eq_some_iff.1 varianceEq
  obtain ⟨value, valueEq, cell⟩ := standardizes.cell row rowLt column columnLt
  have factor : scale parameter (variance T engine input parameter column) = 0 :=
    scale_of_not_lt scaled (LawfulArithmetic.lt_of_eq_zero none)
  rw [factor] at cell
  exact ⟨value, _, valueEq, cell, standardizeValue_zero _ value⟩

/-- Given sums that say nothing of the data: a center of zero, from which one of the
values is infinitely far. -/
theorem zero_of_finite_distance_of_given_sums :
    let input : Dense Float32 := ⟨2, 1, #[1.5, 1 / 0], rfl⟩
    let parameter : Parameter Float := { method := .sumDense, sums := some ⟨#[0], #[0]⟩ }
    ∃ written table first second,
      compute Memory.unbounded (Engine.sequential .avx2) input parameter
          (SlotMap.empty : Output Float32) = (.ok (), written) ∧
        parameter.doScale = true ∧
        written.get? .normalizedData = some table ∧
        table.get? 0 0 = some first ∧ (first == 0) = true ∧
        table.get? 1 0 = some second ∧ (second == 0) = false := by
  intro input parameter
  have answer : (compute Memory.unbounded (Engine.sequential .avx2) input parameter
      (SlotMap.empty : Output Float32)).1.isOk = true := by
    decide +kernel
  have given : (Statistics.compute Float32 (Engine.sequential .avx2) input parameter).toOption =
      some ⟨#[0], #[0]⟩ := by
    decide +kernel
  rcases outcome : compute Memory.unbounded (Engine.sequential .avx2) input parameter
    (SlotMap.empty : Output Float32) with ⟨result, written⟩
  rw [outcome] at answer
  cases result with
  | error failure => cases answer
  | ok nothing =>
      obtain ⟨statistics, table, found, held, cells⟩ :=
        zero_of_finite_distance Memory.unbounded (Engine.sequential .avx2) input parameter
          SlotMap.empty written outcome rfl
      rw [found] at given
      cases given
      have column := cells 0 0 0 rfl rfl (by decide +kernel)
      obtain ⟨value, first, valueEq, firstEq, firstZero⟩ := column 0 (by decide)
      obtain ⟨other, second, otherEq, secondEq, secondNothing⟩ := column 1 (by decide)
      cases valueEq
      cases otherEq
      refine ⟨written, table, first, second, rfl, rfl, held, firstEq, ?_, secondEq, ?_⟩
      · rw [if_pos (by decide +kernel)] at firstZero
        exact firstZero
      · rw [if_neg (by decide +kernel)] at secondNothing
        exact secondNothing 0

/-- Two infinities are a constant column, so its variance is zero; their distance from
the center, which is infinite too, is not a number, and neither is what is written. -/
theorem zero_variance_of_infinities :
    let input : Dense Float := ⟨2, 1, #[1 / 0, 1 / 0], rfl⟩
    let parameter : Parameter Float := Parameter.standard
    let outcome : Except Error Unit × Output Float :=
      compute Memory.unbounded (Engine.sequential .scalar) input parameter SlotMap.empty
    parameter.doScale = true ∧ parameter.zeroVariance = .emitZero ∧
      (Statistics.compute Float (Engine.sequential .scalar) input parameter).toOption.map
          Statistics.variances = some #[0] ∧
      outcome.1.isOk = true ∧
      ((outcome.2.get? .normalizedData).bind fun table => table.get? 0 0).map
          (Arithmetic.eq · 0) = some false := by
  intro input parameter outcome
  exact ⟨rfl, rfl, by decide +kernel, by decide +kernel, by decide +kernel⟩

end Standardize
