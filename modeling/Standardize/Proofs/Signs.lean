import Standardize.Proofs.Floating.Roots
import Standardize.Proofs.Reduction
import Standardize.Proofs.Validation

/-!
Contract: variances are not below zero, and scales are finite.

Owns:
- the sum of squared deviations of a block and of merged blocks, which no order of
  additions and no cut into blocks takes below zero;
- the variances of a table, scanned or from given sums, in 64-bit floating point;
- the scales for any variances.

Does not own: the values of variances.
-/

set_option autoImplicit false

namespace Standardize

open Arithmetic Reference

/-! ## Merged blocks -/

section Blocks

variable {T F : Type} [Arithmetic F] [LawfulSigns F] [Element T F]

theorem Backend.nonNegative_sumSquaredDeviations
    (backend : Backend)
    (data : Array T)
    (center : F) :
    NonNegative (backend.sumSquaredDeviations data center) :=
  Reduction.reduce_of_closed LawfulSigns.add backend LawfulSigns.zero fun _ =>
    LawfulSigns.mul_self _

namespace Moments

private theorem nonNegative_ofBlock (backend : Backend) (block : Array T) :
    NonNegative (Moments.ofBlock backend block).m2 := by
  unfold Moments.ofBlock
  split
  · exact LawfulSigns.zero
  · exact backend.nonNegative_sumSquaredDeviations block _

/-- The square of the distance between two means is weighed by counts, and divided by a
count. -/
theorem nonNegative_merge
    {left right : Moments F}
    (leftNonNegative : NonNegative left.m2)
    (rightNonNegative : NonNegative right.m2) :
    NonNegative (left.merge right).m2 := by
  unfold merge
  split
  · exact rightNonNegative
  · split
    · exact leftNonNegative
    · have leftSome : 0 < left.count := Nat.pos_of_ne_zero ‹_›
      have rightSome : 0 < right.count := Nat.pos_of_ne_zero ‹_›
      have leftCount : NonNegative (ofCount left.count : F) :=
        LawfulSigns.of_lt (LawfulSigns.lt_ofCount leftSome)
      have rightCount : NonNegative (ofCount right.count : F) :=
        LawfulSigns.of_lt (LawfulSigns.lt_ofCount rightSome)
      have between := LawfulSigns.mul_self (right.mean - left.mean)
      exact LawfulSigns.add (LawfulSigns.add leftNonNegative rightNonNegative)
        (LawfulSigns.div (LawfulSigns.mul (LawfulSigns.mul between leftCount) rightCount)
          (LawfulSigns.lt_ofCount_add leftSome rightSome))

private theorem nonNegative_mergeAll
    {blocks : List (Moments F)}
    (nonNegative : ∀ block ∈ blocks, NonNegative block.m2) :
    NonNegative (mergeAll blocks).m2 := by
  have joined (before : Moments F) (start : NonNegative before.m2) :
      NonNegative (blocks.foldl merge before).m2 := by
    induction blocks generalizing before with
    | nil => exact start
    | cons block rest inductionHypothesis =>
        rw [List.forall_mem_cons] at nonNegative
        exact inductionHypothesis nonNegative.2 _ (nonNegative_merge start nonNegative.1)
  exact joined empty LawfulSigns.zero

theorem nonNegative_variance {moments : Moments F} (nonNegative : NonNegative moments.m2) :
    NonNegative moments.variance := by
  unfold variance
  split
  · exact LawfulSigns.zero
  · rename_i some
    have count : 0 < moments.count := Nat.pos_of_ne_zero fun none => some (.inl none)
    exact LawfulSigns.div nonNegative (LawfulSigns.lt_ofCount count)

/-- **No cut into blocks makes a negative variance.** -/
theorem nonNegative_variance_mergeAll (backend : Backend) (blocks : List (Array T)) :
    NonNegative (mergeAll (blocks.map (Moments.ofBlock backend)) : Moments F).variance := by
  apply nonNegative_variance
  apply nonNegative_mergeAll
  rw [List.forall_mem_map]
  exact fun block _ => nonNegative_ofBlock backend block

end Moments

end Blocks

/-! ## Tables -/

variable {T τ : Type} [Element T Float] [TableShape τ] [TableAccess τ T]

theorem nonNegative_variance
    (engine : Engine)
    {input : τ}
    (rowsSome : TableShape.rows input ≠ 0)
    (parameter : Parameter Float)
    (column : Nat) :
    NonNegative (variance T engine input parameter column) := by
  unfold variance
  cases parameter.method with
  | defaultDense => exact Moments.nonNegative_variance_mergeAll _ _
  | sumDense =>
      have rows := LawfulSigns.lt_ofCount (F := Float) (Nat.pos_of_ne_zero rowsSome)
      unfold summed
      dsimp only
      split
      · exact LawfulSigns.zero
      · exact Binary64.nonNegative_ofSum rows _ _

private theorem nonNegative_of_compute
    {engine : Engine}
    {input : τ}
    {parameter : Parameter Float}
    {statistics : Statistics Float}
    (computed : Statistics.compute T engine input parameter = .ok statistics) :
    ∀ variance ∈ statistics.variances, NonNegative variance := by
  rw [statistics_eq_settle, settle_eq_ok_iff] at computed
  obtain ⟨causeless, rfl⟩ := computed
  rw [Option.orElse_eq_orElse, Option.orElse_eq_or, Option.or_eq_none_iff] at causeless
  have rowsSome : TableShape.rows input ≠ 0 := by
    intro noRows
    have empty := causeless.1
    unfold emptyFailure? at empty
    rw [if_pos (.inl noRows)] at empty
    cases empty
  intro entry member
  obtain ⟨column, -, rfl⟩ := Array.mem_map.1 member
  exact nonNegative_variance engine rowsSome parameter column

/-! ## Scales -/

private theorem scale_finite
    {parameter : Parameter Float}
    (scaled : parameter.doScale = true)
    (variance : Float) :
    (scale parameter variance).isFinite = true ∧ le 0 (scale parameter variance) = true := by
  unfold scale
  rw [if_pos scaled]
  split
  · exact Binary64.reciprocal_root ‹_›
  · exact ⟨by decide +kernel, by decide +kernel⟩

private theorem scale_of_inverseScales
    {statistics : Statistics Float}
    {parameter : Parameter Float}
    {scales : Array Float}
    (scaled : parameter.doScale = true)
    (computed : inverseScales statistics parameter = .ok scales) :
    ∀ scale ∈ scales, scale.isFinite = true ∧ le 0 scale = true := by
  unfold inverseScales at computed
  rw [if_pos scaled] at computed
  cases found : inverseScalesFrom parameter.zeroVariance 0 statistics.variances.toList with
  | error failure =>
      rw [found] at computed
      cases computed
  | ok factors =>
      rw [found] at computed
      cases computed
      rw [inverseScalesFrom_eq_settle scaled, settle_eq_ok_iff] at found
      intro factor member
      rw [List.mem_toArray, ← found.2] at member
      obtain ⟨⟨variance, column⟩, -, rfl⟩ := List.mem_map.1 member
      exact scale_finite scaled variance

/-- **Signs survive rounding.** In 64-bit floating point, each variance of a table is zero,
above it or not a number, on any engine, scanned or from given sums, and so is that of a
column in whatever blocks it is taken. Whatever the variances are, scales are finite and
not below zero. -/
theorem nonNegative_statistics :
    (∀ (engine : Engine) (input : τ) (parameter : Parameter Float) (statistics : Statistics Float),
        Statistics.compute T engine input parameter = .ok statistics →
          ∀ variance ∈ statistics.variances, NonNegative variance) ∧
      (∀ (backend : Backend) (blocks : List (Array T)),
        NonNegative (Moments.mergeAll (blocks.map (Moments.ofBlock backend))).variance) ∧
      ∀ (statistics : Statistics Float) (parameter : Parameter Float) (scales : Array Float),
        parameter.doScale = true → inverseScales statistics parameter = .ok scales →
          ∀ scale ∈ scales, scale.isFinite = true ∧ le 0 scale = true :=
  ⟨fun _ _ _ _ computed => nonNegative_of_compute computed,
    Moments.nonNegative_variance_mergeAll,
    fun _ _ _ scaled computed => scale_of_inverseScales scaled computed⟩

/-- Sums that no column has: a negative sum of squares, an infinite sum, and one that
leaves a variance. -/
theorem nonNegative_statistics_of_inconsistent_sums :
    let input : Dense Float32 := ⟨2, 3, #[1, 2, 3, 4, 5, 6], rfl⟩
    let parameter : Parameter Float :=
      { method := .sumDense, sums := some ⟨#[4, 1 / 0, 2], #[-5, 7, 11]⟩ }
    ∃ statistics scales,
      Statistics.compute Float32 (Engine.sequential .avx2) input parameter = .ok statistics ∧
        parameter.doScale = true ∧ inverseScales statistics parameter = .ok scales ∧
        (∀ variance ∈ statistics.variances, NonNegative variance) ∧
        ∀ scale ∈ scales, scale.isFinite = true ∧ le 0 scale = true := by
  intro input parameter
  have answer : (Statistics.compute Float32 (Engine.sequential .avx2) input parameter >>=
      fun statistics => inverseScales statistics parameter).isOk = true := by
    decide +kernel
  obtain ⟨variances, -, scales⟩ := nonNegative_statistics (T := Float32) (τ := Dense Float32)
  cases computed : Statistics.compute Float32 (Engine.sequential .avx2) input parameter with
  | error failure =>
      rw [computed] at answer
      cases answer
  | ok statistics =>
      rw [computed] at answer
      cases found : inverseScales statistics parameter with
      | error failure =>
          change (inverseScales statistics parameter).isOk = true at answer
          rw [found] at answer
          cases answer
      | ok factors =>
          exact ⟨statistics, factors, rfl, rfl, found,
            variances _ input parameter statistics computed,
            scales statistics parameter factors rfl found⟩

end Standardize
