import Standardize.Proofs.ColumnByColumn
import Standardize.Proofs.Reproducible
import Standardize.Proofs.Store

/-!
Contract: what the choice of a backend can change.

Owns:
- standardization of a slice, which leaves the same on all backends, to the last bit;
- standardization of a table from given statistics, which leaves the same on all
  engines; with the same statistics, engines have the same outcome.

Does not own: the statistics, which differ by the order of additions. No law of
arithmetic is used.
-/

set_option autoImplicit false

namespace Standardize

open Reference

variable {T F τ ω : Type} [Arithmetic F] [Element T F]
variable [TableShape τ] [TableAccess τ T] [TableShape ω] [TableAccess ω T]

/-- From given statistics, all engines leave the same table and answer the same. -/
theorem normalizeInto_of_engine
    (left right : Engine)
    (input : τ)
    (statistics : Statistics F)
    (scales : Array F)
    (out : ω) :
    normalizeInto T left input statistics scales out =
      normalizeInto T right input statistics scales out := by
  cases fit : fitFailure? input statistics scales out with
  | some failure => rw [normalizeInto_of_unfit left fit, normalizeInto_of_unfit right fit]
  | none => rw [normalizeInto_of_fits left fit, normalizeInto_of_fits right fit]

/-- **Standardization does not show its backend.** Whatever the output slices held, all
backends leave the same in them, to the last bit: each place holds `(x - center) * scale`
of its own place. Each place is stored to once, and the memory around the slice stays as
it is. So engines differ in the tables that they write only by their statistics. -/
theorem standardizeInto_of_backend
    (data : Array T)
    (center scale : F) :
    (∀ out old : Vector T data.size,
        Backend.avx2.standardizeInto data center scale out =
          Backend.scalar.standardizeInto data center scale old) ∧
      (∀ (backend : Backend) (out : Vector T data.size) (place : Nat) (placeLt : place < data.size),
        (backend.standardizeInto data center scale out)[place] =
          Element.narrow ((Element.widen data[place] - center) * scale)) ∧
      (∀ (backend : Backend) (out : Vector T data.size),
        backend.storedPlaces data.size = List.finRange data.size ∧
          backend.standardizeInto data center scale out =
            Backend.storeAll (Backend.standardizedAt data center scale)
              (backend.storedPlaces data.size) out ∧
          ∀ before after : Array T,
            Backend.storeAllAt (Backend.standardizedAt data center scale)
                (backend.storedPlaces data.size) before.size (before ++ out.toArray ++ after) =
              before ++ (backend.standardizeInto data center scale out).toArray ++ after) ∧
      ∀ (left right : Engine) (input : τ),
        (∀ (statistics : Statistics F) (scales : Array F) (out : ω),
          normalizeInto T left input statistics scales out =
            normalizeInto T right input statistics scales out) ∧
        ∀ (parameter : Parameter F) (memory : Memory) (output : Output T),
          Statistics.computeValidated T left input parameter =
            Statistics.computeValidated T right input parameter →
          compute memory left input parameter output =
            compute memory right input parameter output := by
  refine ⟨fun out old => ?_, fun backend out place placeLt => ?_,
    fun backend out => ⟨?_, ?_, fun before after => ?_⟩,
    fun left right input => ⟨?_, fun parameter memory output sameStatistics => ?_⟩⟩
  · apply Vector.ext
    intro place placeLt
    rw [Backend.getElem_standardizeInto, Backend.getElem_standardizeInto]
  · exact backend.getElem_standardizeInto data center scale out placeLt
  · exact backend.storedPlaces_eq_finRange data.size
  · exact backend.standardizeInto_eq_storeAll data center scale out
  · rw [Backend.storeAllAt_append, ← Backend.standardizeInto_eq_storeAll]
  · exact normalizeInto_of_engine left right input
  · exact compute_of_steps sameStatistics (normalizeInto_of_engine left right input) memory output

/-- Sums that are given are the statistics of every engine, so a pool on four lanes writes
what one thread on one lane does. -/
theorem standardizeInto_of_backend_of_given_sums :
    let input : Dense Float32 := ⟨5, 1, #[1, 2, 3, 4, 7.5], rfl⟩
    let parameter : Parameter Float := { method := .sumDense, sums := some ⟨#[17.5], #[86.25]⟩ }
    let wide : Engine := ⟨.avx2, .pool 3 (by decide)⟩
    let narrow : Engine := Engine.sequential .scalar
    Statistics.computeValidated Float32 wide input parameter =
        Statistics.computeValidated Float32 narrow input parameter ∧
      compute Memory.unbounded wide input parameter (SlotMap.empty : Output Float32) =
        compute Memory.unbounded narrow input parameter (SlotMap.empty : Output Float32) := by
  intro input parameter wide narrow
  have sameStatistics :
      Statistics.computeValidated Float32 wide input parameter =
        Statistics.computeValidated Float32 narrow input parameter := rfl
  obtain ⟨-, -, -, engines⟩ :=
    standardizeInto_of_backend (ω := Dense Float32) (τ := Dense Float32) input.data (3.5 : Float) 2
  exact ⟨sameStatistics, (engines wide narrow input).2 parameter Memory.unbounded SlotMap.empty
    sameStatistics⟩

end Standardize
