import Standardize.Proofs.Strategy

/-!
Contract: when the way of running does not show in a single bit.

Owns:
- the block length of a pool against that of one thread, which agree exactly
  from a number of columns or a number of rows on;
- each step of a standardization on two engines that take the same blocks, and
  the standardization as a whole.

Does not own: what changes where the blocks differ. No law of arithmetic is
used: the two runs perform the same operations on the same operands.
-/

set_option autoImplicit false

namespace Standardize

open Reference

/-! ## Blocks of a pool -/

section Blocks

variable (backend : Backend) {threads : Nat} (positive : 0 < threads)

/-- Also for no items at all, which make no block but count as one. -/
private theorem chunkSize_pool (items : Nat) :
    Engine.chunkSize ⟨backend, .pool threads positive⟩ items =
      max (chunkCount items (threads * 4)) 1 := by
  change (if (!true || items == 0) = true then max items 1
    else max (chunkCount items (threads * 4)) 1) = _
  by_cases none : items = 0
  · have noBlock : chunkCount 0 (threads * 4) = 0 := Nat.div_eq_of_lt (by omega)
    subst none
    rw [noBlock]
    rfl
  · have some : (!true || items == 0) = false := by simpa using none
    rw [some]
    rfl

/-- A pool's share of the rows is a whole block from one row past `4095` for each
of the four blocks of a thread. -/
theorem blockRows_le_chunkSize_pool_iff (rows : Nat) :
    blockRows ≤ Engine.chunkSize ⟨backend, .pool threads positive⟩ rows ↔
      4 * threads * 4095 < rows := by
  have share : 0 < threads * 4 := by omega
  have rounded : blockRows ≤ chunkCount rows (threads * 4) ↔
      blockRows * (threads * 4) ≤ rows + threads * 4 - 1 :=
    Nat.le_div_iff_mul_le share
  rw [chunkSize_pool]
  unfold blockRows at rounded ⊢
  constructor
  · intro whole
    have reached := rounded.1 (by omega)
    omega
  · intro long
    have reached := rounded.2 (by omega)
    omega

/-- **Where blocks agree.** A pool takes the columns of a table in the blocks of
one thread exactly if it has no more threads than there are columns, or the rows
reach past its limit. -/
theorem blockLength_pool_eq_iff
    (rows : Nat)
    {cols : Nat}
    (some : cols ≠ 0) :
    blockLength ⟨backend, .pool threads positive⟩ rows cols =
        blockLength (Engine.sequential backend) rows cols ↔
      threads ≤ cols ∨ 4 * threads * 4095 < rows := by
  rw [blockLength_sequential backend rows some,
    ← blockRows_le_chunkSize_pool_iff backend positive]
  unfold blockLength
  change (if threads ≤ cols then _ else _) = _ ↔ _
  by_cases wide : threads ≤ cols
  · rw [if_pos wide]
    simp [wide]
  · rw [if_neg wide]
    simp [wide]

end Blocks

/-! ## Steps on two engines -/

variable {T F τ ω : Type} [Arithmetic F] [Element T F] [TableShape τ] [TableAccess τ T]

section Steps

variable {left right : Engine} {input : τ}

private theorem moments_congr
    {column : Nat}
    (sameBackend : left.backend = right.backend)
    (sameBlocks :
      blockLength left (TableShape.rows input) (TableShape.cols input) =
        blockLength right (TableShape.rows input) (TableShape.cols input)) :
    moments T left input column = moments T right input column := by
  unfold moments
  rw [sameBackend, sameBlocks]

/-- The scan depends on an engine through the moments of the columns alone, also
where a column cannot be read. -/
theorem scan_congr
    (same : ∀ column < TableShape.cols input,
      moments T left input column = moments T right input column) :
    Statistics.scan T left input = Statistics.scan T right input := by
  have columns :
      (List.range (TableShape.cols input)).map (moments T left input) =
        (List.range (TableShape.cols input)).map (moments T right input) := by
    apply List.map_congr_left
    intro column member
    exact same column (List.mem_range.1 member)
  rw [scan_eq_settle, scan_eq_settle, columns]

/-- How many columns are read before they are written does not show in the table
that is left, nor in the answer. -/
private theorem normalizeInto_congr
    [TableShape ω]
    [TableAccess ω T]
    (sameBackend : left.backend = right.backend)
    (statistics : Statistics F)
    (scales : Array F)
    (out : ω) :
    normalizeInto T left input statistics scales out =
      normalizeInto T right input statistics scales out := by
  unfold normalizeInto
  simp only [Normalize.writeGroups_chunks, sameBackend]

/-- Engines that find the same statistics and write the same tables from them give the
same outcome. -/
theorem compute_of_steps
    {parameter : Parameter F}
    (sameStatistics :
      Statistics.computeValidated T left input parameter =
        Statistics.computeValidated T right input parameter)
    (sameTables : ∀ (statistics : Statistics F) (scales : Array F) (out : Dense T),
      normalizeInto T left input statistics scales out =
        normalizeInto T right input statistics scales out)
    (memory : Memory)
    (output : Output T) :
    compute memory left input parameter output =
      compute memory right input parameter output := by
  have sameFill (provided : Output T) :
      fill left input parameter provided = fill right input parameter provided := by
    unfold fill
    simp only [sameStatistics, sameTables]
  unfold compute run
  simp only [sameFill]

/-- Engines on one backend that find the same statistics give the same outcome. -/
theorem compute_congr
    {parameter : Parameter F}
    (sameBackend : left.backend = right.backend)
    (sameStatistics :
      Statistics.computeValidated T left input parameter =
        Statistics.computeValidated T right input parameter)
    (memory : Memory)
    (output : Output T) :
    compute memory left input parameter output =
      compute memory right input parameter output :=
  compute_of_steps sameStatistics (normalizeInto_congr sameBackend) memory output

end Steps

/-! ## Outcomes -/

/-- **Reproducibility.** With no more threads than columns, with rows past the limit
of the pool, or from given sums, a pool leaves what one thread leaves on the same
backend: the same answer, and the same tables to the last bit. -/
theorem compute_pool_eq_sequential
    (memory : Memory)
    (backend : Backend)
    {threads : Nat}
    (positive : 0 < threads)
    (input : τ)
    (parameter : Parameter F)
    (output : Output T)
    (aligned :
      threads ≤ TableShape.cols input ∨
        4 * threads * 4095 < TableShape.rows input ∨
        parameter.method = .sumDense) :
    compute memory ⟨backend, .pool threads positive⟩ input parameter output =
      compute memory (Engine.sequential backend) input parameter output := by
  refine compute_congr ?_ ?_ memory output
  · rfl
  · unfold Statistics.computeValidated
    cases scanned : parameter.method with
    | sumDense => rfl
    | defaultDense =>
        have blocks : threads ≤ TableShape.cols input ∨
            4 * threads * 4095 < TableShape.rows input := by
          rw [scanned] at aligned
          simpa using aligned
        apply scan_congr
        intro column columnLt
        have colsSome : TableShape.cols input ≠ 0 := Nat.ne_zero_of_lt columnLt
        exact moments_congr rfl ((blockLength_pool_eq_iff backend positive _ colsSome).2 blocks)

/-- One row past the limit of a pool of three, a single column is taken in the
blocks of one thread. -/
theorem compute_pool_eq_sequential_of_long_column :
    let input : Dense Float := ⟨49141, 1, Array.replicate (49141 * 1) 0.1, Array.size_replicate⟩
    let parameter : Parameter Float := { zeroVariance := .reject }
    0 < 3 ∧ 4 * 3 * 4095 < TableShape.rows input ∧
      compute Memory.unbounded ⟨.avx2, .pool 3 (by decide)⟩ input parameter
          (SlotMap.empty : Output Float) =
        compute Memory.unbounded (Engine.sequential .avx2) input parameter
          (SlotMap.empty : Output Float) := by
  intro input parameter
  have long : 4 * 3 * 4095 < TableShape.rows input := by
    change 4 * 3 * 4095 < 49141
    decide
  refine ⟨Nat.zero_lt_succ 2, long, ?_⟩
  exact compute_pool_eq_sequential Memory.unbounded .avx2 (Nat.zero_lt_succ 2) input parameter
    SlotMap.empty (.inr (.inl long))

end Standardize
