import Standardize.Chunks

/-!
Contract: blocks lose nothing and repeat nothing.

Owns:
- the blocks of a slice, joined in order, are the slice;
- no block is empty, and none is longer than the block length;
- a block length that covers the slice gives one block.

Does not own: what is computed over a block.
-/

set_option autoImplicit false

namespace Standardize

variable {α : Type}

private theorem le_chunkCount_mul (length : Nat) {blockLength : Nat} (positive : 0 < blockLength) :
    length ≤ chunkCount length blockLength * blockLength := by
  have division := Nat.div_add_mod (length + blockLength - 1) blockLength
  have remainder := Nat.mod_lt (length + blockLength - 1) positive
  unfold chunkCount
  rw [Nat.mul_comm]
  omega

private theorem mul_lt_of_lt_chunkCount
    {length blockLength block : Nat}
    (inside : block < chunkCount length blockLength) :
    block * blockLength < length := by
  have reached : (block + 1) * blockLength ≤ length + blockLength - 1 :=
    Nat.le_trans (Nat.mul_le_mul_right blockLength inside) (Nat.div_mul_le_self _ _)
  rw [Nat.succ_mul] at reached
  rcases Nat.eq_zero_or_pos blockLength with zero | positive
  · simp [zero, chunkCount] at inside
  · omega

private theorem chunkCount_eq_one
    {length blockLength : Nat}
    (positive : 0 < length)
    (covers : length ≤ blockLength) :
    chunkCount length blockLength = 1 := by
  unfold chunkCount
  exact Nat.div_eq_of_lt_le (by omega) (by omega)

/-- The first `count` blocks of a length, joined, are a start of the slice. -/
private theorem flatten_extract_blocks (data : Array α) (blockLength count : Nat) :
    ((List.range count).map fun block =>
      (data.extract (block * blockLength) ((block + 1) * blockLength)).toList).flatten =
      data.toList.take (count * blockLength) := by
  induction count with
  | zero => simp
  | succ count inductionHypothesis =>
      rw [List.range_succ, List.map_append, List.flatten_append, inductionHypothesis,
        Nat.succ_mul, List.take_add]
      simp [Nat.succ_mul]

/-- **Blocks partition.** Joined from the first to the last they are the slice. -/
theorem flatten_chunks (blockLength : Nat) (data : Array α) :
    ((chunks blockLength data).map Array.toList).flatten = data.toList := by
  unfold chunks
  rw [List.map_map]
  refine (flatten_extract_blocks data (max blockLength 1) _).trans ?_
  refine List.take_of_length_le ?_
  rw [Array.length_toList]
  exact le_chunkCount_mul data.size (by omega)

theorem mem_of_mem_chunks
    {blockLength : Nat}
    {data block : Array α}
    {value : α}
    (member : block ∈ chunks blockLength data)
    (inBlock : value ∈ block) :
    value ∈ data := by
  rw [← Array.mem_toList_iff, ← flatten_chunks blockLength data]
  exact List.mem_flatten.2
    ⟨block.toList, List.mem_map.2 ⟨block, member, rfl⟩, Array.mem_toList_iff.2 inBlock⟩

theorem size_of_mem_chunks
    {blockLength : Nat}
    {data block : Array α}
    (member : block ∈ chunks blockLength data) :
    0 < block.size ∧ block.size ≤ max blockLength 1 := by
  unfold chunks at member
  obtain ⟨number, inside, rfl⟩ := List.mem_map.1 member
  have start := mul_lt_of_lt_chunkCount (List.mem_range.1 inside)
  rw [Array.size_extract, Nat.succ_mul]
  omega

/-- A block length that reaches the end of the slice leaves it whole. -/
theorem chunks_of_size_le
    {blockLength : Nat}
    {data : Array α}
    (positive : 0 < data.size)
    (covers : data.size ≤ blockLength) :
    chunks blockLength data = [data] := by
  have one : chunkCount data.size (max blockLength 1) = 1 :=
    chunkCount_eq_one positive (Nat.le_trans covers (Nat.le_max_left _ _))
  unfold chunks
  simp only [one, List.range_one, List.map_cons, List.map_nil, Nat.zero_mul, Nat.zero_add,
    Nat.one_mul]
  rw [Array.extract_eq_self_of_le (Nat.le_trans covers (Nat.le_max_left _ _))]

/-- The first block has the block length, or it is the only one: no other block is longer. -/
theorem exists_chunks_eq_cons
    {data : Array α}
    (nonempty : 0 < data.size)
    (blockLength : Nat) :
    ∃ first rest, chunks blockLength data = first :: rest ∧
      ∀ block ∈ rest, block.size ≤ first.size := by
  obtain ⟨count, counted⟩ : ∃ count, chunkCount data.size (max blockLength 1) = count + 1 := by
    have covers := le_chunkCount_mul data.size (Nat.le_max_right blockLength 1)
    refine Nat.exists_eq_add_one.2 (Nat.pos_of_ne_zero fun none => ?_)
    rw [none, Nat.zero_mul] at covers
    omega
  unfold chunks
  simp only [counted, List.range_succ_eq_map, List.map_cons, List.map_map]
  refine ⟨_, _, rfl, ?_⟩
  intro block member
  obtain ⟨number, -, rfl⟩ := List.mem_map.1 member
  simp only [Function.comp_apply, Array.size_extract, Nat.succ_mul]
  omega

end Standardize
