/-!
Contract: a slice cut into blocks of one length, the last of which may be
shorter.

Owns: `chunks`, which counts a length of zero as one.

Does not own: how a block length is chosen.
-/

set_option autoImplicit false

namespace Standardize

variable {α : Type}

/-- The number of blocks that cover a length. -/
def chunkCount (length blockLength : Nat) : Nat :=
  (length + blockLength - 1) / blockLength

/-- The blocks of a slice, from its start to its end. -/
def chunks (blockLength : Nat) (data : Array α) : List (Array α) :=
  let blockLength := max blockLength 1
  (List.range (chunkCount data.size blockLength)).map fun block =>
    data.extract (block * blockLength) ((block + 1) * blockLength)

end Standardize
