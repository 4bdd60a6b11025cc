import Standardize.Error

/-!
Contract: what the running build and machine offer.

Owns:
- `Backend`, the ways to compute on a slice;
- `Platform`, whether AVX2 and parallel execution are there and how many
  threads the shared pool has;
- the backend that is best on a platform, and the error for one that is not
  there.

Does not own: how a backend computes.
-/

set_option autoImplicit false

namespace Standardize

def version : String := "0.1.0"

/-- How slices are computed on: value by value, or four lanes at a time. -/
inductive Backend where
  | scalar
  | avx2
deriving DecidableEq, Repr

namespace Backend

def name : Backend → String
  | scalar => "scalar"
  | avx2 => "avx2"

def width : Backend → Nat
  | scalar => 1
  | avx2 => 4

end Backend

/-- What a build and its machine offer. -/
structure Platform where
  avx2 : Bool
  parallel : Bool
  /-- The number of threads of the shared pool. -/
  poolThreads : Nat
  poolThreads_pos : 0 < poolThreads

namespace Platform

/-- Every feature, with a shared pool of three threads. -/
def full : Platform :=
  ⟨true, true, 3, by decide⟩

/-- No optional feature. -/
def bare : Platform :=
  ⟨false, false, 3, by decide⟩

def bestBackend (platform : Platform) : Backend :=
  if platform.avx2 then .avx2 else .scalar

/-- The AVX2 backend, where there is one. -/
def avx2Backend (platform : Platform) : Except Error Backend :=
  if platform.avx2 then .ok .avx2 else (Fault.unavailable .avx2).raise

end Platform

end Standardize
