import Standardize.Chunks
import Standardize.Platform

/-!
Contract: engines, which join a backend to a way of running.

Owns:
- `Strategy`, the ways of running that can be asked for;
- `Schedule`, the ways an engine runs: one thread, or a pool of at least one;
- the number of threads, and the block length that keeps a pool busy;
- work over the blocks of a slice and over a range of numbers. Answers come
  back in the order of the work, whichever thread finished first.

Does not own: threads. What a pool computes does not depend on them.
-/

set_option autoImplicit false

namespace Standardize

inductive Strategy where
  | sequential
  | parallel
  | auto
deriving DecidableEq, Repr

namespace Strategy

def name : Strategy → String
  | sequential => "sequential"
  | parallel => "parallel"
  | auto => "auto"

def ofName? (text : String) : Option Strategy :=
  [sequential, parallel, auto].find? (·.name == text)

def tag : Strategy → String
  | sequential => "Sequential"
  | parallel => "Parallel"
  | auto => "Auto"

end Strategy

/-- How an engine runs. -/
inductive Schedule where
  | sequential
  | pool (threads : Nat) (threads_pos : 0 < threads)
deriving DecidableEq, Repr

/-- A backend and a way of running. -/
structure Engine where
  backend : Backend
  schedule : Schedule
deriving DecidableEq, Repr

namespace Engine

def sequential (backend : Backend) : Engine :=
  ⟨backend, .sequential⟩

def shared (platform : Platform) (backend : Backend) : Engine :=
  ⟨backend, .pool platform.poolThreads platform.poolThreads_pos⟩

/-- An engine on a pool of its own; zero threads ask for as many as the shared
pool has. -/
def pool (platform : Platform) (backend : Backend) (threads : Nat) : Engine :=
  if positive : 0 < threads then ⟨backend, .pool threads positive⟩
  else shared platform backend

def auto (platform : Platform) : Engine :=
  if platform.parallel then shared platform platform.bestBackend
  else sequential platform.bestBackend

def strategy (engine : Engine) : Strategy :=
  match engine.schedule with
  | .sequential => .sequential
  | .pool _ _ => .parallel

def isParallel (engine : Engine) : Bool :=
  match engine.strategy with
  | .sequential => false
  | .parallel => true
  | .auto => true

def threads (engine : Engine) : Nat :=
  match engine.schedule with
  | .sequential => 1
  | .pool threads _ => threads

/-- The block length for a number of items: all of them on one thread, and
four blocks for each thread of a pool. It is never zero. -/
def chunkSize (engine : Engine) (items : Nat) : Nat :=
  if !engine.isParallel || items == 0 then max items 1
  else max (chunkCount items (engine.threads * 4)) 1

/-- A function of each block of a slice, in order. -/
def mapChunks
    {α β : Type}
    (_engine : Engine)
    (data : Array α)
    (blockLength : Nat)
    (work : Array α → β) :
    List β :=
  (chunks blockLength data).map work

/-- A function of each number below a count, in order. -/
def batch
    {β : Type}
    (_engine : Engine)
    (count : Nat)
    (work : Fin count → β) :
    List β :=
  (List.finRange count).map work

/-- All answers of a batch, or the failure of the lowest number. -/
def collect {ε β : Type} : List (Except ε β) → Except ε (List β)
  | [] => .ok []
  | .error error :: _ => .error error
  | .ok value :: rest =>
      match collect rest with
      | .ok values => .ok (value :: values)
      | .error error => .error error

end Engine

end Standardize
