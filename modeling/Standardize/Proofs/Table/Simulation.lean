import Standardize.Compute

/-!
Contract: tables of different layouts that cannot be told apart.

Owns:
- `Reads`, what the reads of a table answer, on which a standardization depends
  and on nothing else of its input;
- `Simulation`, a relation between tables that no request tells apart and that
  every write keeps;
- `Indistinguishable` tables, which answer every run of requests alike and which
  standardize alike after it; related tables are.

Does not own: which tables are related.
-/

set_option autoImplicit false

namespace Standardize

variable {T F τ σ : Type}

/-! ## Reads -/

/-- A table known by its shape and by what it is read as. It cannot be written. -/
structure Reads (T : Type) where
  rows : Nat
  cols : Nat
  readColumn : Nat → Except Error (Array T)
  readRows : Nat → Nat → Except Error (Array T)

namespace Reads

instance : TableShape (Reads T) where
  rows := Reads.rows
  cols := Reads.cols

instance : TableAccess (Reads T) T where
  readColumn := Reads.readColumn
  readRows := Reads.readRows
  writeColumn := fun reads _ _ => ((Fault.invalidInput (.named "not writable")).raise, reads)

/-- The shape and the reads of a table. -/
def of (T : Type) [TableShape τ] [TableAccess τ T] (table : τ) : Reads T where
  rows := TableShape.rows table
  cols := TableShape.cols table
  readColumn := TableAccess.readColumn table
  readRows := TableAccess.readRows table

end Reads

variable [TableShape τ] [TableAccess τ T] [TableShape σ] [TableAccess σ T]

/-- **A standardization sees the reads of its input** and nothing else of it. -/
theorem compute_reads
    [Arithmetic F]
    [Element T F]
    (memory : Memory)
    (engine : Engine)
    (input : τ)
    (parameter : Parameter F)
    (output : Output T) :
    compute memory engine (Reads.of T input) parameter output =
      compute memory engine input parameter output :=
  rfl

/-! ## Runs of requests -/

/-- The session that requests leave. -/
def Session.after (session : Session τ T) : List (Request T) → Session τ T
  | [] => session
  | request :: rest => (session.step request).2.after rest

/-- Two tables answer every run of requests alike, also by what is left in the
buffer, and whatever a run writes, they standardize alike after it. -/
structure Indistinguishable
    (T F : Type)
    [Arithmetic F]
    [Element T F]
    [TableAccess τ T]
    [TableAccess σ T]
    (left : τ)
    (right : σ) :
    Prop where
  run_eq :
    ∀ (buffer : Array T) (requests : List (Request T)),
      Session.run ⟨left, buffer⟩ requests = Session.run ⟨right, buffer⟩ requests
  compute_eq :
    ∀ (buffer : Array T) (requests : List (Request T)) (memory : Memory) (engine : Engine)
      (parameter : Parameter F) (output : Output T),
      compute memory engine (Session.after ⟨left, buffer⟩ requests).table parameter output =
        compute memory engine (Session.after ⟨right, buffer⟩ requests).table parameter output

/-! ## Simulations -/

/-- Related tables have the same reads. A write is answered alike by both, and leaves
them related, also when it fails. -/
structure Simulation
    (T : Type)
    [TableAccess τ T]
    [TableAccess σ T]
    (related : τ → σ → Prop) :
    Prop where
  reads_eq :
    ∀ {left : τ} {right : σ}, related left right → Reads.of T left = Reads.of T right
  answer_eq :
    ∀ {left : τ} {right : σ}, related left right → ∀ (column : Nat) (values : Array T),
      (TableAccess.writeColumn left column values).1 =
        (TableAccess.writeColumn right column values).1
  write :
    ∀ {left : τ} {right : σ}, related left right → ∀ (column : Nat) (values : Array T),
      related (TableAccess.writeColumn left column values).2
        (TableAccess.writeColumn right column values).2

namespace Simulation

variable {related : τ → σ → Prop} {left : τ} {right : σ}

/-- One request is answered alike, refills the buffer alike and keeps the tables
related. -/
theorem step
    (simulation : Simulation T related)
    (start : related left right)
    (buffer : Array T)
    (request : Request T) :
    ∃ answer next leftNext rightNext,
      Session.step ⟨left, buffer⟩ request = (answer, ⟨leftNext, next⟩) ∧
        Session.step ⟨right, buffer⟩ request = (answer, ⟨rightNext, next⟩) ∧
        related leftNext rightNext := by
  have reads := simulation.reads_eq start
  cases request with
  | shape =>
      have rows : TableShape.rows left = TableShape.rows right := congrArg Reads.rows reads
      have cols : TableShape.cols left = TableShape.cols right := congrArg Reads.cols reads
      refine ⟨_, _, _, _, rfl, ?_, start⟩
      rw [Session.step, rows, cols]
  | readColumn column =>
      have same : (TableAccess.readColumn left column : Except Error (Array T)) =
          TableAccess.readColumn right column := congrFun (congrArg Reads.readColumn reads) column
      rw [Session.step, Session.step, same]
      cases (TableAccess.readColumn right column : Except Error (Array T)) with
      | ok values => exact ⟨_, _, _, _, rfl, rfl, start⟩
      | error failure => exact ⟨_, _, _, _, rfl, rfl, start⟩
  | readRows first count =>
      have same : (TableAccess.readRows left first count : Except Error (Array T)) =
          TableAccess.readRows right first count :=
        congrFun (congrFun (congrArg Reads.readRows reads) first) count
      rw [Session.step, Session.step, same]
      cases (TableAccess.readRows right first count : Except Error (Array T)) with
      | ok values => exact ⟨_, _, _, _, rfl, rfl, start⟩
      | error failure => exact ⟨_, _, _, _, rfl, rfl, start⟩
  | writeColumn column values =>
      have answers := simulation.answer_eq start column values
      have written := simulation.write start column values
      rw [Session.step, Session.step]
      generalize TableAccess.writeColumn left column values = leftWritten at answers written ⊢
      generalize TableAccess.writeColumn right column values = rightWritten at answers written ⊢
      obtain ⟨answer, leftNext⟩ := leftWritten
      obtain ⟨other, rightNext⟩ := rightWritten
      cases show answer = other from answers
      cases answer with
      | ok nothing => exact ⟨_, _, _, _, rfl, rfl, written⟩
      | error failure => exact ⟨_, _, _, _, rfl, rfl, written⟩

theorem run_eq
    (simulation : Simulation T related)
    (start : related left right)
    (buffer : Array T)
    (requests : List (Request T)) :
    Session.run ⟨left, buffer⟩ requests = Session.run ⟨right, buffer⟩ requests := by
  induction requests generalizing left right buffer with
  | nil => rfl
  | cons request rest inductionHypothesis =>
      obtain ⟨answer, next, leftNext, rightNext, leftStep, rightStep, kept⟩ :=
        simulation.step start buffer request
      rw [Session.run, Session.run, leftStep, rightStep]
      dsimp only
      rw [inductionHypothesis kept]

/-- What every request keeps, a run keeps. -/
theorem after
    (simulation : Simulation T related)
    (start : related left right)
    (buffer : Array T)
    (requests : List (Request T)) :
    related (Session.after ⟨left, buffer⟩ requests).table
      (Session.after ⟨right, buffer⟩ requests).table := by
  induction requests generalizing left right buffer with
  | nil => exact start
  | cons request rest inductionHypothesis =>
      obtain ⟨answer, next, leftNext, rightNext, leftStep, rightStep, kept⟩ :=
        simulation.step start buffer request
      rw [Session.after, Session.after, leftStep, rightStep]
      exact inductionHypothesis kept next

private theorem compute_eq
    [Arithmetic F]
    [Element T F]
    (simulation : Simulation T related)
    (start : related left right)
    (memory : Memory)
    (engine : Engine)
    (parameter : Parameter F)
    (output : Output T) :
    compute memory engine left parameter output = compute memory engine right parameter output := by
  rw [← compute_reads memory engine left, simulation.reads_eq start, compute_reads]

/-- **Related tables cannot be told apart.** -/
theorem indistinguishable
    [Arithmetic F]
    [Element T F]
    (simulation : Simulation T related)
    (start : related left right) :
    Indistinguishable T F left right where
  run_eq := simulation.run_eq start
  compute_eq := fun buffer requests =>
    simulation.compute_eq (simulation.after start buffer requests)

end Simulation

end Standardize
