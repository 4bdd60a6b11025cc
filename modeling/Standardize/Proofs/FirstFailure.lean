import Standardize.Normalize

/-!
Contract: loops that stop at the first failure.

Owns:
- `settle`, the answer of a computation whose failure, if any, is known;
- the failure that a list of answers amounts to, which is the first in order;
- the loops of this library over the columns of a table, each as one
  collection of answers.

Does not own: which answers fail.
-/

set_option autoImplicit false

namespace Standardize

variable {ε α β γ : Type}

/-- The failure of an answer. -/
def failure? : Except ε β → Option ε
  | .ok _ => none
  | .error failure => some failure

/-- A value, unless there is a failure. -/
def settle (failed? : Option ε) (value : β) : Except ε β :=
  match failed? with
  | some failure => .error failure
  | none => .ok value

@[simp]
theorem settle_none (value : β) : settle (none : Option ε) value = .ok value :=
  rfl

@[simp]
theorem settle_some (failure : ε) (value : β) : settle (some failure) value = .error failure :=
  rfl

@[simp]
theorem failure?_ok (value : β) : failure? (.ok value : Except ε β) = none :=
  rfl

@[simp]
theorem failure?_error (failure : ε) : failure? (.error failure : Except ε β) = some failure :=
  rfl

@[simp]
theorem failure?_settle (failed? : Option ε) (value : β) :
    failure? (settle failed? value) = failed? := by
  cases failed? <;> rfl

theorem settle_eq_ok_iff {failed? : Option ε} {value result : β} :
    settle failed? value = .ok result ↔ failed? = none ∧ value = result := by
  cases failed? <;> simp

theorem settle_eq_error_iff {failed? : Option ε} {value : β} {failure : ε} :
    settle failed? value = .error failure ↔ failed? = some failure := by
  cases failed? <;> simp

theorem failure?_eq_some_iff {answer : Except ε β} {failure : ε} :
    failure? answer = some failure ↔ answer = .error failure := by
  cases answer <;> simp

theorem settle_inj {left right : Option ε} {value : β} :
    settle left value = settle right value ↔ left = right := by
  cases left <;> cases right <;> simp

theorem exists_of_failure?_eq_none
    {answer : Except ε β}
    (succeeds : failure? answer = none) :
    ∃ value, answer = .ok value := by
  cases answer with
  | ok value => exact ⟨value, rfl⟩
  | error failure => cases succeeds

/-! ## Lists of answers -/

/-- **The first failure decides.** Answers are collected unless one of them
fails, and then the first that does is the answer. -/
theorem collect_map
    {answer : α → Except ε β}
    (value : α → β)
    {places : List α}
    (known : ∀ place ∈ places, ∀ result, answer place = .ok result → result = value place) :
    Engine.collect (places.map answer) =
      settle (places.findSome? fun place => failure? (answer place)) (places.map value) := by
  induction places with
  | nil => rfl
  | cons place rest inductionHypothesis =>
      have restCollected := inductionHypothesis
        fun other member => known other (List.mem_cons_of_mem _ member)
      rw [List.map_cons, List.findSome?_cons, List.map_cons]
      cases answered : answer place with
      | error failure => rfl
      | ok result =>
          have resultEq := known place List.mem_cons_self result answered
          rw [Engine.collect, restCollected, resultEq]
          cases rest.findSome? fun place => failure? (answer place) <;> rfl

/-- Columns taken one after the other are collected from their answers. -/
theorem momentsFrom_eq_collect
    {F : Type}
    (answer : Nat → Except Error (Moments F))
    (column remaining : Nat) :
    Statistics.momentsFrom answer column remaining =
      Engine.collect ((List.range' column remaining).map answer) := by
  induction remaining generalizing column with
  | zero => rfl
  | succ remaining inductionHypothesis =>
      rw [Statistics.momentsFrom, List.range'_succ, List.map_cons, inductionHypothesis]
      cases answer column with
      | error failure => rfl
      | ok first =>
          rw [Engine.collect]
          cases Engine.collect ((List.range' (column + 1) remaining).map answer) <;> rfl

/-- Scales taken one after the other are collected from the scale of each column. -/
theorem inverseScalesFrom_eq_collect
    {F : Type}
    [Arithmetic F]
    (policy : ZeroVariance)
    (column : Nat)
    (variances : List F) :
    inverseScalesFrom policy column variances =
      Engine.collect ((variances.zipIdx column).map fun (variance, number) =>
        inverseScale policy number variance) := by
  induction variances generalizing column with
  | nil => rfl
  | cons variance rest inductionHypothesis =>
      rw [inverseScalesFrom, List.zipIdx_cons, List.map_cons, inductionHypothesis]
      dsimp only
      cases inverseScale policy column variance with
      | error failure => rfl
      | ok scale =>
          rw [Engine.collect]
          cases Engine.collect ((rest.zipIdx (column + 1)).map fun (variance, number) =>
            inverseScale policy number variance) <;> rfl

end Standardize
