import Mathlib.Algebra.BigOperators.Fin
import Mathlib.Algebra.BigOperators.Intervals
import Standardize.Backend

/-!
Contract: what the sums of all backends have in common.

Owns:
- the record of the places that a sum reads, which are those of the slice, each once
  and from the first to the last;
- what zero and all terms have and addition keeps, which every sum has, also where it is
  weighed and the weights are added.

Does not own: what a sum amounts to. No law of the addition of numbers is used.
-/

set_option autoImplicit false

namespace Standardize

variable {F : Type} [Arithmetic F] {n : Nat}

namespace Reduction

/-! ## Places read -/

/-- A read that is noted down after those before it. -/
def recorded (read : Fin n → F) (place : Fin n) : StateM (List Nat) F := do
  modify (· ++ [place.val])
  return read place

/-- Taken place by place, a run of places is noted down in order. -/
private theorem run_addFrom_recorded
    (read : Fin n → F)
    (start count : Nat)
    (inside : start + count ≤ n)
    (total : F)
    (places : List Nat) :
    (addFrom (recorded read) start count inside total).run places =
      (addFrom (M := Id) (fun place => pure (read place)) start count inside total,
        places ++ List.range' start count) := by
  induction count generalizing start total places with
  | zero => exact congrArg (Prod.mk total) (List.append_nil places).symm
  | succ count inductionHypothesis =>
      have step :
          (addFrom (recorded read) start (count + 1) inside total).run places =
            (addFrom (recorded read) (start + 1) count (by omega)
              (total + read ⟨start, by omega⟩)).run (places ++ [start]) := rfl
      rw [step, inductionHypothesis, List.range'_succ, List.append_assoc]
      rfl

/-- So is a run of groups, whose places are taken one after the other too. -/
private theorem run_addGroups_recorded
    (read : Fin n → F)
    (start groups : Nat)
    (inside : start + 4 * groups ≤ n)
    (lanes : Lanes F)
    (places : List Nat) :
    (addGroups (recorded read) start groups inside lanes).run places =
      (addGroups (M := Id) (fun place => pure (read place)) start groups inside lanes,
        places ++ List.range' start (4 * groups)) := by
  induction groups generalizing start lanes places with
  | zero => exact congrArg (Prod.mk lanes) (List.append_nil places).symm
  | succ groups inductionHypothesis =>
      have step :
          (addGroups (recorded read) start (groups + 1) inside lanes).run places =
            (addGroups (recorded read) (start + 4) groups (by omega)
              (lanes.add (read ⟨start, by omega⟩) (read ⟨start + 1, by omega⟩)
                (read ⟨start + 2, by omega⟩) (read ⟨start + 3, by omega⟩))).run
              (places ++ [start] ++ [start + 1] ++ [start + 2] ++ [start + 3]) := rfl
      have group : List.range' start (4 * (groups + 1)) =
          [start, start + 1, start + 2, start + 3] ++ List.range' (start + 4) (4 * groups) := by
        rw [show 4 * (groups + 1) = 4 * groups + 1 + 1 + 1 + 1 by omega]
        simp only [List.range'_succ]
        rfl
      rw [step, inductionHypothesis, group]
      simp only [List.append_assoc]
      rfl

/-- The places of the groups and of what is left over are those of the slice. -/
theorem range_groups_append_rest (n : Nat) :
    List.range' 0 (4 * (n / 4)) ++ List.range' (4 * (n / 4)) (n - 4 * (n / 4)) =
      List.range n := by
  have whole : 4 * (n / 4) + (n - 4 * (n / 4)) = n := by omega
  have joined := List.range'_append_1 (s := 0) (m := 4 * (n / 4)) (n := n - 4 * (n / 4))
  rw [Nat.zero_add, whole] at joined
  rw [joined, List.range_eq_range']

/-- **Every place is read once**, from the first to the last, in the order of any
backend. -/
theorem run_reduce_recorded (backend : Backend) (read : Fin n → F) :
    (backend.reduce (recorded read)).run [] =
      (backend.reduce (M := Id) (fun place => pure (read place)), List.range n) := by
  cases backend with
  | scalar =>
      rw [List.range_eq_range']
      exact run_addFrom_recorded read 0 n _ 0 []
  | avx2 =>
      have joined :
          (Backend.avx2.reduce (recorded read)).run [] =
            (addFrom (recorded read) (4 * (n / 4)) (n - 4 * (n / 4)) (by omega)
                ((addGroups (recorded read) 0 (n / 4) (by omega) Lanes.zero).run []).1.total).run
              ((addGroups (recorded read) 0 (n / 4) (by omega) Lanes.zero).run []).2 := rfl
      rw [joined, run_addGroups_recorded, run_addFrom_recorded, List.nil_append,
        range_groups_append_rest]
      rfl

/-! ## Weights -/

section Weights

open Finset

variable {W : Type} [AddCommMonoid W] {holds : W → F → Prop}

/-- Four running totals have weights that amount to one. -/
def Lanes.Holds (holds : W → F → Prop) (weight : W) (lanes : Lanes F) : Prop :=
  ∃ first second third fourth,
    holds first lanes.first ∧ holds second lanes.second ∧ holds third lanes.third ∧
      holds fourth lanes.fourth ∧ first + second + third + fourth = weight

variable
  (add : ∀ {leftWeight rightWeight left right}, holds leftWeight left → holds rightWeight right →
    holds (leftWeight + rightWeight) (left + right))
include add

theorem Lanes.Holds.total
    {weight : W}
    {lanes : Lanes F}
    (lanesHold : lanes.Holds holds weight) :
    holds weight lanes.total := by
  obtain ⟨first, second, third, fourth, firstHolds, secondHolds, thirdHolds, fourthHolds, rfl⟩ :=
    lanesHold
  have order : first + second + third + fourth = third + first + (fourth + second) := by
    rw [add_comm third, add_comm fourth, add_add_add_comm, ← add_assoc]
  rw [order]
  exact add (add thirdHolds firstHolds) (add fourthHolds secondHolds)

variable
  {read : Fin n → F}
  {weight : Nat → W}
  (terms : ∀ place : Fin n, holds (weight place) (read place))
include terms

/-- A running total takes up the weights of the places it passes. -/
private theorem addFrom_of_weights
    (start count : Nat)
    (inside : start + count ≤ n)
    {before : W}
    {total : F}
    (totalHolds : holds before total) :
    holds (before + ∑ place ∈ Ico start (start + count), weight place)
      (addFrom (M := Id) (fun place => pure (read place)) start count inside total) := by
  induction count generalizing start before total with
  | zero =>
      rw [Nat.add_zero, Ico_self, sum_empty, add_zero]
      exact totalHolds
  | succ count inductionHypothesis =>
      rw [show start + (count + 1) = start + 1 + count by omega,
        sum_eq_sum_Ico_succ_bot (show start < start + 1 + count by omega), ← add_assoc]
      exact inductionHypothesis (start + 1) (by omega) (add totalHolds (terms ⟨start, by omega⟩))

/-- The lanes together take up the weights of the groups they pass. -/
private theorem addGroups_of_weights
    (start groups : Nat)
    (inside : start + 4 * groups ≤ n)
    {before : W}
    {lanes : Lanes F}
    (lanesHold : lanes.Holds holds before) :
    Lanes.Holds holds (before + ∑ place ∈ Ico start (start + 4 * groups), weight place)
      (addGroups (M := Id) (fun place => pure (read place)) start groups inside lanes) := by
  induction groups generalizing start before lanes with
  | zero =>
      rw [Nat.mul_zero, Nat.add_zero, Ico_self, sum_empty, add_zero]
      exact lanesHold
  | succ groups inductionHypothesis =>
      rw [show start + 4 * (groups + 1) = start + 4 + 4 * groups by omega,
        ← sum_Ico_consecutive weight (Nat.le_add_right start 4) (Nat.le_add_right _ _), ← add_assoc]
      refine inductionHypothesis (start + 4) (by omega) ?_
      obtain
        ⟨first, second, third, fourth, firstHolds, secondHolds, thirdHolds, fourthHolds, rfl⟩ :=
        lanesHold
      refine ⟨_, _, _, _, add firstHolds (terms ⟨start, by omega⟩),
        add secondHolds (terms ⟨start + 1, by omega⟩), add thirdHolds (terms ⟨start + 2, by omega⟩),
        add fourthHolds (terms ⟨start + 3, by omega⟩), ?_⟩
      simp only [sum_Ico_succ_top (Nat.le_add_right start _), Nat.Ico_succ_singleton, sum_singleton]
      ac_rfl

end Weights

/-- **Weighed addition.** If zero has no weight and a sum weighs no more and no less than its
parts together, then so does the sum of a slice, in the order of any backend. -/
theorem reduce_of_weights
    {W : Type}
    [AddCommMonoid W]
    (holds : W → F → Prop)
    (add : ∀ {leftWeight rightWeight left right}, holds leftWeight left →
      holds rightWeight right → holds (leftWeight + rightWeight) (left + right))
    (backend : Backend)
    (zero : holds 0 0)
    {read : Fin n → F}
    {weight : Fin n → W}
    (terms : ∀ place, holds (weight place) (read place)) :
    holds (∑ place, weight place) (backend.reduce (M := Id) (fun place => pure (read place))) := by
  -- The places past the end are never read; they weigh nothing.
  let extended (place : Nat) : W := if inside : place < n then weight ⟨place, inside⟩ else 0
  have extendedTerms (place : Fin n) : holds (extended place) (read place) := by
    unfold extended
    rw [dif_pos place.isLt]
    exact terms place
  rw [Finset.sum_fin_eq_sum_range, Finset.range_eq_Ico]
  change holds (∑ place ∈ Finset.Ico 0 n, extended place) _
  cases backend with
  | scalar =>
      have parts : ∑ place ∈ Finset.Ico 0 n, extended place =
          0 + ∑ place ∈ Finset.Ico 0 (0 + n), extended place := by
        rw [zero_add, Nat.zero_add]
      rw [parts]
      exact addFrom_of_weights add extendedTerms 0 n (by omega) zero
  | avx2 =>
      have parts : ∑ place ∈ Finset.Ico 0 n, extended place =
          0 + ∑ place ∈ Finset.Ico 0 (0 + 4 * (n / 4)), extended place +
            ∑ place ∈ Finset.Ico (4 * (n / 4)) (4 * (n / 4) + (n - 4 * (n / 4))),
              extended place := by
        rw [zero_add, Nat.zero_add, show 4 * (n / 4) + (n - 4 * (n / 4)) = n by omega,
          Finset.sum_Ico_consecutive _ (Nat.zero_le _) (by omega)]
      have start : (Lanes.zero : Lanes F).Holds holds 0 :=
        ⟨0, 0, 0, 0, zero, zero, zero, zero, by simp only [add_zero]⟩
      have lanes := addGroups_of_weights add extendedTerms 0 (n / 4) (by omega) start
      rw [parts]
      exact addFrom_of_weights add extendedTerms (4 * (n / 4)) (n - 4 * (n / 4)) (by omega)
        (lanes.total add)

/-- **What addition keeps, a sum has**, if zero and all terms have it. -/
theorem reduce_of_closed
    {holds : F → Prop}
    (add : ∀ {left right : F}, holds left → holds right → holds (left + right))
    (backend : Backend)
    (zero : holds 0)
    {read : Fin n → F}
    (terms : ∀ place, holds (read place)) :
    holds (backend.reduce (M := Id) (fun place => pure (read place))) :=
  @reduce_of_weights F _ n Nat _ (fun _ => holds) add backend zero read (fun _ => 0) terms

end Reduction

end Standardize
