import Mathlib.Data.List.FinRange
import Standardize.Proofs.Reduction

/-!
Contract: what a backend leaves in an output slice.

Owns:
- the places that a run of stores reaches, and what they hold;
- standardization, which is the same map over the slice on every backend,
  whatever the output slice held before;
- the order of its stores, which reach every place once, and what they leave in a
  memory of which the output slice is a part.

Does not own: reductions.
-/

set_option autoImplicit false

namespace Standardize.Backend

variable {T F : Type} [Arithmetic F] [Element T F]

omit [Arithmetic F] [Element T F] in
/-- Stores reach the places of their run and no others. -/
private theorem getElem_storeFrom
    {n : Nat}
    (value : Fin n → T)
    (start count : Nat)
    (inside : start + count ≤ n)
    (out : Vector T n)
    {place : Nat}
    (placeLt : place < n) :
    (storeFrom value start count inside out)[place] =
      if start ≤ place ∧ place < start + count then value ⟨place, placeLt⟩ else out[place] := by
  unfold storeFrom
  induction count with
  | zero =>
      rw [Nat.fold_zero, if_neg (by omega)]
  | succ count inductionHypothesis =>
      rw [Nat.fold_succ, Vector.getElem_set, inductionHypothesis (by omega)]
      by_cases here : start + count = place
      · subst here
        rw [if_pos rfl, if_pos (by omega)]
      · rw [if_neg here]
        by_cases earlier : start ≤ place ∧ place < start + count
        · rw [if_pos earlier, if_pos (by omega)]
        · rw [if_neg earlier, if_neg (by omega)]

omit [Arithmetic F] [Element T F] in
private theorem getElem_storeGroups
    {n : Nat}
    (value : Fin n → T)
    (groups : Nat)
    (inside : 4 * groups ≤ n)
    (out : Vector T n)
    {place : Nat}
    (placeLt : place < n) :
    (storeGroups value groups inside out)[place] =
      if place < 4 * groups then value ⟨place, placeLt⟩ else out[place] := by
  unfold storeGroups
  induction groups with
  | zero =>
      rw [Nat.fold_zero, if_neg (by omega)]
  | succ groups inductionHypothesis =>
      rw [Nat.fold_succ, getElem_storeFrom, inductionHypothesis (by omega)]
      by_cases last : 4 * groups ≤ place ∧ place < 4 * groups + 4
      · rw [if_pos last, if_pos (by omega)]
      · rw [if_neg last]
        by_cases earlier : place < 4 * groups
        · rw [if_pos earlier, if_pos (by omega)]
        · rw [if_neg earlier, if_neg (by omega)]

/-- **Every place is written.** After standardization each place of the output
holds the standardized value of its own place. -/
theorem getElem_standardizeInto
    (backend : Backend)
    (data : Array T)
    (center scale : F)
    (out : Vector T data.size)
    {place : Nat}
    (placeLt : place < data.size) :
    (backend.standardizeInto data center scale out)[place] =
      standardizeValue center scale data[place] := by
  unfold standardizeInto
  cases backend with
  | scalar =>
      dsimp only
      rw [getElem_storeFrom, if_pos (by omega)]
      rfl
  | avx2 =>
      dsimp only
      rw [getElem_storeFrom, getElem_storeGroups]
      by_cases grouped : place < 4 * (data.size / 4)
      · rw [if_neg (by omega), if_pos grouped]
        rfl
      · rw [if_pos (by omega)]
        rfl

theorem standardize_eq_map
    (backend : Backend)
    (data : Array T)
    (center scale : F) :
    backend.standardize data center scale = data.map (standardizeValue center scale) := by
  unfold standardize
  apply Array.ext
  · simp
  · intro place inside _
    have placeLt : place < data.size := by simpa using inside
    rw [Vector.getElem_toArray, getElem_standardizeInto backend data center scale _ placeLt,
      Array.getElem_map]

/-! ## The order of stores -/

/-- The places of a run of stores. -/
def placesFrom {n : Nat} (start count : Nat) (inside : start + count ≤ n) : List (Fin n) :=
  (List.finRange count).map fun (offset : Fin count) => ⟨start + offset, by omega⟩

/-- The places of the first groups of four. -/
def placesOfGroups {n : Nat} (groups : Nat) (inside : 4 * groups ≤ n) : List (Fin n) :=
  (List.finRange groups).flatMap fun (group : Fin groups) => placesFrom (4 * group) 4 (by omega)

private theorem places_le (n : Nat) : 0 + n ≤ n := by
  omega

private theorem groups_le (n : Nat) : 4 * (n / 4) ≤ n := by
  omega

private theorem rest_le (n : Nat) : 4 * (n / 4) + (n - 4 * (n / 4)) ≤ n := by
  omega

/-- The places that a backend stores to, in its order. -/
def storedPlaces : Backend → (n : Nat) → List (Fin n)
  | scalar, n => placesFrom 0 n (places_le n)
  | avx2, n =>
      placesOfGroups (n / 4) (groups_le n) ++
        placesFrom (4 * (n / 4)) (n - 4 * (n / 4)) (rest_le n)

private theorem map_val_placesFrom {n : Nat} (start count : Nat) (inside : start + count ≤ n) :
    (placesFrom start count inside).map Fin.val = List.range' start count := by
  have offsets : (placesFrom start count inside).map Fin.val =
      ((List.finRange count).map Fin.val).map (start + ·) := by
    rw [placesFrom, List.map_map, List.map_map]
    rfl
  rw [offsets, List.map_coe_finRange_eq_range, List.range'_eq_map_range]

private theorem map_val_placesOfGroups {n : Nat} (groups : Nat) (inside : 4 * groups ≤ n) :
    (placesOfGroups groups inside).map Fin.val = List.range (4 * groups) := by
  have runs : (placesOfGroups groups inside).map Fin.val =
      ((List.finRange groups).map Fin.val).flatMap fun group => List.range' (4 * group) 4 := by
    rw [placesOfGroups, List.map_flatMap, List.flatMap_map]
    simp only [map_val_placesFrom]
  rw [runs, List.map_coe_finRange_eq_range]
  clear inside runs
  induction groups with
  | zero => rfl
  | succ groups inductionHypothesis =>
      rw [List.range_succ, List.flatMap_append, inductionHypothesis, List.flatMap_singleton,
        List.range_eq_range', List.range_eq_range', show 4 * (groups + 1) = 4 * groups + 4 by omega,
        ← List.range'_append_1, Nat.zero_add]

/-- **Every place is stored to once**, from the first to the last, on every backend. -/
theorem storedPlaces_eq_finRange (backend : Backend) (n : Nat) :
    backend.storedPlaces n = List.finRange n := by
  apply List.map_injective_iff.2 Fin.val_injective
  rw [List.map_coe_finRange_eq_range]
  cases backend with
  | scalar =>
      rw [List.range_eq_range']
      exact map_val_placesFrom 0 n (by omega)
  | avx2 =>
      rw [storedPlaces, List.map_append, map_val_placesOfGroups, map_val_placesFrom,
        List.range_eq_range', Reduction.range_groups_append_rest]

section Stores

variable {n : Nat} (value : Fin n → T)

/-- Store a function of the place at each of some places. -/
def storeAll (places : List (Fin n)) (out : Vector T n) : Vector T n :=
  places.foldl (fun out (place : Fin n) => out.set place (value place)) out

omit [Arithmetic F] [Element T F] in
private theorem storeFrom_eq_storeAll
    (start count : Nat)
    (inside : start + count ≤ n)
    (out : Vector T n) :
    storeFrom value start count inside out =
      storeAll value (placesFrom start count inside) out := by
  rw [storeFrom, Nat.fold_eq_finRange_foldl, storeAll, placesFrom, List.foldl_map]

omit [Arithmetic F] [Element T F] in
private theorem storeGroups_eq_storeAll
    (groups : Nat)
    (inside : 4 * groups ≤ n)
    (out : Vector T n) :
    storeGroups value groups inside out = storeAll value (placesOfGroups groups inside) out := by
  rw [storeGroups, Nat.fold_eq_finRange_foldl, storeAll, placesOfGroups, List.foldl_flatMap]
  simp only [storeFrom_eq_storeAll]
  rfl

/-- Store a function of the place at each of some places of a slice that starts at an
address of a memory. -/
def storeAllAt (places : List (Fin n)) (start : Nat) (memory : Array T) : Array T :=
  places.foldl
    (fun memory (place : Fin n) => memory.setIfInBounds (start + place) (value place)) memory

omit [Arithmetic F] [Element T F] in
/-- Stores to a slice leave the memory around it as it is. -/
theorem storeAllAt_append
    (places : List (Fin n))
    (before : Array T)
    (out : Vector T n)
    (after : Array T) :
    storeAllAt value places before.size (before ++ out.toArray ++ after) =
      before ++ (storeAll value places out).toArray ++ after := by
  induction places generalizing out with
  | nil => rfl
  | cons place rest inductionHypothesis =>
      have stored :
          (before ++ out.toArray ++ after).setIfInBounds (before.size + place) (value place) =
            before ++ (out.set place (value place)).toArray ++ after := by
        rw [Array.append_assoc, Array.setIfInBounds_append_right (by omega),
          Nat.add_sub_cancel_left, Array.setIfInBounds_append_left (by simp), Vector.toArray_set,
          Array.setIfInBounds_def, dif_pos (by simp), Array.append_assoc]
      unfold storeAllAt at inductionHypothesis ⊢
      rw [List.foldl_cons, stored, inductionHypothesis]
      rfl

end Stores

/-- What is stored at a place of the output. -/
def standardizedAt (data : Array T) (center scale : F) (place : Fin data.size) : T :=
  standardizeValue center scale (data.toVector.get place)

/-- Standardization is one store for each place of the slice. -/
theorem standardizeInto_eq_storeAll
    (backend : Backend)
    (data : Array T)
    (center scale : F)
    (out : Vector T data.size) :
    backend.standardizeInto data center scale out =
      storeAll (standardizedAt data center scale) (backend.storedPlaces data.size) out := by
  cases backend with
  | scalar =>
      rw [standardizeInto, storeFrom_eq_storeAll, storedPlaces]
      rfl
  | avx2 =>
      rw [standardizeInto, storeFrom_eq_storeAll, storeGroups_eq_storeAll, storedPlaces]
      exact List.foldl_append.symm

end Standardize.Backend
