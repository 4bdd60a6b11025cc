import Mathlib.Data.Set.Card
import Standardize.Status

/-!
Contract: what a status has collected after a run of reports.

Owns:
- the places of an error, the members to follow from it down, and its leaves, the places
  where a single fault stands;
- the codes of an error, which are the faults at its leaves from left to right, each leaf
  once, however deep errors are nested;
- the errors that a run of reports has recorded, and the one error they amount to.

Does not own: messages.
-/

set_option autoImplicit false

namespace Standardize

namespace Error

/-! ## Places -/

/-- An error holds of all errors if it holds of faults, and of errors reported together
where it holds of each. -/
@[elab_as_elim]
theorem induction
    {motive : Error → Prop}
    (single : ∀ fault, motive (.single fault))
    (composite : ∀ errors, (∀ error ∈ errors, motive error) → motive (.composite errors))
    (error : Error) :
    motive error := by
  refine Error.rec (motive_1 := motive)
    (motive_2 := fun errors => ∀ error ∈ errors, motive error) single composite ?_ ?_ error
  · exact List.forall_mem_nil _
  · intro first rest firstHolds restHold
    exact List.forall_mem_cons.2 ⟨firstHolds, restHold⟩

/-- The error at a place: the members to follow, from the outermost error on. -/
def at? : Error → List Nat → Option Error
  | error, [] => some error
  | single _, _ :: _ => none
  | composite errors, member :: rest => errors[member]?.bind fun error => error.at? rest

/-- The places where a single fault stands. -/
def leaves (error : Error) : Set (List Nat) :=
  {place | ∃ fault, error.at? place = some (single fault)}

mutual

/-- The leaves from left to right. -/
def leafPlaces : Error → List (List Nat)
  | single _ => [[]]
  | composite errors => leafPlacesFrom 0 errors

/-- The leaves of members of a compound error, the first of which has a number. -/
def leafPlacesFrom : Nat → List Error → List (List Nat)
  | _, [] => []
  | member, error :: rest =>
      (leafPlaces error).map (member :: ·) ++ leafPlacesFrom (member + 1) rest

end

private theorem mem_leafPlacesFrom_iff {first : Nat} {errors : List Error} {place : List Nat} :
    place ∈ leafPlacesFrom first errors ↔
      ∃ member rest error, place = (first + member) :: rest ∧ errors[member]? = some error ∧
        rest ∈ error.leafPlaces := by
  induction errors generalizing first with
  | nil => simp [leafPlacesFrom]
  | cons error others inductionHypothesis =>
      rw [leafPlacesFrom, List.mem_append, List.mem_map, inductionHypothesis]
      constructor
      · rintro (⟨rest, inFirst, rfl⟩ | ⟨member, rest, other, rfl, found, inOther⟩)
        · exact ⟨0, rest, error, rfl, rfl, inFirst⟩
        · exact ⟨member + 1, rest, other, by rw [Nat.add_right_comm, Nat.add_assoc], found, inOther⟩
      · rintro ⟨member, rest, other, rfl, found, inOther⟩
        cases member with
        | zero =>
            cases found
            exact .inl ⟨rest, inOther, rfl⟩
        | succ member =>
            exact .inr ⟨member, rest, other, by rw [Nat.add_right_comm, Nat.add_assoc], found,
              inOther⟩

private theorem mem_leafPlaces_iff (error : Error) (place : List Nat) :
    place ∈ error.leafPlaces ↔ place ∈ error.leaves := by
  induction error using Error.induction generalizing place with
  | single fault =>
      cases place with
      | nil => simp [leafPlaces, leaves, at?]
      | cons member rest => simp [leafPlaces, leaves, at?]
  | composite errors inductionHypothesis =>
      rw [leafPlaces, mem_leafPlacesFrom_iff]
      constructor
      · rintro ⟨member, rest, error, rfl, found, inside⟩
        obtain ⟨fault, atRest⟩ :=
          (inductionHypothesis error (List.mem_of_getElem? found) rest).1 inside
        refine ⟨fault, ?_⟩
        rw [Nat.zero_add, at?, found]
        exact atRest
      · rintro ⟨fault, atPlace⟩
        cases place with
        | nil => cases atPlace
        | cons member rest =>
            obtain ⟨error, found, atRest⟩ := Option.bind_eq_some_iff.1 atPlace
            exact ⟨member, rest, error, by rw [Nat.zero_add], found,
              (inductionHypothesis error (List.mem_of_getElem? found) rest).2 ⟨fault, atRest⟩⟩

/-- Members of a lower number come first, and inside a member the order is its own. -/
private theorem sorted_leafPlacesFrom
    {errors : List Error}
    (sorted : ∀ error ∈ errors, error.leafPlaces.Pairwise (· < ·))
    (first : Nat) :
    (leafPlacesFrom first errors).Pairwise (· < ·) := by
  induction errors generalizing first with
  | nil => exact List.Pairwise.nil
  | cons error others inductionHypothesis =>
      obtain ⟨errorSorted, othersSorted⟩ := List.forall_mem_cons.1 sorted
      rw [leafPlacesFrom, List.pairwise_append]
      refine ⟨?_, inductionHypothesis othersSorted (first + 1), ?_⟩
      · rw [List.pairwise_map]
        exact errorSorted.imp fun before => List.cons_lt_cons_iff.2 (.inr ⟨rfl, before⟩)
      · intro left inFirst right inOthers
        obtain ⟨rest, -, rfl⟩ := List.mem_map.1 inFirst
        obtain ⟨member, otherRest, other, rfl, -, -⟩ := mem_leafPlacesFrom_iff.1 inOthers
        exact List.cons_lt_cons_iff.2 (.inl (by omega))

private theorem sorted_leafPlaces (error : Error) : error.leafPlaces.Pairwise (· < ·) := by
  induction error using Error.induction with
  | single fault => exact List.pairwise_singleton _ _
  | composite errors inductionHypothesis =>
      rw [leafPlaces]
      exact sorted_leafPlacesFrom inductionHypothesis 0

/-! ## Codes -/

/-- The codes of members stand at their leaves in the compound error. -/
private theorem map_at?_leafPlacesFrom
    {errors : List Error}
    (codesAt : ∀ error ∈ errors, error.leafPlaces.map error.at? = error.codes.map (some ∘ single))
    (earlier : List Error) :
    (leafPlacesFrom earlier.length errors).map (composite (earlier ++ errors)).at? =
      (codesOf errors).map (some ∘ single) := by
  induction errors generalizing earlier with
  | nil => rfl
  | cons error others inductionHypothesis =>
      obtain ⟨errorAt, othersAt⟩ := List.forall_mem_cons.1 codesAt
      have rest := inductionHypothesis othersAt (earlier ++ [error])
      rw [List.length_append, List.length_singleton, List.append_assoc] at rest
      have here : (composite (earlier ++ error :: others)).at? ∘ (earlier.length :: ·) =
          error.at? := by
        funext place
        simp [at?]
      rw [leafPlacesFrom, codesOf, List.map_append, List.map_append, List.map_map, here, errorAt]
      exact congrArg _ rest

/-- **Codes are the faults at the leaves**, from left to right. -/
theorem map_at?_leafPlaces (error : Error) :
    error.leafPlaces.map error.at? = error.codes.map (some ∘ single) := by
  induction error using Error.induction with
  | single fault => rfl
  | composite errors inductionHypothesis =>
      rw [leafPlaces, codes]
      exact map_at?_leafPlacesFrom inductionHypothesis []

/-- There are as many codes as leaves. -/
theorem length_codes (error : Error) : error.codes.length = error.leaves.ncard := by
  have listed : error.leaves = (error.leafPlaces.toFinset : Set (List Nat)) := by
    ext place
    rw [List.coe_toFinset]
    exact (error.mem_leafPlaces_iff place).symm
  have distinct : error.leafPlaces.Nodup := error.sorted_leafPlaces.imp fun before => before.ne
  have lengths := congrArg List.length error.map_at?_leafPlaces
  rw [List.length_map, List.length_map] at lengths
  rw [listed, Set.ncard_coe_finset, List.toFinset_card_of_nodup distinct, lengths]

end Error

namespace Status

/-! ## Reports -/

/-- What a status is told: an error, or the outcome of a check. -/
inductive Report where
  | push (error : Error)
  | check (outcome : Except Error Unit)

/-- The error of a report; a check that succeeded has none. -/
def Report.error? : Report → Option Error
  | push error => some error
  | check (.ok _) => none
  | check (.error error) => some error

/-- The errors that a run of reports has, in its order. -/
def recorded (reports : List Report) : List Error :=
  reports.filterMap Report.error?

def report (status : Status) : Report → Status
  | .push error => status.push error
  | .check outcome => status.check outcome

/-- A new status after a run of reports. -/
def after (reports : List Report) : Status :=
  reports.foldl report empty

/-- A report adds its error behind those recorded before, and changes nothing else. -/
theorem errors_report (status : Status) (next : Report) :
    (status.report next).errors = status.errors ++ next.error?.toList := by
  cases next with
  | push error => rfl
  | check outcome =>
      cases outcome with
      | ok _ => exact (List.append_nil _).symm
      | error error => rfl

private theorem errors_foldl_report (status : Status) (reports : List Report) :
    (reports.foldl report status).errors = status.errors ++ recorded reports := by
  induction reports generalizing status with
  | nil => exact (List.append_nil _).symm
  | cons first rest inductionHypothesis =>
      rw [List.foldl_cons, inductionHypothesis, errors_report, List.append_assoc]
      cases error : first.error? with
      | none => simp [recorded, error]
      | some found => simp [recorded, error]

private theorem errors_after (reports : List Report) : (after reports).errors = recorded reports :=
  errors_foldl_report empty reports

/-! ## The collected error -/

variable {status : Status} {error : Error}

private theorem isOk_iff : status.isOk = true ↔ status.errors = [] :=
  List.isEmpty_iff

private theorem error?_eq_none_iff : status.error? = none ↔ status.errors = [] := by
  obtain ⟨errors⟩ := status
  match errors with
  | [] => simp [error?]
  | [_] => simp [error?]
  | _ :: _ :: _ => simp [error?]

private theorem error?_of_singleton (alone : status.errors = [error]) :
    status.error? = some error := by
  rw [error?, alone]

private theorem error?_of_several (several : 1 < status.errors.length) :
    status.error? = some (.composite status.errors) := by
  obtain ⟨errors⟩ := status
  match errors with
  | [] => simp at several
  | [_] => simp at several
  | _ :: _ :: _ => rfl

/-- Whether errors are reported together or the only one as it is does not show in the
codes. -/
theorem codes_of_error?_eq_some (collected : status.error? = some error) :
    error.codes = status.errors.flatMap Error.codes := by
  obtain ⟨errors⟩ := status
  match errors with
  | [] => cases collected
  | [_] =>
      cases collected
      exact (List.flatMap_singleton _ _).symm
  | _ :: _ :: _ =>
      cases collected
      rw [Error.codes, Error.codesOf_eq_flatMap]

private theorem result_eq_ok_iff : status.result = .ok () ↔ status.error? = none := by
  unfold result
  cases status.error? <;> simp

private theorem result_eq_error_iff :
    status.result = .error error ↔ status.error? = some error := by
  unfold result
  cases status.error? <;> simp

/-- **Nothing is lost and nothing doubled.** After a run of reports a status is fine just
if none of them had an error, and then it stands for none. A single error it stands for is
that error, compound or not, and several are reported together in their order. The codes
of what it stands for are those of the recorded errors one after the other, and as many as
these have leaves: each error's codes are the faults at its leaves, from left to right and
each leaf once. The result is success or failure accordingly. -/
theorem collected_after (reports : List Report) :
    ((after reports).isOk = true ↔ recorded reports = []) ∧
      ((after reports).error? = none ↔ (after reports).isOk = true) ∧
      (∀ error, recorded reports = [error] → (after reports).error? = some error) ∧
      (1 < (recorded reports).length →
        (after reports).error? = some (.composite (recorded reports))) ∧
      (∀ error, (after reports).error? = some error →
        error.codes = (recorded reports).flatMap Error.codes ∧
          error.codes.length = ((recorded reports).map fun part => part.leaves.ncard).sum) ∧
      (∀ error : Error, ∃ places : List (List Nat),
        places.Pairwise (· < ·) ∧ (∀ place, place ∈ places ↔ place ∈ error.leaves) ∧
          places.map error.at? = error.codes.map (some ∘ .single)) ∧
      ((after reports).result = .ok () ↔ (after reports).error? = none) ∧
      ∀ error, (after reports).result = .error error ↔ (after reports).error? = some error := by
  rw [← errors_after reports]
  refine ⟨isOk_iff, error?_eq_none_iff.trans isOk_iff.symm, fun _ => error?_of_singleton,
    error?_of_several, fun error collected => ?_, fun error => ?_, result_eq_ok_iff,
    fun _ => result_eq_error_iff⟩
  · have codes := codes_of_error?_eq_some collected
    refine ⟨codes, ?_⟩
    rw [codes, List.length_flatMap]
    exact congrArg List.sum (List.map_congr_left fun part _ => part.length_codes)
  · exact ⟨error.leafPlaces, error.sorted_leafPlaces, error.mem_leafPlaces_iff,
      error.map_at?_leafPlaces⟩

/-- A compound error with an empty member is followed by a check that succeeds and one that
fails; and a nested error that is the only one is passed on as it is. -/
theorem collected_after_of_nested_errors :
    let nested : Error := .composite [.single .inputUnset, .composite [], .single .resultUnset]
    let mixed : List Report :=
      [.push nested, .check (.ok ()), .check (.error (.single .targetMissing))]
    let alone : List Report := [.check (.ok ()), .check (.error (.composite [nested]))]
    recorded mixed = [nested, .single .targetMissing] ∧ (after mixed).isOk = false ∧
      (after mixed).error? = some (.composite [nested, .single .targetMissing]) ∧
      (after alone).error? = some (.composite [nested]) ∧
      (after alone).result = .error (.composite [nested]) ∧
      (Error.composite [nested]).codes = [.inputUnset, .resultUnset] := by
  intro nested mixed alone
  have mixedRecorded : recorded mixed = [nested, .single .targetMissing] := rfl
  have aloneRecorded : recorded alone = [.composite [nested]] := rfl
  obtain ⟨fine, -, -, several, -, -, -, -⟩ := collected_after mixed
  obtain ⟨-, -, only, -, codes, -, -, failed⟩ := collected_after alone
  have collected := only _ aloneRecorded
  refine ⟨mixedRecorded, Bool.eq_false_iff.2 fun ok => ?_, several (by decide), collected,
    (failed _).2 collected, (codes _ collected).1⟩
  exact absurd (fine.1 ok) (List.cons_ne_nil _ _)

end Status

end Standardize
