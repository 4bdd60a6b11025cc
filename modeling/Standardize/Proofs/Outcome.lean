import Standardize.Arithmetic.Binary32
import Standardize.Proofs.Fill
import Standardize.Proofs.Validation

/-!
Contract: when a standardization fails, what it fails with, and what it leaves.

Owns:
- the run as a whole, which fails for the first cause there is;
- the outcome of a standardization of any input, parameter and output: six
  causes of failure, looked for in order, and an output that a failure empties;
- what a standardization that succeeds leaves, cell by cell.

Does not own: the causes themselves.
-/

set_option autoImplicit false

namespace Standardize

open Reference

variable {T F τ : Type} [Arithmetic F] [Element T F] [TableShape τ] [TableAccess τ T]

/-! ## Runs -/

section Runs

variable
  {memory : Memory}
  {engine : Engine}
  {input : τ}
  {parameter : Parameter F}
  {output : Output T}

/-- A run fails for what stands in the way of its places, and otherwise fills
them. -/
theorem run_eq_fill :
    run memory engine input parameter output =
      (preparationFailure? memory input parameter output).elim
        (fill engine input parameter
          (output.allocate memory (TableShape.rows input) (TableShape.cols input) parameter).2)
        .error := by
  unfold run preparationFailure?
  rw [validate_eq_settle]
  cases emptyFailure? input with
  | some failure => rfl
  | none =>
      cases parameterFailure? parameter (TableShape.cols input) with
      | some failure => rfl
      | none =>
          simp only [Option.orElse_eq_orElse, Option.orElse_eq_or, Option.none_or, settle_none]
          rcases output.allocate memory (TableShape.rows input) (TableShape.cols input) parameter
            with ⟨_ | _, provided⟩ <;> rfl

omit [Arithmetic F] [TableAccess τ T] in
/-- Where nothing stands in the way, the sums fit and the places are provided. -/
theorem provided_of_preparationFailure?_eq_none
    (prepared : preparationFailure? memory input parameter output = none) :
    parameterFailure? parameter (TableShape.cols input) = none ∧
      Provided (places parameter (TableShape.rows input) (TableShape.cols input))
        (output.allocate memory (TableShape.rows input) (TableShape.cols input)
          parameter).2 := by
  unfold preparationFailure? at prepared
  obtain ⟨-, later⟩ := (Option.orElse_eq_none _ _).1 prepared
  obtain ⟨checked, allocated⟩ := (Option.orElse_eq_none _ _).1 later
  obtain ⟨nothing, answer⟩ := exists_of_failure?_eq_none allocated
  exact ⟨checked, provided_of_allocate (Prod.ext answer rfl)⟩

/-- **A run fails for the first cause there is**, and otherwise leaves every place
filled. -/
theorem run_settles
    (memory : Memory)
    (engine : Engine)
    (parameter : Parameter F)
    (output : Output T)
    (regular : Table.Regular T input) :
    (∃ failure, runFailure? memory engine input parameter output = some failure ∧
        run memory engine input parameter output = .error failure) ∨
      ∃ written, runFailure? memory engine input parameter output = none ∧
        run memory engine input parameter output = .ok written ∧
        Filled engine input parameter written := by
  unfold runFailure?
  rw [run_eq_fill]
  cases prepared : preparationFailure? memory input parameter output with
  | some failure => exact .inl ⟨failure, rfl, rfl⟩
  | none =>
      obtain ⟨checked, provided⟩ := provided_of_preparationFailure?_eq_none prepared
      exact fill_settles engine regular checked provided

theorem compute_of_error
    {failure : Error}
    (failed : run memory engine input parameter output = .error failure) :
    compute memory engine input parameter output = (.error failure, SlotMap.empty) := by
  unfold compute
  rw [failed]

theorem compute_of_ok
    {written : Output T}
    (succeeded : run memory engine input parameter output = .ok written) :
    compute memory engine input parameter output = (.ok (), written) := by
  unfold compute
  rw [succeeded]

/-- The answer of a standardization is its first cause of failure. -/
theorem compute_fst_eq_settle
    (memory : Memory)
    (engine : Engine)
    (parameter : Parameter F)
    (output : Output T)
    (regular : Table.Regular T input) :
    (compute memory engine input parameter output).1 =
      settle (runFailure? memory engine input parameter output) () := by
  rcases run_settles memory engine parameter output regular with
    ⟨failure, cause, failed⟩ | ⟨written, noCause, succeeded, -⟩
  · rw [compute_of_error failed, cause]
    rfl
  · rw [compute_of_ok succeeded, noCause]
    rfl

theorem compute_snd_of_error
    {failure : Error}
    (failed : (compute memory engine input parameter output).1 = .error failure) :
    (compute memory engine input parameter output).2 = SlotMap.empty := by
  unfold compute at failed ⊢
  split
  · rename_i succeeded
    rw [succeeded] at failed
    cases failed
  · rfl

/-- **The failures of a standardization.** It fails exactly when there is a cause,
and then with the first: no cells; sums that are missing or do not fit; a
registered table of another shape; a column that the scan cannot read; a column
without variance that is refused; a column that cannot be read. A failure leaves
every place empty. -/
theorem compute_eq_error_iff
    (memory : Memory)
    (engine : Engine)
    (input : τ)
    (parameter : Parameter F)
    (output : Output T)
    (regular : Table.Regular T input)
    (serves :
      Serves memory (places parameter (TableShape.rows input) (TableShape.cols input)) output) :
    (∀ failure,
      (compute memory engine input parameter output).1 = .error failure ↔
        (emptyFailure? input <|>
          parameterFailure? parameter (TableShape.cols input) <|>
          outputFailure? output
            (places parameter (TableShape.rows input) (TableShape.cols input)) <|>
          scanFailure? T input parameter <|>
          policyFailure? T engine input parameter <|>
          readFailure? T input) = some failure) ∧
      ∀ failure, (compute memory engine input parameter output).1 = .error failure →
        (compute memory engine input parameter output).2 = SlotMap.empty := by
  have cause : runFailure? memory engine input parameter output =
      (emptyFailure? input <|>
        parameterFailure? parameter (TableShape.cols input) <|>
        outputFailure? output
          (places parameter (TableShape.rows input) (TableShape.cols input)) <|>
        scanFailure? T input parameter <|>
        policyFailure? T engine input parameter <|>
        readFailure? T input) := by
    unfold runFailure? preparationFailure? fillFailure?
    rw [failure?_allocate serves]
    simp only [Option.orElse_eq_orElse, Option.orElse_eq_or, Option.or_assoc]
  refine ⟨fun failure => ?_, fun failure failed => compute_snd_of_error failed⟩
  rw [compute_fst_eq_settle memory engine parameter output regular, cause, settle_eq_error_iff]

/-- A table whose second column is guarded fails for that column. -/
theorem compute_of_guarded_column :
    let failure : Error := .single (.invalidInput (.columnOutOfRange 7 2))
    let input : Guarded (Dense Float) :=
      ⟨⟨1, 2, #[0.5, 1.5], rfl⟩, fun column => if column = 1 then some failure else none,
        fun _ => none⟩
    Table.Regular Float input ∧
      Serves Memory.unbounded (places (Parameter.standard (F := Float)) 1 2)
        (SlotMap.empty : Output Float) ∧
      compute Memory.unbounded (Engine.sequential .scalar) input Parameter.standard
        (SlotMap.empty : Output Float) = (.error failure, SlotMap.empty) := by
  intro failure input
  have regular : Table.Regular Float input := LawfulView.regular input
  have serves : Serves Memory.unbounded (places (Parameter.standard (F := Float)) 1 2)
      (SlotMap.empty : Output Float) := by
    intro place member _
    rw [show places (Parameter.standard (F := Float)) 1 2 = [⟨.normalizedData, 1, 2⟩] from rfl,
      List.mem_singleton] at member
    subst member
    exact ⟨_, rfl⟩
  obtain ⟨fails, empties⟩ :=
    compute_eq_error_iff Memory.unbounded (Engine.sequential .scalar) input Parameter.standard
      SlotMap.empty regular serves
  have failed := (fails failure).2 rfl
  exact ⟨regular, serves, Prod.ext failed (empties failure failed)⟩

/-! ## Cells -/

variable [TableView τ T]

/-- A standardization cell by cell. The columns that the numbers are taken from
are those of the input, each value is centered and scaled on its own, and a
center or a variance is narrowed once, when it is stored. -/
structure CellsStandardized
    (engine : Engine)
    (input : τ)
    (parameter : Parameter F)
    (written : Output T) :
    Prop where
  columns :
    ∀ column < TableShape.cols input, ∀ row,
      (values T input column)[row]? = TableView.cell? input row column
  data :
    written.Holds .normalizedData (TableShape.rows input) (TableShape.cols input)
      fun row column =>
        (TableView.cell? input row column : Option T).map fun value =>
          Element.narrow
            ((Element.widen value - center T engine input parameter column) *
              scale parameter (variance T engine input parameter column))
  means :
    if parameter.wants .mean then
      written.Holds .means 1 (TableShape.cols input)
        (rowCell? (TableShape.cols input) (center T engine input parameter))
    else written.get? .means = none
  variances :
    if parameter.wants .variance then
      written.Holds .variances 1 (TableShape.cols input)
        (rowCell? (TableShape.cols input) (variance T engine input parameter))
    else written.get? .variances = none
  scaled :
    parameter.doScale = true → parameter.zeroVariance = .reject →
      ∀ column < TableShape.cols input,
        Arithmetic.lt 0 (variance T engine input parameter column) = true

theorem getElem?_values
    [LawfulView τ T]
    (readable : readFailure? T input = none)
    {column : Nat}
    (columnLt : column < TableShape.cols input)
    (row : Nat) :
    (values T input column)[row]? = TableView.cell? input row column := by
  obtain ⟨read, readEq⟩ := exists_of_failure?_eq_none
    (List.findSome?_eq_none_iff.1 readable column (List.mem_range.2 columnLt))
  rw [values_of_readColumn readEq]
  exact LawfulView.getElem?_of_readColumn input column read readEq row

omit [TableView τ T] in
/-- Without a cause of refusal, every variance that is divided by is above zero. -/
theorem lt_variance_of_policyFailure?_eq_none
    (accepted : policyFailure? T engine input parameter = none)
    (scaling : parameter.doScale = true)
    (policy : parameter.zeroVariance = .reject) :
    ∀ column < TableShape.cols input,
      Arithmetic.lt 0 (variance T engine input parameter column) = true := by
  intro column columnLt
  unfold policyFailure? at accepted
  rw [if_pos ⟨scaling, policy⟩, Option.map_eq_none_iff] at accepted
  simpa using List.find?_eq_none.1 accepted column (List.mem_range.2 columnLt)

/-- **The cells of a standardization.** Whatever the layout, the engine, the flags
and the tables that were registered before, a standardization that succeeds
leaves exactly the cells of the account. -/
theorem cellsStandardized_of_compute
    [LawfulView τ T]
    (memory : Memory)
    (engine : Engine)
    (input : τ)
    (parameter : Parameter F)
    (output written : Output T)
    (succeeded : compute memory engine input parameter output = (.ok (), written)) :
    CellsStandardized engine input parameter written := by
  rcases run_settles memory engine parameter output (LawfulView.regular input) with
    ⟨failure, -, failed⟩ | ⟨left, noCause, leaves, filled⟩
  · rw [compute_of_error failed] at succeeded
    cases succeeded
  · rw [compute_of_ok leaves] at succeeded
    cases succeeded
    obtain ⟨-, accepted, readable⟩ :
        scanFailure? T input parameter = none ∧ policyFailure? T engine input parameter = none ∧
          readFailure? T input = none := by
      simpa [fillFailure?] using ((Option.orElse_eq_none _ _).1 noCause).2
    refine ⟨fun column columnLt => getElem?_values readable columnLt, ?_, filled.means,
      filled.variances, lt_variance_of_policyFailure?_eq_none accepted⟩
    obtain ⟨table, held, rowsEq, colsEq, cells⟩ := filled.data
    refine ⟨table, held, rowsEq, colsEq, fun row column => ?_⟩
    rw [cells]
    dsimp only
    by_cases columnLt : column < TableShape.cols input
    · rw [if_pos columnLt, ← getElem?_values readable columnLt]
      unfold standardized
      rw [Array.getElem?_map]
      rfl
    · have outside : (TableView.cell? input row column : Option T) = none := by
        rw [← Option.not_isSome_iff_eq_none, LawfulView.isSome_cell?_iff]
        exact fun inside => columnLt inside.2
      rw [if_neg columnLt, outside]
      rfl

/-- Integers and wide numbers read as narrow ones, on a pool with more threads
than columns, over a table of variances that nobody asks for. -/
theorem cellsStandardized_of_mixed_columns :
    let columns : Array (Column Float32 Float) :=
      #[.integers #[1, 2, 4], .doubles #[0.1, 0.2, 0.3]]
    let input : AnyTable Float32 Float32 Float :=
      .columns ⟨3, columns, by decide⟩
    let engine : Engine := ⟨.avx2, .pool 3 (by decide)⟩
    let parameter : Parameter Float := { results := .mean }
    let output : Output Float32 := SlotMap.empty.set .variances ⟨1, 1, #[9], rfl⟩
    ∃ written, compute Memory.unbounded engine input parameter output = (.ok (), written) ∧
      CellsStandardized engine input parameter written := by
  intro columns input engine parameter output
  have answer : (compute Memory.unbounded engine input parameter output).1.isOk = true := by
    decide +kernel
  rcases outcome : compute Memory.unbounded engine input parameter output with ⟨first, written⟩
  rw [outcome] at answer
  cases first with
  | error failure => cases answer
  | ok nothing =>
      exact ⟨written, rfl, cellsStandardized_of_compute Memory.unbounded engine input parameter
        output written outcome⟩

end Runs

end Standardize
