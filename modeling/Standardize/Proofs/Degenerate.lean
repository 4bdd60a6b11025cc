import Mathlib.Order.Lattice.Nat
import Standardize.Proofs.Columnwise
import Standardize.Proofs.Floating.Comparison

/-!
Contract: which columns count as having no variance.

Owns:
- the columns that the policy decides on, which are those whose variance is at most
  zero and those whose variance is not a number;
- the column that a strict policy refuses, the lowest of both kinds;
- when that column is the first of those that are reported as having no variance.

Does not own: how a variance comes to be what is not a number.
-/

set_option autoImplicit false

namespace Standardize

/-! ## Columns by their variance -/

namespace Statistics

/-- The columns whose variance is of some kind, in order. -/
def columnsWhere {F : Type} (kind : F → Bool) (statistics : Statistics F) : List Nat :=
  (statistics.variances.toList.zipIdx.filter fun (variance, _) => kind variance).map Prod.snd

private theorem mem_columnsWhere_iff
    {F : Type}
    {kind : F → Bool}
    {statistics : Statistics F}
    {column : Nat} :
    column ∈ statistics.columnsWhere kind ↔
      ∃ variance, statistics.variances[column]? = some variance ∧ kind variance = true := by
  simp only [columnsWhere, List.mem_map, List.mem_filter, Prod.exists, exists_eq_right,
    List.mem_zipIdx_iff_getElem?, Array.getElem?_toList]

private theorem sorted_columnsWhere
    {F : Type}
    (kind : F → Bool)
    (statistics : Statistics F) :
    (statistics.columnsWhere kind).Pairwise (· < ·) := by
  refine List.Pairwise.sublist (List.filter_sublist.map Prod.snd) ?_
  rw [List.zipIdx_map_snd]
  exact List.pairwise_lt_range'

/-- The first of the columns of a kind is the least of them. -/
theorem head?_columnsWhere_eq_some_iff
    {F : Type}
    {kind : F → Bool}
    {statistics : Statistics F}
    {column : Nat} :
    (statistics.columnsWhere kind).head? = some column ↔
      IsLeast {column | column ∈ statistics.columnsWhere kind} column := by
  have sorted := sorted_columnsWhere kind statistics
  cases columns : statistics.columnsWhere kind with
  | nil => simp [IsLeast]
  | cons first rest =>
      rw [columns] at sorted
      have least : IsLeast {column | column ∈ first :: rest} first := by
        refine ⟨List.mem_cons_self, fun other member => ?_⟩
        rcases List.mem_cons.1 member with rfl | inRest
        · exact le_refl _
        · exact Nat.le_of_lt (List.rel_of_pairwise_cons sorted inRest)
      rw [List.head?_cons, Option.some_inj]
      constructor
      · rintro rfl
        exact least
      · exact least.unique

variable {F : Type} [Arithmetic F]

private theorem degenerateColumns_eq (statistics : Statistics F) :
    statistics.degenerateColumns = statistics.columnsWhere fun variance =>
      Arithmetic.le variance 0 :=
  rfl

/-- The columns whose variance is not a number, in order. -/
def undefinedColumns (statistics : Statistics F) : List Nat :=
  statistics.columnsWhere Arithmetic.isNaN

/-- The columns whose variance is not above zero, be it a number or not, in order. -/
def refusableColumns (statistics : Statistics F) : List Nat :=
  statistics.columnsWhere fun variance => !Arithmetic.lt 0 variance

/-- What becomes of a column depends on the policy. -/
def LeftToPolicy (statistics : Statistics F) (column : Nat) : Prop :=
  ∃ variance, statistics.variances[column]? = some variance ∧
    inverseScale .reject column variance ≠ inverseScale .emitZero column variance

end Statistics

/-! ## What is left to the policy -/

section Policy

variable {F : Type} [Arithmetic F] {statistics : Statistics F} {parameter : Parameter F}

private theorem inverseScale_ne_iff {column : Nat} {variance : F} :
    inverseScale .reject column variance ≠ inverseScale .emitZero column variance ↔
      Arithmetic.lt 0 variance = false := by
  unfold inverseScale
  cases Arithmetic.lt 0 variance <;> simp [Fault.raise]

private theorem leftToPolicy_iff_mem {column : Nat} :
    statistics.LeftToPolicy column ↔ column ∈ statistics.refusableColumns := by
  rw [Statistics.refusableColumns, Statistics.mem_columnsWhere_iff]
  simp only [Statistics.LeftToPolicy, inverseScale_ne_iff, Bool.not_eq_true']

/-- A strict policy refuses the first column that is left to it. -/
theorem failure?_inverseScales
    (scaled : parameter.doScale = true)
    (strict : parameter.zeroVariance = .reject) :
    failure? (inverseScales statistics parameter) =
      statistics.refusableColumns.head?.map fun column => .single (.degenerateColumn column) := by
  unfold inverseScales Statistics.refusableColumns Statistics.columnsWhere
  rw [if_pos scaled, inverseScalesFrom_eq_settle scaled, if_pos strict, List.head?_map,
    List.head?_filter, Option.map_map]
  cases statistics.variances.toList.zipIdx.find? fun (variance, _) => !Arithmetic.lt 0 variance <;>
    rfl

private theorem inverseScales_eq_error_iff
    (scaled : parameter.doScale = true)
    (strict : parameter.zeroVariance = .reject)
    {failure : Error} :
    inverseScales statistics parameter = .error failure ↔
      ∃ column, failure = .single (.degenerateColumn column) ∧
        IsLeast {column | statistics.LeftToPolicy column} column := by
  rw [← failure?_eq_some_iff, failure?_inverseScales scaled strict, Option.map_eq_some_iff]
  refine exists_congr fun column => ?_
  simp only [leftToPolicy_iff_mem, Statistics.refusableColumns,
    ← Statistics.head?_columnsWhere_eq_some_iff, and_comm, eq_comm]

variable [LawfulOrder F]

private theorem leftToPolicy_iff {column : Nat} :
    statistics.LeftToPolicy column ↔
      column ∈ statistics.degenerateColumns ∨ column ∈ statistics.undefinedColumns := by
  rw [Statistics.degenerateColumns_eq, Statistics.undefinedColumns,
    Statistics.mem_columnsWhere_iff, Statistics.mem_columnsWhere_iff, ← exists_or]
  refine exists_congr fun variance => ?_
  rw [inverseScale_ne_iff, lt_zero_eq_false_iff, and_or_left]

/-- A variance that is at most zero is a number. -/
theorem not_mem_undefinedColumns
    {column : Nat}
    (degenerate : column ∈ statistics.degenerateColumns) :
    column ∉ statistics.undefinedColumns := by
  intro undefined
  rw [Statistics.degenerateColumns_eq] at degenerate
  obtain ⟨variance, varianceEq, atMost⟩ := Statistics.mem_columnsWhere_iff.1 degenerate
  obtain ⟨other, otherEq, notANumber⟩ := Statistics.mem_columnsWhere_iff.1 undefined
  cases varianceEq.symm.trans otherEq
  rw [(LawfulOrder.isNaN_of_le atMost).1] at notANumber
  cases notANumber

/-- With a degenerate column below every undefined one, the lowest column that is left
to the policy is degenerate. -/
theorem isLeast_leftToPolicy_iff
    (covered : ∀ column ∈ statistics.undefinedColumns,
      ∃ lower ∈ statistics.degenerateColumns, lower < column)
    {column : Nat} :
    IsLeast {column | statistics.LeftToPolicy column} column ↔
      IsLeast {column | column ∈ statistics.degenerateColumns} column := by
  constructor
  · rintro ⟨left, least⟩
    refine ⟨?_, fun other degenerate => least (leftToPolicy_iff.2 (.inl degenerate))⟩
    refine (leftToPolicy_iff.1 left).resolve_right fun undefined => ?_
    obtain ⟨lower, degenerate, below⟩ := covered column undefined
    exact below.not_ge (least (leftToPolicy_iff.2 (.inl degenerate)))
  · rintro ⟨degenerate, least⟩
    refine ⟨leftToPolicy_iff.2 (.inl degenerate), fun other left => ?_⟩
    rcases leftToPolicy_iff.1 left with otherDegenerate | undefined
    · exact least otherDegenerate
    · obtain ⟨lower, lowerDegenerate, below⟩ := covered other undefined
      exact (least lowerDegenerate).trans below.le

/-- The first column that is left to the policy is the first that is degenerate just if
every undefined column has a degenerate one below it. -/
theorem head?_refusableColumns_eq_iff :
    statistics.refusableColumns.head? = statistics.degenerateColumns.head? ↔
      ∀ column ∈ statistics.undefinedColumns,
        ∃ lower ∈ statistics.degenerateColumns, lower < column := by
  rw [Statistics.refusableColumns, Statistics.degenerateColumns_eq, Option.ext_iff]
  simp only [Statistics.head?_columnsWhere_eq_some_iff]
  rw [← Statistics.degenerateColumns_eq, ← Statistics.refusableColumns]
  simp only [← leftToPolicy_iff_mem]
  constructor
  · intro same column undefined
    have left : column ∈ {column | statistics.LeftToPolicy column} :=
      leftToPolicy_iff.2 (.inr undefined)
    have least := isLeast_csInf ⟨column, left⟩
    have degenerate := ((same _).1 least).1
    refine ⟨_, degenerate, (least.2 left).lt_of_ne ?_⟩
    intro equal
    rw [equal] at degenerate
    exact not_mem_undefinedColumns degenerate undefined
  · intro covered column
    exact isLeast_leftToPolicy_iff covered

end Policy

/-! ## What is refused -/

/-- **Refused columns.** The columns that the policy decides on are those reported as
degenerate, whose variance is at most zero, and those whose variance is not a number,
which are not reported. A strict policy refuses the lowest of both. Just if every
undefined column has a degenerate one below it, a strict policy refuses the first column
that is reported, and nothing if none is. -/
theorem refused_columns
    (statistics : Statistics Float)
    (parameter : Parameter Float)
    (scaled : parameter.doScale = true)
    (strict : parameter.zeroVariance = .reject) :
    (∀ column, statistics.LeftToPolicy column ↔
        column ∈ statistics.degenerateColumns ∨ column ∈ statistics.undefinedColumns) ∧
      (∀ column ∈ statistics.degenerateColumns, column ∉ statistics.undefinedColumns) ∧
      (∀ failure, inverseScales statistics parameter = .error failure ↔
        ∃ column, failure = .single (.degenerateColumn column) ∧
          IsLeast {column | statistics.LeftToPolicy column} column) ∧
      (failure? (inverseScales statistics parameter) =
          statistics.degenerateColumns.head?.map (fun column =>
            .single (.degenerateColumn column)) ↔
        ∀ column ∈ statistics.undefinedColumns,
          ∃ lower ∈ statistics.degenerateColumns, lower < column) := by
  refine ⟨fun _ => leftToPolicy_iff, fun _ => not_mem_undefinedColumns,
    fun _ => inverseScales_eq_error_iff scaled strict, ?_⟩
  rw [failure?_inverseScales scaled strict, ← head?_refusableColumns_eq_iff]
  have injective : Function.Injective fun column => Error.single (.degenerateColumn column) := by
    intro left right equal
    cases equal
    rfl
  exact (Option.map_injective injective).eq_iff

/-- A column without variance is refused before one whose variance is not a number, which
the policy decides on too. -/
theorem refused_columns_of_mixed_variances :
    let statistics : Statistics Float := ⟨#[0, 0, 0], #[1, 0, 0 / 0]⟩
    let parameter : Parameter Float := { zeroVariance := .reject }
    parameter.doScale = true ∧ parameter.zeroVariance = .reject ∧
      statistics.degenerateColumns = [1] ∧ statistics.undefinedColumns = [2] ∧
      statistics.LeftToPolicy 2 ∧
      failure? (inverseScales statistics parameter) = some (.single (.degenerateColumn 1)) := by
  intro statistics parameter
  have degenerate : statistics.degenerateColumns = [1] := by decide +kernel
  have undefined : statistics.undefinedColumns = [2] := by decide +kernel
  obtain ⟨left, -, -, agrees⟩ := refused_columns statistics parameter rfl rfl
  refine ⟨rfl, rfl, degenerate, undefined, (left 2).2 (.inr ?_), ?_⟩
  · rw [undefined]
    exact List.mem_singleton_self 2
  · rw [agrees.2, degenerate]
    · rfl
    · rw [undefined, degenerate]
      decide

/-- One value that is not a number leaves its column with a variance that is not one
either. A strict policy refuses that column, though the only one that is reported as having
no variance is the constant column after it. -/
theorem refused_before_degenerate_column :
    let input : Dense Float := ⟨3, 2, #[0 / 0, 5, 1, 5, 2, 5], rfl⟩
    let parameter : Parameter Float := { zeroVariance := .reject }
    ∃ statistics,
      Statistics.compute Float (Engine.sequential .scalar) input parameter = .ok statistics ∧
        statistics.means.size = statistics.variances.size ∧ parameter.doScale = true ∧
        parameter.zeroVariance = .reject ∧ statistics.degenerateColumns = [1] ∧
        inverseScales statistics parameter = .error (.single (.degenerateColumn 0)) := by
  intro input parameter
  have computed : (Statistics.compute Float (Engine.sequential .scalar) input parameter).toOption =
      some ⟨#[0 / 0, 5], #[0 / 0, 0]⟩ := by
    decide +kernel
  cases outcome : Statistics.compute Float (Engine.sequential .scalar) input parameter with
  | error failure =>
      rw [outcome] at computed
      cases computed
  | ok statistics =>
      rw [outcome] at computed
      cases computed
      refine ⟨_, rfl, rfl, rfl, rfl, by decide +kernel, ?_⟩
      refine (inverseScales_eq_error_iff rfl rfl).2 ⟨0, rfl, ?_, fun _ _ => Nat.zero_le _⟩
      exact leftToPolicy_iff.2 (.inr (by decide +kernel))

end Standardize
