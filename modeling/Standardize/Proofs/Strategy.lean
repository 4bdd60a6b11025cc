import Mathlib.Data.List.Find
import Standardize.Proofs.Outcome
import Standardize.Proofs.Spread

/-!
Contract: what the way of running can change about the outcome of a
standardization.

Owns:
- the columns whose moments two engines on one backend have in common;
- the columns without variance of values that are resolved or all equal, which are the same
  on every engine;
- the outcome on one thread against the outcome on a pool: they part only where
  a column without variance is refused, the columns are scanned, the blocks
  of the pool are shorter, and a column is neither resolved nor uniform;
- an input for which they do part.

Does not own: how far apart the numbers are that two engines find.
-/

set_option autoImplicit false

namespace Standardize

open Reference

/-! ## Blocks -/

section Strategy

variable {T F τ : Type} [Arithmetic F] [Element T F] [TableShape τ] [TableAccess τ T]

theorem blockLength_sequential
    (backend : Backend)
    (rows : Nat)
    {cols : Nat}
    (some : cols ≠ 0) :
    blockLength (Engine.sequential backend) rows cols = blockRows :=
  if_pos (Nat.one_le_iff_ne_zero.2 some)

omit [Arithmetic F] in
private theorem size_values
    {input : τ}
    {column : Nat}
    (regular : Table.Regular T input)
    (readable : readFailure? T input = none)
    (columnLt : column < TableShape.cols input) :
    (values T input column).size = TableShape.rows input := by
  obtain ⟨read, readEq⟩ := exists_of_failure?_eq_none
    (List.findSome?_eq_none_iff.1 readable column (List.mem_range.2 columnLt))
  rw [values_of_readColumn readEq]
  exact regular column columnLt read readEq

/-- Where the blocks of two engines are equally long, or all reach the last row,
the engines find the same moments. -/
theorem moments_eq_of_blocks
    {left right : Engine}
    {input : τ}
    {column : Nat}
    (sameBackend : left.backend = right.backend)
    (rowsSome : TableShape.rows input ≠ 0)
    (size : (values T input column).size = TableShape.rows input)
    (blocks :
      blockLength left (TableShape.rows input) (TableShape.cols input) =
          blockLength right (TableShape.rows input) (TableShape.cols input) ∨
        TableShape.rows input ≤
            blockLength left (TableShape.rows input) (TableShape.cols input) ∧
          TableShape.rows input ≤
            blockLength right (TableShape.rows input) (TableShape.cols input)) :
    moments T left input column = moments T right input column := by
  unfold moments
  rw [sameBackend]
  rcases blocks with same | ⟨leftCovers, rightCovers⟩
  · rw [same]
  · unfold Moments.ofColumn
    rw [chunks_of_size_le (by omega) (by rwa [size]), chunks_of_size_le (by omega) (by rwa [size])]

/-- Engines with the same moments find the same column without variance. -/
theorem degenerate?_congr
    {left right : Engine}
    {input : τ}
    {parameter : Parameter F}
    (same :
      parameter.method = .defaultDense →
        ∀ column < TableShape.cols input,
          moments T left input column = moments T right input column) :
    degenerate? T left input parameter = degenerate? T right input parameter := by
  refine List.find?_congr fun column member => ?_
  have columnLt := List.mem_range.1 member
  unfold variance
  cases scanned : parameter.method with
  | sumDense => rfl
  | defaultDense => rw [same scanned column columnLt]

/-! ## Causes -/

variable
  {memory : Memory}
  {left right : Engine}
  {input : τ}
  {parameter : Parameter F}
  {output : Output T}

/-- A lowest column without variance is told, so another one is another cause. -/
private theorem policyFailure?_ne_iff :
    policyFailure? T left input parameter ≠ policyFailure? T right input parameter ↔
      parameter.doScale = true ∧ parameter.zeroVariance = .reject ∧
        degenerate? T left input parameter ≠ degenerate? T right input parameter := by
  unfold policyFailure?
  by_cases refused : parameter.doScale = true ∧ parameter.zeroVariance = .reject
  · have injective : Function.Injective fun column => Error.single (.degenerateColumn column) := by
      intro first second same
      cases same
      rfl
    rw [if_pos refused, if_pos refused, ne_eq, (Option.map_injective injective).eq_iff]
    exact ⟨fun differ => ⟨refused.1, refused.2, differ⟩, fun parts => parts.2.2⟩
  · rw [if_neg refused, if_neg refused]
    exact ⟨fun differ => absurd rfl differ, fun parts => absurd ⟨parts.1, parts.2.1⟩ refused⟩

/-- The causes of failure differ exactly where both engines scan all columns, a
column without variance is refused, and the lowest such column is another. -/
theorem runFailure?_ne_iff :
    runFailure? memory left input parameter output ≠
        runFailure? memory right input parameter output ↔
      preparationFailure? memory input parameter output = none ∧
        readFailure? T input = none ∧
        parameter.method = .defaultDense ∧
        parameter.doScale = true ∧
        parameter.zeroVariance = .reject ∧
        degenerate? T left input parameter ≠ degenerate? T right input parameter := by
  rw [← policyFailure?_ne_iff]
  unfold runFailure? fillFailure? scanFailure?
  cases preparationFailure? memory input parameter output with
  | some failure => simp
  | none =>
      cases scanned : parameter.method with
      | sumDense =>
          have same : policyFailure? T left input parameter =
              policyFailure? T right input parameter := by
            by_contra differ
            refine (policyFailure?_ne_iff.1 differ).2.2 (degenerate?_congr fun dense => ?_)
            cases scanned.symm.trans dense
          simp [same]
      | defaultDense =>
          cases readFailure? T input with
          | some failure => simp
          | none => simp

/-- Where all columns are scanned and a column without variance is refused, the
lowest such column is the cause. -/
theorem runFailure?_of_refused
    (prepared : preparationFailure? memory input parameter output = none)
    (readable : readFailure? T input = none)
    (scanned : parameter.method = .defaultDense)
    (scaled : parameter.doScale = true)
    (refused : parameter.zeroVariance = .reject)
    (engine : Engine) :
    runFailure? memory engine input parameter output =
      (degenerate? T engine input parameter).map fun column =>
        .single (.degenerateColumn column) := by
  unfold runFailure? fillFailure? scanFailure? policyFailure?
  rw [prepared, scanned, readable, if_pos ⟨scaled, refused⟩]
  cases degenerate? T engine input parameter <;> rfl

private theorem compute_of_refused
    (regular : Table.Regular T input)
    (prepared : preparationFailure? memory input parameter output = none)
    (readable : readFailure? T input = none)
    (scanned : parameter.method = .defaultDense)
    (scaled : parameter.doScale = true)
    (refused : parameter.zeroVariance = .reject)
    (engine : Engine) :
    (compute memory engine input parameter output).1 =
      settle ((degenerate? T engine input parameter).map fun column =>
        Error.single (.degenerateColumn column)) () := by
  rw [compute_fst_eq_settle memory engine parameter output regular,
    runFailure?_of_refused prepared readable scanned scaled refused]

/-- Two engines answer differently only if their causes of failure differ. -/
theorem compute_ne_iff
    (regular : Table.Regular T input) :
    (compute memory left input parameter output).1 ≠
        (compute memory right input parameter output).1 ↔
      preparationFailure? memory input parameter output = none ∧
        readFailure? T input = none ∧
        parameter.method = .defaultDense ∧
        parameter.doScale = true ∧
        parameter.zeroVariance = .reject ∧
        degenerate? T left input parameter ≠ degenerate? T right input parameter := by
  rw [compute_fst_eq_settle memory left parameter output regular,
    compute_fst_eq_settle memory right parameter output regular, ne_eq, settle_inj]
  exact runFailure?_ne_iff

/-! ## One thread and a pool -/

/-- With enough columns for its threads, or with blocks that leave a column whole,
a pool finds the columns without variance that one thread finds. -/
theorem degenerate?_pool
    (backend : Backend)
    {threads : Nat}
    (positive : 0 < threads)
    (regular : Table.Regular T input)
    (rowsSome : TableShape.rows input ≠ 0)
    (colsSome : TableShape.cols input ≠ 0)
    (readable : readFailure? T input = none)
    (blocks :
      threads ≤ TableShape.cols input ∨
        min (TableShape.rows input) blockRows ≤
          Engine.chunkSize ⟨backend, .pool threads positive⟩ (TableShape.rows input)) :
    degenerate? T (Engine.sequential backend) input parameter =
      degenerate? T ⟨backend, .pool threads positive⟩ input parameter := by
  refine degenerate?_congr fun _ column columnLt => ?_
  refine moments_eq_of_blocks rfl rowsSome (size_values regular readable columnLt) ?_
  rw [blockLength_sequential backend _ colsSome]
  unfold blockLength
  change _ = (if threads ≤ _ then _ else _) ∨ _ ≤ _ ∧ _ ≤ if threads ≤ _ then _ else _
  by_cases wide : threads ≤ TableShape.cols input
  · rw [if_pos wide]
    exact .inl rfl
  · rw [if_neg wide]
    have long := blocks.resolve_left wide
    omega

omit [Arithmetic F] [TableAccess τ T] in
private theorem cells_of_prepared
    (prepared : preparationFailure? memory input parameter output = none) :
    TableShape.rows input ≠ 0 ∧ TableShape.cols input ≠ 0 := by
  unfold preparationFailure? emptyFailure? at prepared
  by_contra empty
  rw [if_pos (by tauto)] at prepared
  cases prepared

/-- Where all columns are scanned and refused without variance, one thread and a pool find another
lowest column only if there are fewer columns than threads and the blocks of the pool are shorter
than the columns. -/
theorem shorter_of_degenerate?_ne
    (backend : Backend)
    {threads : Nat}
    (positive : 0 < threads)
    (regular : Table.Regular T input)
    (prepared : preparationFailure? memory input parameter output = none)
    (readable : readFailure? T input = none)
    (others :
      degenerate? T (Engine.sequential backend) input parameter ≠
        degenerate? T ⟨backend, .pool threads positive⟩ input parameter) :
    TableShape.cols input < threads ∧
      Engine.chunkSize ⟨backend, .pool threads positive⟩ (TableShape.rows input) <
        min (TableShape.rows input) blockRows := by
  obtain ⟨rowsSome, colsSome⟩ := cells_of_prepared prepared
  have blocks : ¬(threads ≤ TableShape.cols input ∨
      min (TableShape.rows input) blockRows ≤
        Engine.chunkSize ⟨backend, .pool threads positive⟩ (TableShape.rows input)) :=
    fun long => others (degenerate?_pool backend positive regular rowsSome colsSome readable long)
  omega

omit [Arithmetic F] [TableAccess τ T] in
/-- The rows of a table are a size where a fresh table of its shape can be had. -/
theorem rows_lt_of_prepared
    (prepared :
      preparationFailure? memory input parameter (SlotMap.empty : Output T) = none) :
    TableShape.rows input < Size.limit := by
  obtain ⟨-, colsSome⟩ := cells_of_prepared prepared
  unfold preparationFailure? at prepared
  have allocated :=
    ((Option.orElse_eq_none _ _).1 ((Option.orElse_eq_none _ _).1 prepared).2).2
  unfold Output.allocate Output.ensure at allocated
  rw [SlotMap.get?_empty] at allocated
  dsimp only at allocated
  cases granted : (Dense.zeros memory (TableShape.rows input) (TableShape.cols input) :
      Except Error (Dense T)) with
  | error failure =>
      rw [granted] at allocated
      cases allocated
  | ok table =>
      exact (Nat.le_mul_of_pos_right _ (Nat.pos_of_ne_zero colsSome)).trans_lt
        (mul_lt_of_zeros granted)

end Strategy

/-! ## Columns that are told -/

section Told

/-- The values of a column as numbers. -/
def numbers
    {F τ : Type}
    (T : Type)
    [Element T F]
    [TableShape τ]
    [TableAccess τ T]
    (input : τ)
    (column : Nat) :
    List F :=
  (values T input column).toList.map Element.widen

/-- The lowest column whose values are all equal. -/
def lowestUniform?
    {F τ : Type}
    (T : Type)
    [Arithmetic F]
    [Element T F]
    [TableShape τ]
    [TableAccess τ T]
    (input : τ) :
    Option Nat :=
  (List.range (TableShape.cols input)).find? fun column => decide (Uniform (numbers T input column))

variable
  {T τ : Type}
  [Element T Float]
  [TableShape τ]
  [TableAccess τ T]
  {memory : Memory}
  {input : τ}
  {parameter : Parameter Float}

/-- **The columns without variance** of values that are told are those of one number, on every
engine. -/
theorem degenerate?_eq_lowestUniform?
    (engine : Engine)
    (regular : Table.Regular T input)
    (readable : readFailure? T input = none)
    (size : TableShape.rows input < Size.limit)
    (scanned : parameter.method = .defaultDense)
    (told : ∀ column < TableShape.cols input,
      Uniform (numbers T input column) ∨ Resolved (numbers T input column)) :
    degenerate? T engine input parameter = lowestUniform? T input := by
  refine List.find?_congr fun column member => ?_
  have columnLt := List.mem_range.1 member
  have readSize := size_values regular readable columnLt
  have blocks : blockLength engine (TableShape.rows input) (TableShape.cols input) ≤ blockRows := by
    unfold blockLength
    split
    · exact le_rfl
    · exact min_le_right _ _
  have above : Arithmetic.lt 0 (variance T engine input parameter column) = true ↔
      ¬Uniform (numbers T input column) := by
    unfold variance moments
    rw [scanned]
    rcases told column columnLt with uniform | resolved
    · rw [variance_of_uniform engine.backend _ uniform]
      exact iff_of_false (fun positive => Bool.false_ne_true (lt_zero_zero.symm.trans positive))
        (not_not_intro uniform)
    · exact lt_variance_iff engine.backend blocks (by omega) resolved
  change (!Arithmetic.lt 0 (variance T engine input parameter column)) = decide _
  cases positive : Arithmetic.lt 0 (variance T engine input parameter column) with
  | true => exact (decide_eq_false (above.1 positive)).symm
  | false =>
      have uniform := not_not.1 (mt above.2 (Bool.eq_false_iff.1 positive))
      exact (decide_eq_true uniform).symm

/-- Where columns are told, if anything is left to them, all engines answer alike. -/
private theorem compute_fst_eq_of_told
    (regular : Table.Regular T input)
    (told :
      preparationFailure? memory input parameter (SlotMap.empty : Output T) = none →
        readFailure? T input = none →
          ∀ column < TableShape.cols input,
            Uniform (numbers T input column) ∨ Resolved (numbers T input column))
    (left right : Engine) :
    (compute memory left input parameter (SlotMap.empty : Output T)).1 =
      (compute memory right input parameter (SlotMap.empty : Output T)).1 := by
  by_contra differ
  obtain ⟨prepared, readable, scanned, -, -, others⟩ := (compute_ne_iff regular).1 differ
  have lowest (engine : Engine) :=
    degenerate?_eq_lowestUniform? engine regular readable (rows_lt_of_prepared prepared) scanned
      (told prepared readable)
  exact others ((lowest left).trans (lowest right).symm)

/-- **Elements of 32 bits are always told.** On a table of finite ones, all engines on all backends
answer alike. -/
theorem compute_fst_eq_of_singles
    {σ : Type}
    [TableShape σ]
    [TableAccess σ Float32]
    (memory : Memory)
    (table : σ)
    (parameter : Parameter Float)
    (regular : Table.Regular Float32 table)
    (finite :
      ∀ column < TableShape.cols table, ∀ element ∈ values Float32 table column,
        element.isFinite = true)
    (left right : Engine) :
    (compute memory left table parameter (SlotMap.empty : Output Float32)).1 =
      (compute memory right table parameter (SlotMap.empty : Output Float32)).1 := by
  refine compute_fst_eq_of_told regular (fun prepared readable column columnLt => ?_) left right
  have size := rows_lt_of_prepared prepared
  have rows := size_values regular readable columnLt
  exact .inr (resolved_of_singles (by rw [Array.length_toList]; omega) fun element member =>
    finite column columnLt element (Array.mem_toList_iff.1 member))

/-- **The way of running does not decide about columns that are told.** From an empty output, in
64-bit floating point: one thread and a pool on the same backend answer alike, unless all columns
are scanned, scaled, and refused without variance, there are fewer columns than threads, the
blocks are shorter than the columns, and some column is neither resolved nor all of one number.
Then each answer tells the lowest column without variance of its own blocks. If all columns are
resolved or of one number, all engines on all backends answer alike, and the column they refuse is
the lowest of one number. -/
theorem answer_of_resolved_columns
    (memory : Memory)
    (backend : Backend)
    {threads : Nat}
    (positive : 0 < threads)
    (input : τ)
    (parameter : Parameter Float)
    (regular : Table.Regular T input) :
    let sequential : Engine := Engine.sequential backend
    let pool : Engine := ⟨backend, .pool threads positive⟩
    let answer (engine : Engine) : Except Error Unit :=
      (compute memory engine input parameter (SlotMap.empty : Output T)).1
    let refusal (column? : Option Nat) : Except Error Unit :=
      settle (column?.map fun column => Error.single (.degenerateColumn column)) ()
    let told : Prop :=
      ∀ column < TableShape.cols input,
        Uniform (numbers T input column) ∨ Resolved (numbers T input column)
    (answer sequential ≠ answer pool →
        parameter.method = .defaultDense ∧
          parameter.doScale = true ∧
          parameter.zeroVariance = .reject ∧
          TableShape.cols input < threads ∧
          pool.chunkSize (TableShape.rows input) < min (TableShape.rows input) blockRows ∧
          ¬told ∧
          ∀ engine ∈ [sequential, pool],
            answer engine = refusal (degenerate? T engine input parameter)) ∧
      (told →
        (∀ left right : Engine, answer left = answer right) ∧
          (preparationFailure? memory input parameter (SlotMap.empty : Output T) = none →
            readFailure? T input = none →
              parameter.method = .defaultDense →
                parameter.doScale = true →
                  parameter.zeroVariance = .reject →
                    ∀ engine, answer engine = refusal (lowestUniform? T input))) := by
  intro sequential pool answer refusal told
  have alike (allTold : told) (left right : Engine) : answer left = answer right :=
    compute_fst_eq_of_told regular (fun _ _ => allTold) left right
  refine ⟨fun differ => ?_, fun allTold => ⟨alike allTold, ?_⟩⟩
  · obtain ⟨prepared, readable, scanned, scaled, refused, others⟩ :=
      (compute_ne_iff regular).1 differ
    obtain ⟨fewer, shorter⟩ :=
      shorter_of_degenerate?_ne backend positive regular prepared readable others
    refine ⟨scanned, scaled, refused, fewer, shorter, fun allTold => differ (alike allTold _ _), ?_⟩
    intro engine _
    exact compute_of_refused regular prepared readable scanned scaled refused engine
  · intro prepared readable scanned scaled refused engine
    rw [← degenerate?_eq_lowestUniform? engine regular readable (rows_lt_of_prepared prepared)
      scanned allTold]
    exact compute_of_refused regular prepared readable scanned scaled refused engine

/-- A column of counts beside one of tenths, in blocks of one row on a pool with more threads than
columns: every engine accepts the counts and refuses the tenths. -/
theorem answer_of_counts_and_tenths :
    let input : Dense Float := ⟨4, 2, #[1, 0.1, 2, 0.1, 3, 0.1, 4, 0.1], rfl⟩
    let parameter : Parameter Float := { zeroVariance := .reject }
    let answer (engine : Engine) : Except Error Unit :=
      (compute Memory.unbounded engine input parameter (SlotMap.empty : Output Float)).1
    0 < 3 ∧ Table.Regular Float input ∧
      (∀ column < TableShape.cols input,
        Uniform (numbers Float input column) ∨ Resolved (numbers Float input column)) ∧
      answer (Engine.sequential .scalar) = answer ⟨.scalar, .pool 3 (by decide)⟩ ∧
      ∀ engine, answer engine = .error (.single (.degenerateColumn 1)) := by
  intro input parameter answer
  have regular : Table.Regular Float input := LawfulView.regular input
  have told (column : Nat) (columnLt : column < 2) :
      Uniform (numbers Float input column) ∨ Resolved (numbers Float input column) := by
    rcases Nat.lt_succ_iff_lt_or_eq.1 columnLt with first | rfl
    · obtain rfl : column = 0 := by omega
      exact .inr (@resolved_of_counts [1, 2, 3, 4] (by decide) (by decide))
    · exact .inl (by decide +kernel)
  obtain ⟨alike, refuses⟩ :=
    (answer_of_resolved_columns Memory.unbounded .scalar (by decide : 0 < 3) input parameter
      regular).2 told
  refine ⟨by decide, regular, told, alike _ _, fun engine => ?_⟩
  have lowest : lowestUniform? Float input = some 1 := by decide +kernel
  have refused := refuses (Option.isNone_iff_eq_none.1 (by decide +kernel))
    (Option.isNone_iff_eq_none.1 (by decide +kernel)) rfl rfl rfl engine
  rw [lowest] at refused
  exact refused

end Told

/-- One thread squares deviations that are too large for a number and finds an
infinite variance. A pool, in blocks of one row, meets two means whose distance is
infinite, and joining the other rows to them ends in what is not a number. -/
theorem pool_refuses_finite_column :
    let input : Dense Float := ⟨4, 1, #[1.7e308, -1.7e308, 0.0, 1.0], rfl⟩
    let parameter : Parameter Float := { zeroVariance := .reject }
    input.data.all Float.isFinite = true ∧
      (compute Memory.unbounded (Engine.sequential .scalar) input parameter
          (SlotMap.empty : Output Float)).1 = .ok () ∧
      (compute Memory.unbounded ⟨.scalar, .pool 2 (by decide)⟩ input parameter
          (SlotMap.empty : Output Float)).1 = .error (.single (.degenerateColumn 0)) := by
  intro input parameter
  have regular : Table.Regular Float input := LawfulView.regular input
  have prepared :
      preparationFailure? Memory.unbounded input parameter (SlotMap.empty : Output Float) =
        none := Option.isNone_iff_eq_none.1 (by decide +kernel)
  have readable : readFailure? Float input = none := Option.isNone_iff_eq_none.1 (by decide +kernel)
  have onOneThread :
      degenerate? Float (Engine.sequential .scalar) input parameter = none := by
    decide +kernel
  have onPool :
      degenerate? Float ⟨.scalar, .pool 2 (by decide)⟩ input parameter = some 0 := by
    decide +kernel
  refine ⟨by decide +kernel, ?_, ?_⟩
  · rw [compute_of_refused regular prepared readable rfl rfl rfl, onOneThread]
    rfl
  · rw [compute_of_refused regular prepared readable rfl rfl rfl, onPool]
    rfl

end Standardize
