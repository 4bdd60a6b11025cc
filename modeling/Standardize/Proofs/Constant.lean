import Standardize.Proofs.Data
import Standardize.Proofs.Floating.Binary32
import Standardize.Proofs.Partition
import Standardize.Proofs.Strategy

/-!
Contract: a column that holds one number.

Owns:
- the invariant of its moments, kept by every value, every block and every join:
  the smallest and the largest number met equal the number of the column;
- its center and its variance, exact however far the mean of its values is off;
- the outcome of a standardization: zeros, or a refusal.

Does not own: sums and means, of which nothing is used here.
-/

set_option autoImplicit false

namespace Standardize

variable {T F : Type} [Arithmetic F]

/-! ## Numbers met -/

/-- A number was met, and it equals another one. -/
def Met (number : F) (seen : Option F) : Prop :=
  ∃ met, seen = some met ∧ Arithmetic.eq met number = true

section Values

variable
  {number : F}
  {operation : F → F → F}
  {meet : Option F → F → Option F}
  (next : ∀ met value, meet (some met) value = some (operation met value))
  (keeps : ∀ {left right}, Arithmetic.eq left number = true →
    Arithmetic.eq right number = true → Arithmetic.eq (operation left right) number = true)
include next keeps

/-- Values that equal a number, taken up one after the other by an operation that
keeps what equals it, keep what was met equal to it. -/
theorem Met.foldl
    {values : List F}
    {seen : Option F}
    (met : Met number seen)
    (same : ∀ value ∈ values, Arithmetic.eq value number = true) :
    Met number (values.foldl meet seen) := by
  induction values generalizing seen with
  | nil => exact met
  | cons value rest inductionHypothesis =>
      obtain ⟨first, rfl, firstEq⟩ := met
      rw [List.forall_mem_cons] at same
      rw [List.foldl_cons, next]
      exact inductionHypothesis ⟨_, rfl, keeps firstEq same.1⟩ same.2

/-- The first value is met because it equals a number. -/
private theorem met_foldl_none
    [LawfulArithmetic F]
    (first : ∀ value, Arithmetic.isNaN value = false → meet none value = some value)
    {values : List F}
    (nonempty : values ≠ [])
    (same : ∀ value ∈ values, Arithmetic.eq value number = true) :
    Met number (values.foldl meet none) := by
  cases values with
  | nil => exact absurd rfl nonempty
  | cons value rest =>
      rw [List.forall_mem_cons] at same
      rw [List.foldl_cons, first value (LawfulArithmetic.isNaN_of_eq same.1)]
      exact Met.foldl next keeps ⟨value, rfl, same.1⟩ same.2

end Values

private theorem met_foldl_least
    [LawfulArithmetic F]
    {number : F}
    {values : List F}
    (nonempty : values ≠ [])
    (same : ∀ value ∈ values, Arithmetic.eq value number = true) :
    Met number (values.foldl Arithmetic.least? none) := by
  apply met_foldl_none (fun _ _ => rfl) LawfulArithmetic.eq_smaller _ nonempty same
  intro value isNumber
  exact if_neg (Bool.eq_false_iff.1 isNumber)

private theorem met_foldl_greatest
    [LawfulArithmetic F]
    {number : F}
    {values : List F}
    (nonempty : values ≠ [])
    (same : ∀ value ∈ values, Arithmetic.eq value number = true) :
    Met number (values.foldl Arithmetic.greatest? none) := by
  apply met_foldl_none (fun _ _ => rfl) LawfulArithmetic.eq_larger _ nonempty same
  intro value isNumber
  exact if_neg (Bool.eq_false_iff.1 isNumber)

theorem Met.leastOf
    [LawfulArithmetic F]
    {number : F}
    {left right : Option F}
    (leftMet : Met number left)
    (rightMet : Met number right) :
    Met number (Arithmetic.leastOf? left right) := by
  obtain ⟨low, rfl, lowEq⟩ := leftMet
  obtain ⟨other, rfl, otherEq⟩ := rightMet
  exact ⟨_, rfl, LawfulArithmetic.eq_smaller lowEq otherEq⟩

theorem Met.greatestOf
    [LawfulArithmetic F]
    {number : F}
    {left right : Option F}
    (leftMet : Met number left)
    (rightMet : Met number right) :
    Met number (Arithmetic.greatestOf? left right) := by
  obtain ⟨high, rfl, highEq⟩ := leftMet
  obtain ⟨other, rfl, otherEq⟩ := rightMet
  exact ⟨_, rfl, LawfulArithmetic.eq_larger highEq otherEq⟩

/-! ## Moments -/

namespace Moments

/-- Moments of values that all equal one number. -/
structure AllEqual (number : F) (moments : Moments F) : Prop where
  count_pos : 0 < moments.count
  least : Met number moments.least?
  greatest : Met number moments.greatest?

variable {number : F}

section Joins

variable [LawfulArithmetic F] {left right : Moments F}

theorem AllEqual.join
    (leftSame : left.AllEqual number)
    (rightSame : right.AllEqual number) :
    (left.join right).AllEqual number :=
  ⟨Nat.add_pos_left leftSame.count_pos _, leftSame.least.leastOf rightSame.least,
    leftSame.greatest.greatestOf rightSame.greatest⟩

theorem AllEqual.merge
    (leftSame : left.AllEqual number)
    (rightSame : right.AllEqual number) :
    (left.merge right).AllEqual number := by
  unfold Moments.merge
  rw [if_neg leftSame.count_pos.ne', if_neg rightSame.count_pos.ne']
  exact leftSame.join rightSame

theorem AllEqual.foldl_merge
    {blocks : List (Moments F)}
    {joined : Moments F}
    (joinedSame : joined.AllEqual number)
    (same : ∀ block ∈ blocks, block.AllEqual number) :
    (blocks.foldl Moments.merge joined).AllEqual number := by
  induction blocks generalizing joined with
  | nil => exact joinedSame
  | cons block rest inductionHypothesis =>
      rw [List.forall_mem_cons] at same
      exact inductionHypothesis (joinedSame.merge same.1) same.2

/-- The join starts from the empty block, which leaves the first block as it is. -/
theorem AllEqual.mergeAll
    {blocks : List (Moments F)}
    (nonempty : blocks ≠ [])
    (same : ∀ block ∈ blocks, block.AllEqual number) :
    (Moments.mergeAll blocks).AllEqual number := by
  cases blocks with
  | nil => exact absurd rfl nonempty
  | cons block rest =>
      rw [List.forall_mem_cons] at same
      change (rest.foldl Moments.merge block).AllEqual number
      exact AllEqual.foldl_merge same.1 same.2

end Joins

section Blocks

variable [Element T F] [LawfulArithmetic F] [LawfulElement T F] {value : T}

theorem AllEqual.ofBlock
    (backend : Backend)
    {block : Array T}
    (nonempty : 0 < block.size)
    (finite : Element.isFinite value = true)
    (same : ∀ entry ∈ block, Element.eq entry value = true) :
    (Moments.ofBlock backend block).AllEqual (Element.widen value) := by
  have listSome : block.toList.map Element.widen ≠ [] := by
    intro none
    have length := congrArg List.length none
    rw [List.length_map, Array.length_toList] at length
    exact nonempty.ne' length
  have listSame : ∀ number ∈ block.toList.map Element.widen,
      Arithmetic.eq number (Element.widen value) = true := by
    intro number member
    obtain ⟨entry, entryMember, rfl⟩ := List.mem_map.1 member
    exact LawfulElement.widen_eq_widen finite (same entry (Array.mem_toList_iff.1 entryMember))
  have least := met_foldl_least listSome listSame
  have greatest := met_foldl_greatest listSome listSame
  rw [List.foldl_map, Array.foldl_toList] at least greatest
  unfold Moments.ofBlock
  rw [if_neg nonempty.ne']
  exact ⟨nonempty, least, greatest⟩

/-- **However a column of one number is cut**, the smallest and the largest number of
all its blocks together equal the number. -/
theorem AllEqual.ofColumn
    (backend : Backend)
    {column : Array T}
    (blockLength : Nat)
    (nonempty : 0 < column.size)
    (finite : Element.isFinite value = true)
    (same : ∀ entry ∈ column, Element.eq entry value = true) :
    (Moments.ofColumn backend column blockLength).AllEqual (Element.widen value) := by
  obtain ⟨first, rest, cut, -⟩ := exists_chunks_eq_cons nonempty blockLength
  apply AllEqual.mergeAll
  · rw [cut]
    exact List.cons_ne_nil _ _
  · intro moments member
    obtain ⟨block, blockMember, rfl⟩ := List.mem_map.1 member
    have nonempty := (size_of_mem_chunks blockMember).1
    exact AllEqual.ofBlock backend nonempty finite fun entry entryMember =>
      same entry (mem_of_mem_chunks blockMember entryMember)

end Blocks

section Results

variable [LawfulArithmetic F] {moments : Moments F}

theorem AllEqual.isConstant (same : moments.AllEqual number) : moments.isConstant = true := by
  obtain ⟨positive, ⟨low, least, lowEq⟩, high, greatest, highEq⟩ := same
  unfold Moments.isConstant
  rw [least, greatest]
  simp [positive, LawfulArithmetic.eq_of_eq_of_eq lowEq highEq]

/-- The center is taken from the values and not from their mean. -/
theorem AllEqual.center (same : moments.AllEqual number) :
    Arithmetic.eq moments.center number = true := by
  have constant := same.isConstant
  obtain ⟨-, ⟨low, least, lowEq⟩, -⟩ := same
  unfold Moments.center
  rw [least]
  dsimp only
  rw [if_pos constant]
  exact lowEq

theorem AllEqual.variance (same : moments.AllEqual number) : moments.variance = 0 := by
  unfold Moments.variance
  rw [if_pos (.inr same.isConstant)]

end Results

end Moments

/-! ## Columns -/

open Reference

variable {τ : Type} [Element T F] [TableShape τ] [TableAccess τ T]

section Columns

variable [LawfulArithmetic F] [LawfulElement T F]

/-- A value that equals the center of its column is standardized to zero. -/
theorem standardizeValue_eq_zero
    (parameter : Parameter F)
    {center : F}
    {value entry : T}
    (finite : Element.isFinite value = true)
    (same : Element.eq entry value = true)
    (centerEq : Arithmetic.eq center (Element.widen value) = true) :
    Element.eq (standardizeValue center (scale parameter 0) entry) Element.zero = true := by
  have difference : Arithmetic.eq (Element.widen entry - center) 0 = true :=
    LawfulElement.sub_eq_zero finite (LawfulElement.widen_eq_widen finite same) centerEq
  apply LawfulElement.narrow_eq_zero
  cases scaling : parameter.doScale with
  | true =>
      rw [scale_of_not_lt scaling lt_zero_zero]
      exact LawfulArithmetic.mul_zero_eq_zero difference
  | false =>
      rw [scale_of_not_scaled scaling]
      exact LawfulArithmetic.mul_one_eq_zero difference

variable [TableView τ T]

/-- Every cell of a column equals a value. -/
def Table.HoldsOnly (input : τ) (column : Nat) (value : T) : Prop :=
  ∀ row < TableShape.rows input, ∃ entry : T,
    TableView.cell? input row column = some entry ∧ Element.eq entry value = true

variable [LawfulView τ T] {input : τ} {column : Nat} {value : T}

private theorem allEqual_moments
    (engine : Engine)
    (rowsSome : TableShape.rows input ≠ 0)
    (readable : readFailure? T input = none)
    (columnLt : column < TableShape.cols input)
    (finite : Element.isFinite value = true)
    (same : Table.HoldsOnly input column value) :
    (moments T engine input column).AllEqual (Element.widen value) := by
  obtain ⟨read, readEq⟩ := exists_of_failure?_eq_none
    (List.findSome?_eq_none_iff.1 readable column (List.mem_range.2 columnLt))
  have size : read.size = TableShape.rows input :=
    LawfulView.regular input column columnLt read readEq
  unfold moments
  rw [values_of_readColumn readEq]
  apply Moments.AllEqual.ofColumn engine.backend _ (by omega) finite
  intro entry member
  obtain ⟨row, rowLt, rfl⟩ := Array.mem_iff_getElem.1 member
  obtain ⟨cell, cellEq, cellSame⟩ := same row (by omega)
  have place := LawfulView.getElem?_of_readColumn input column read readEq row
  rw [cellEq, Array.getElem?_eq_getElem rowLt] at place
  rw [Option.some.inj place]
  exact cellSame

omit [LawfulElement T F] [TableView τ T] [LawfulView τ T] in
/-- A column without variance is among those that the policy is asked about, and none
is asked about before the lowest. -/
theorem degenerate?_of_variance_eq_zero
    (engine : Engine)
    (parameter : Parameter F)
    (columnLt : column < TableShape.cols input)
    (none : variance T engine input parameter column = 0) :
    ∃ lowest ≤ column, degenerate? T engine input parameter = some lowest := by
  have refused : (!Arithmetic.lt 0 (variance T engine input parameter column)) = true := by
    rw [none, lt_zero_zero]
    rfl
  have someRefused : (degenerate? T engine input parameter).isSome := by
    unfold degenerate?
    exact List.find?_isSome.2 ⟨column, List.mem_range.2 columnLt, refused⟩
  obtain ⟨lowest, found⟩ := Option.isSome_iff_exists.1 someRefused
  refine ⟨lowest, ?_, found⟩
  obtain ⟨-, -, before⟩ := List.find?_range_eq_some.1 found
  by_contra above
  have accepted := before column (by omega)
  rw [refused] at accepted
  cases accepted

/-- What a standardization leaves of a column that holds one number: zeros, and the
number as its mean. -/
structure LeavesConstant
    (input : τ)
    (parameter : Parameter F)
    (column : Nat)
    (value : T)
    (written : Output T) :
    Prop where
  data :
    ∃ table, written.get? .normalizedData = some table ∧
      ∀ row < TableShape.rows input, ∃ entry,
        table.get? row column = some entry ∧ Element.eq entry Element.zero = true
  mean :
    parameter.wants .mean = true →
      ∃ table entry, written.get? .means = some table ∧
        table.get? 0 column = some entry ∧ Element.eq entry value = true
  variance :
    parameter.wants .variance = true →
      ∃ table entry, written.get? .variances = some table ∧
        table.get? 0 column = some entry ∧ Element.eq entry Element.zero = true

omit [Arithmetic F] [LawfulArithmetic F] [LawfulElement T F] in
/-- A stored row of statistics holds the number of each column. -/
private theorem exists_of_holds_rowCell
    {written : Output T}
    {slot : OutputSlot}
    {cols : Nat}
    {number : Nat → F}
    (held : written.Holds slot 1 cols (rowCell? cols number))
    (columnLt : column < cols) :
    ∃ table, written.get? slot = some table ∧
      table.get? 0 column = some (Element.narrow (number column)) := by
  obtain ⟨table, found, -, -, cells⟩ := held
  refine ⟨table, found, ?_⟩
  rw [cells]
  exact if_pos ⟨rfl, columnLt⟩

theorem Filled.leavesConstant
    {engine : Engine}
    {parameter : Parameter F}
    {written : Output T}
    (filled : Filled engine input parameter written)
    (readable : readFailure? T input = none)
    (columnLt : column < TableShape.cols input)
    (finite : Element.isFinite value = true)
    (same : Table.HoldsOnly input column value)
    (centerEq : Arithmetic.eq (center T engine input parameter column) (Element.widen value) = true)
    (varianceEq : variance T engine input parameter column = 0) :
    LeavesConstant input parameter column value written := by
  refine ⟨?_, ?_, ?_⟩
  · obtain ⟨table, held, standardizes⟩ := filled.standardizes readable
    refine ⟨table, held, ?_⟩
    intro row rowLt
    obtain ⟨entry, entryEq, cell⟩ := standardizes.cell row rowLt column columnLt
    obtain ⟨other, otherEq, entrySame⟩ := same row rowLt
    rw [entryEq] at otherEq
    cases otherEq
    rw [varianceEq] at cell
    exact ⟨_, cell, standardizeValue_eq_zero parameter finite entrySame centerEq⟩
  · intro asked
    have means := filled.means
    rw [if_pos asked] at means
    obtain ⟨table, held, cell⟩ := exists_of_holds_rowCell means columnLt
    exact ⟨table, _, held, cell, LawfulElement.narrow_eq finite centerEq⟩
  · intro asked
    have variances := filled.variances
    rw [if_pos asked] at variances
    obtain ⟨table, held, cell⟩ := exists_of_holds_rowCell variances columnLt
    rw [varianceEq] at cell
    exact ⟨table, _, held, cell, LawfulElement.narrow_eq_zero LawfulArithmetic.zero_eq_zero⟩

/-- **A column of one number is exact.** Whatever its length, the blocks it is taken
in and the sums that rounding spoils or that overflow, its mean is the number and its
variance is zero. It is standardized to zeros, unless the policy refuses it or a
column before it. -/
theorem constant_column
    (memory : Memory)
    (engine : Engine)
    (input : τ)
    (parameter : Parameter F)
    (output : Output T)
    (scanned : parameter.method = .defaultDense)
    (readable : readFailure? T input = none)
    (rowsSome : TableShape.rows input ≠ 0)
    (columnLt : column < TableShape.cols input)
    (finite : Element.isFinite value = true)
    (same : Table.HoldsOnly input column value) :
    (∃ statistics mean, Statistics.compute T engine input parameter = .ok statistics ∧
      statistics.means[column]? = some mean ∧
      Arithmetic.eq mean (Element.widen value) = true ∧
      statistics.variances[column]? = some 0) ∧
    ((output.allocate memory (TableShape.rows input) (TableShape.cols input) parameter).1 =
        .ok () →
      ((parameter.doScale = true → parameter.zeroVariance = .emitZero) →
        ∃ written, compute memory engine input parameter output = (.ok (), written) ∧
          LeavesConstant input parameter column value written) ∧
      (parameter.doScale = true → parameter.zeroVariance = .reject →
        ∃ lowest ≤ column,
          compute memory engine input parameter output =
            (.error (.single (.degenerateColumn lowest)), SlotMap.empty))) := by
  have colsSome : TableShape.cols input ≠ 0 := by omega
  have fits := parameterFailure?_of_scanned scanned (TableShape.cols input)
  have allEqual := allEqual_moments engine rowsSome readable columnLt finite same
  have centerEq :
      Arithmetic.eq (center T engine input parameter column) (Element.widen value) = true := by
    unfold center
    rw [scanned]
    exact allEqual.center
  have varianceEq : variance T engine input parameter column = 0 := by
    unfold variance
    rw [scanned]
    exact allEqual.variance
  constructor
  · refine ⟨statistics T engine input parameter, center T engine input parameter column,
      statistics_of_readable engine rowsSome colsSome fits readable, ?_, centerEq, ?_⟩
    · exact getElem?_map_range_eq_some_iff.2 ⟨columnLt, rfl⟩
    · exact getElem?_map_range_eq_some_iff.2 ⟨columnLt, varianceEq⟩
  · intro allocated
    have prepared := preparationFailure?_of_allocated rowsSome colsSome fits allocated
    constructor
    · intro accepted
      have causeless : runFailure? memory engine input parameter output = none := by
        rw [runFailure?_of_readable prepared readable]
        apply policyFailure?_of_accepted
        intro scaled refused
        rw [accepted scaled] at refused
        cases refused
      obtain ⟨written, succeeded, filled⟩ := exists_filled (LawfulView.regular input) causeless
      exact ⟨written, succeeded,
        filled.leavesConstant readable columnLt finite same centerEq varianceEq⟩
    · intro scaled refused
      obtain ⟨lowest, lowestLe, found⟩ :=
        degenerate?_of_variance_eq_zero engine parameter columnLt varianceEq
      have cause := runFailure?_of_refused prepared readable scanned scaled refused engine
      rw [found] at cause
      exact ⟨lowest, lowestLe, compute_of_runFailure? (LawfulView.regular input) cause⟩

end Columns

/-- One tenth, whose sums are rounded, beside a column that varies: narrow elements in
blocks of one row, on a pool with more threads than columns. -/
theorem constant_column_of_tenths :
    let input : Dense Float32 := ⟨3, 2, #[1, 0.1, 2, 0.1, 6, 0.1], rfl⟩
    let engine : Engine := ⟨.avx2, .pool 3 (by decide)⟩
    let parameter : Parameter Float := { results := .mean }
    TableShape.rows input ≠ 0 ∧
      Table.HoldsOnly input 1 (0.1 : Float32) ∧
      ∃ written, compute Memory.unbounded engine input parameter SlotMap.empty =
          (.ok (), written) ∧
        LeavesConstant input parameter 1 (0.1 : Float32) written := by
  intro input engine parameter
  have rowsSome : TableShape.rows input ≠ 0 := by decide
  have readable : readFailure? Float32 input = none :=
    Option.isNone_iff_eq_none.1 (by decide +kernel)
  have same : Table.HoldsOnly input 1 (0.1 : Float32) := by
    have cells : ∀ row < TableShape.rows input,
        TableView.cell? input row 1 = some (0.1 : Float32) := by
      decide +kernel
    intro row rowLt
    exact ⟨0.1, cells row rowLt, by decide +kernel⟩
  obtain ⟨-, outcome⟩ :=
    constant_column Memory.unbounded engine input parameter (SlotMap.empty : Output Float32) rfl
      readable rowsSome (show 1 < TableShape.cols input by decide) (by decide +kernel) same
  have allocated : (Output.allocate Memory.unbounded (SlotMap.empty : Output Float32) 3 2
      parameter).1 = .ok () := by
    have answer : (Output.allocate Memory.unbounded (SlotMap.empty : Output Float32) 3 2
        parameter).1.isOk = true := by
      decide +kernel
    generalize (Output.allocate Memory.unbounded (SlotMap.empty : Output Float32) 3 2
      parameter).1 = allocated at answer ⊢
    cases allocated with
    | ok nothing => rfl
    | error failure => cases answer
  obtain ⟨accepted, -⟩ := outcome allocated
  exact ⟨rowsSome, same, accepted fun _ => rfl⟩

end Standardize
