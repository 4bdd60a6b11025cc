import Standardize.Moments
import Standardize.Proofs.Floating.Comparison
import Standardize.Proofs.Partition

/-!
Contract: the smallest and the largest number of a column.

Owns:
- the invariant of a number kept by comparisons: it is among the values, it comes
  before every number among them, and it is missing if there is no number;
- the same of both numbers of the moments of a block, of a join, and of a column
  however it is cut;
- the columns that are taken for constant, whose numbers are all equal, and where that
  differs from all values being equal.

Does not own: means and sums of squared deviations.
-/

set_option autoImplicit false

namespace Standardize

variable {T F : Type} [Arithmetic F]

/-! ## The first number -/

/-- What was met of some values: the number that comes before all their numbers, or
nothing, if they have none. -/
inductive Extreme (before : F → F → Bool) (values : List F) : Option F → Prop where
  | nothing
      (notNumbers : ∀ value ∈ values, Arithmetic.isNaN value = true) :
      Extreme before values none
  | met
      {number : F}
      (member : number ∈ values)
      (isNumber : Arithmetic.isNaN number = false)
      (first : ∀ value ∈ values, Arithmetic.isNaN value = false → before number value = true) :
      Extreme before values (some number)

section Picking

variable
  {before : F → F → Bool}
  {pick : F → F → F}
  (picks : Picks before pick)
include picks

/-- A number is the first of itself. -/
theorem Extreme.singleton
    {number : F}
    (isNumber : Arithmetic.isNaN number = false) :
    Extreme before [number] (some number) := by
  refine .met (List.mem_singleton_self number) isNumber fun value member _ => ?_
  have reflexive := picks.before_left isNumber isNumber
  rw [or_self_iff.1 (picks.eq_or number number)] at reflexive
  rw [List.mem_singleton.1 member]
  exact reflexive

variable
  (trans : ∀ {low middle high}, before low middle = true → before middle high = true →
    before low high = true)
include trans

/-- Of the first numbers of two lists of values, the first is that of both together. -/
theorem Extreme.append
    {left right : List F}
    {leftMet rightMet : Option F}
    (leftExtreme : Extreme before left leftMet)
    (rightExtreme : Extreme before right rightMet) :
    Extreme before (left ++ right) (Option.merge pick leftMet rightMet) := by
  cases leftExtreme with
  | nothing leftNone =>
      cases rightExtreme with
      | nothing rightNone =>
          exact .nothing (List.forall_mem_append.2 ⟨leftNone, rightNone⟩)
      | met member isNumber first =>
          refine .met (List.mem_append_right left member) isNumber
            (List.forall_mem_append.2 ⟨fun value inLeft number => ?_, first⟩)
          rw [leftNone value inLeft] at number
          cases number
  | @met low leftMember leftNumber leftFirst =>
      cases rightExtreme with
      | nothing rightNone =>
          refine .met (List.mem_append_left right leftMember) leftNumber
            (List.forall_mem_append.2 ⟨leftFirst, fun value inRight number => ?_⟩)
          rw [rightNone value inRight] at number
          cases number
      | @met other rightMember rightNumber rightFirst =>
          have member : pick low other ∈ left ++ right := by
            rcases picks.eq_or low other with picked | picked <;> rw [picked]
            · exact List.mem_append_left right leftMember
            · exact List.mem_append_right left rightMember
          have isNumber : Arithmetic.isNaN (pick low other) = false := by
            rcases picks.eq_or low other with picked | picked <;> rw [picked] <;> assumption
          refine .met member isNumber (List.forall_mem_append.2 ⟨?_, ?_⟩)
          · intro value inLeft number
            exact trans (picks.before_left leftNumber rightNumber) (leftFirst value inLeft number)
          · intro value inRight number
            exact trans (picks.before_right leftNumber rightNumber)
              (rightFirst value inRight number)

variable
  {meet : Option F → F → Option F}
  (start : ∀ value, meet none value = if Arithmetic.isNaN value then none else some value)
  (next : ∀ met value, meet (some met) value = some (pick met value))
include start next

/-- One more value leaves the first number of all values so far. -/
theorem Extreme.step
    {values : List F}
    {seen : Option F}
    (extreme : Extreme before values seen)
    (value : F) :
    Extreme before (values ++ [value]) (meet seen value) := by
  cases number : Arithmetic.isNaN value with
  | false =>
      have joined := extreme.append picks trans (.singleton picks number)
      have taken : meet seen value = Option.merge pick seen (some value) := by
        cases seen with
        | none => exact (start value).trans (if_neg (Bool.eq_false_iff.1 number))
        | some met => exact next met value
      rw [taken]
      exact joined
  | true =>
      have passed : Extreme before [value] none := .nothing (List.forall_mem_singleton.2 number)
      have joined := extreme.append picks trans passed
      have skipped : meet seen value = Option.merge pick seen none := by
        cases extreme with
        | nothing => exact (start value).trans (if_pos number)
        | met member isNumber first =>
            rw [next, picks.skips isNumber number]
            rfl
      rw [skipped]
      exact joined

theorem Extreme.foldl
    {earlier values : List F}
    {seen : Option F}
    (extreme : Extreme before earlier seen) :
    Extreme before (earlier ++ values) (values.foldl meet seen) := by
  induction values generalizing earlier seen with
  | nil =>
      rw [List.append_nil]
      exact extreme
  | cons value rest inductionHypothesis =>
      rw [List.foldl_cons, List.append_cons]
      exact inductionHypothesis (extreme.step picks trans start next value)

end Picking

section Order

variable [LawfulOrder F]

private theorem extreme_foldl_least (values : List F) :
    Extreme Arithmetic.le values (values.foldl Arithmetic.least? none) :=
  Extreme.foldl LawfulOrder.smaller_picks LawfulOrder.le_trans (fun _ => rfl) (fun _ _ => rfl)
    (.nothing (List.forall_mem_nil _))

private theorem extreme_foldl_greatest (values : List F) :
    Extreme (fun left right => Arithmetic.le right left) values
      (values.foldl Arithmetic.greatest? none) :=
  Extreme.foldl LawfulOrder.larger_picks (fun high low => LawfulOrder.le_trans low high)
    (fun _ => rfl) (fun _ _ => rfl) (.nothing (List.forall_mem_nil _))

end Order

/-! ## Moments -/

theorem leastOf?_eq_merge (left right : Option F) :
    Arithmetic.leastOf? left right = Option.merge Arithmetic.smaller left right := by
  cases left <;> cases right <;> rfl

theorem greatestOf?_eq_merge (left right : Option F) :
    Arithmetic.greatestOf? left right = Option.merge Arithmetic.larger left right := by
  cases left <;> cases right <;> rfl

namespace Moments

/-- The count, the smallest and the largest number of moments are those of some values. -/
structure Ranges (values : List F) (moments : Moments F) : Prop where
  count : moments.count = values.length
  least : Extreme Arithmetic.le values moments.least?
  greatest : Extreme (fun left right => Arithmetic.le right left) values moments.greatest?

theorem Ranges.empty : (Moments.empty : Moments F).Ranges [] :=
  ⟨rfl, .nothing (List.forall_mem_nil _), .nothing (List.forall_mem_nil _)⟩

theorem Ranges.eq_nil
    {values : List F}
    {moments : Moments F}
    (ranges : moments.Ranges values)
    (noneCounted : moments.count = 0) :
    values = [] :=
  List.length_eq_zero_iff.1 (ranges.count.symm.trans noneCounted)

variable [LawfulOrder F]

theorem Ranges.merge
    {left right : List F}
    {leftMoments rightMoments : Moments F}
    (leftRanges : leftMoments.Ranges left)
    (rightRanges : rightMoments.Ranges right) :
    (leftMoments.merge rightMoments).Ranges (left ++ right) := by
  unfold Moments.merge
  split
  · rw [leftRanges.eq_nil ‹_›]
    exact rightRanges
  split
  · rw [rightRanges.eq_nil ‹_›, List.append_nil]
    exact leftRanges
  · refine ⟨?_, ?_, ?_⟩
    · rw [List.length_append, ← leftRanges.count, ← rightRanges.count]
      rfl
    · change Extreme _ _ (Arithmetic.leastOf? _ _)
      rw [leastOf?_eq_merge]
      exact leftRanges.least.append LawfulOrder.smaller_picks LawfulOrder.le_trans
        rightRanges.least
    · change Extreme _ _ (Arithmetic.greatestOf? _ _)
      rw [greatestOf?_eq_merge]
      exact leftRanges.greatest.append LawfulOrder.larger_picks
        (fun high low => LawfulOrder.le_trans low high) rightRanges.greatest

variable [Element T F]

theorem Ranges.ofBlock (backend : Backend) (block : Array T) :
    (Moments.ofBlock backend block).Ranges (block.toList.map Element.widen) := by
  have least := extreme_foldl_least (block.toList.map (Element.widen (F := F)))
  have greatest := extreme_foldl_greatest (block.toList.map (Element.widen (F := F)))
  rw [List.foldl_map, Array.foldl_toList] at least greatest
  unfold Moments.ofBlock
  split
  · have nothing : block = #[] := Array.eq_empty_of_size_eq_zero ‹_›
    rw [nothing]
    exact .empty
  · exact ⟨by rw [List.length_map, Array.length_toList], least, greatest⟩

/-- Blocks joined one after the other. -/
theorem Ranges.foldl_merge
    {earlier : List F}
    {joined : Moments F}
    (ranges : joined.Ranges earlier)
    (backend : Backend)
    (blocks : List (Array T)) :
    ((blocks.map (Moments.ofBlock backend)).foldl Moments.merge joined).Ranges
      (earlier ++ (blocks.map Array.toList).flatten.map Element.widen) := by
  induction blocks generalizing earlier joined with
  | nil =>
      rw [List.map_nil, List.flatten_nil, List.map_nil, List.append_nil]
      exact ranges
  | cons block rest inductionHypothesis =>
      rw [List.map_cons, List.map_cons, List.foldl_cons, List.flatten_cons, List.map_append,
        ← List.append_assoc]
      exact inductionHypothesis (ranges.merge (.ofBlock backend block))

/-- **However a column is cut**, the smallest and the largest number of all its blocks
together are those of the column. -/
theorem Ranges.ofColumn (backend : Backend) (column : Array T) (blockLength : Nat) :
    (Moments.ofColumn backend column blockLength).Ranges
      (column.toList.map (Element.widen (F := F))) := by
  rw [← flatten_chunks blockLength column]
  exact Ranges.empty.foldl_merge backend (chunks blockLength column)

end Moments

/-! ## Constancy -/

section Constancy

variable [LawfulOrder F]

/-- Moments are taken for constant where there are numbers and all of them are equal. -/
theorem Moments.Ranges.isConstant_iff
    {values : List F}
    {moments : Moments F}
    (ranges : moments.Ranges values) :
    moments.isConstant = true ↔
      (∃ value ∈ values, Arithmetic.isNaN value = false) ∧
        ∀ left ∈ values, ∀ right ∈ values, Arithmetic.isNaN left = false →
          Arithmetic.isNaN right = false → Arithmetic.eq left right = true := by
  obtain ⟨count, least, greatest⟩ := ranges
  unfold Moments.isConstant
  generalize moments.least? = low? at least ⊢
  generalize moments.greatest? = high? at greatest ⊢
  cases least with
  | nothing notNumbers =>
      constructor
      · intro constant
        cases constant
      · rintro ⟨⟨value, member, number⟩, -⟩
        rw [notNumbers value member] at number
        cases number
  | @met low lowMember lowNumber lowFirst =>
      cases greatest with
      | nothing notNumbers =>
          rw [notNumbers low lowMember] at lowNumber
          cases lowNumber
      | @met high highMember highNumber highLast =>
          have counted : 0 < moments.count := by
            rw [count]
            exact List.length_pos_of_mem lowMember
          dsimp only
          rw [decide_eq_true counted, Bool.true_and]
          constructor
          · intro same
            refine ⟨⟨low, lowMember, lowNumber⟩, ?_⟩
            intro left leftMember right rightMember leftNumber rightNumber
            have highLow := (LawfulOrder.eq_iff.1 same).2
            have leftLow := LawfulOrder.le_trans (highLast left leftMember leftNumber) highLow
            have rightLow := LawfulOrder.le_trans (highLast right rightMember rightNumber) highLow
            exact LawfulOrder.eq_iff.2
              ⟨LawfulOrder.le_trans leftLow (lowFirst right rightMember rightNumber),
                LawfulOrder.le_trans rightLow (lowFirst left leftMember leftNumber)⟩
          · rintro ⟨-, same⟩
            exact same low lowMember high highMember lowNumber highNumber

variable [Element T F] [LawfulEquality T F]

/-- An element that equals itself widens to a number. -/
theorem isNaN_widen_iff {value : T} :
    Arithmetic.isNaN (Element.widen value : F) = false ↔ Element.eq value value = true := by
  rw [← eq_self_iff, LawfulEquality.eq_widen]

private theorem isConstant_ofColumn
    (backend : Backend)
    (column : Array T)
    (blockLength : Nat) :
    (Moments.ofColumn backend column blockLength).isConstant = true ↔
      (∃ value ∈ column, Element.eq value value = true) ∧
        ∀ left ∈ column, ∀ right ∈ column, Element.eq left left = true →
          Element.eq right right = true → Element.eq left right = true := by
  rw [(Moments.Ranges.ofColumn backend column blockLength).isConstant_iff]
  simp only [List.mem_map, Array.mem_toList_iff, exists_exists_and_eq_and, forall_exists_index,
    and_imp, forall_apply_eq_imp_iff₂, isNaN_widen_iff, LawfulEquality.eq_widen]

/-- **Constant columns.** However a column is cut into blocks, it is taken for constant
just if it holds elements that are numbers and all of those are equal. That agrees with
all its elements being equal just if all of them are numbers or it is not taken for
constant. -/
theorem isConstant_ofColumn_iff
    (backend : Backend)
    (column : Array T)
    (blockLength : Nat)
    (nonempty : 0 < column.size) :
    ((Moments.ofColumn backend column blockLength).isConstant = true ↔
        (∃ value ∈ column, Element.eq value value = true) ∧
          ∀ left ∈ column, ∀ right ∈ column, Element.eq left left = true →
            Element.eq right right = true → Element.eq left right = true) ∧
      (((Moments.ofColumn backend column blockLength).isConstant = true ↔
          ∀ left ∈ column, ∀ right ∈ column, Element.eq left right = true) ↔
        (∀ value ∈ column, Element.eq value value = true) ∨
          (Moments.ofColumn backend column blockLength).isConstant = false) := by
  have constant := isConstant_ofColumn backend column blockLength
  have first := Array.getElem_mem nonempty
  refine ⟨constant, ?_, ?_⟩
  · intro agrees
    by_cases taken : (Moments.ofColumn backend column blockLength).isConstant = true
    · exact .inl fun value member => agrees.1 taken value member value member
    · exact .inr (Bool.eq_false_iff.2 taken)
  · intro numbers
    constructor
    · intro taken
      rcases numbers with allNumbers | notTaken
      · intro left leftMember right rightMember
        exact (constant.1 taken).2 left leftMember right rightMember (allNumbers left leftMember)
          (allNumbers right rightMember)
      · rw [taken] at notTaken
        cases notTaken
    · intro allEqual
      exact constant.2 ⟨⟨_, first, allEqual _ first _ first⟩,
        fun left leftMember right rightMember _ _ => allEqual left leftMember right rightMember⟩

end Constancy

/-- Tenths in two blocks, one of which holds what is not a number as well: the column is
taken for constant, though not all its elements are equal. -/
theorem isConstant_of_tenths :
    let column : Array Float32 := #[0.1, 0.1, 0 / 0, 0.1]
    0 < column.size ∧ (Moments.ofColumn .avx2 column 2).isConstant = true ∧
      ¬∀ left ∈ column, ∀ right ∈ column, Element.eq left right = true := by
  intro column
  obtain ⟨constant, agrees⟩ := isConstant_ofColumn_iff .avx2 column 2 (by decide)
  have taken : (Moments.ofColumn .avx2 column 2).isConstant = true :=
    constant.2 ⟨⟨0.1, by simp [column], by decide +kernel⟩, by decide +kernel⟩
  refine ⟨by decide, taken, fun allEqual => ?_⟩
  rcases agrees.1 ⟨fun _ => allEqual, fun _ => taken⟩ with numbers | notTaken
  · exact absurd (numbers (0 / 0) (by simp [column])) (by decide +kernel)
  · rw [taken] at notTaken
    cases notTaken

/-- A column of one number and of what is not a number is taken for constant: its variance
is zero. -/
theorem isConstant_despite_unequal_values :
    let column : Array Float := #[0 / 0, 1]
    0 < column.size ∧ (∃ left ∈ column, ∃ right ∈ column, Element.eq left right = false) ∧
      (Moments.ofColumn .scalar column blockRows).isConstant = true ∧
      (Moments.ofColumn .scalar column blockRows).variance = 0 := by
  intro column
  exact ⟨by decide, ⟨0 / 0, by simp [column], 1, by simp [column], by decide +kernel⟩,
    by decide +kernel, by decide +kernel⟩

end Standardize
