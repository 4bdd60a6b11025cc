import Mathlib.Algebra.BigOperators.Group.List.Basic
import Standardize.Proofs.Exact.Moments
import Standardize.Proofs.Extremes

/-!
Contract: without rounding, blocks of moments form a commutative monoid.

Owns:
- `Block`, moments that a merge accepts: those of no values, or of a positive count,
  whatever their other fields are;
- the sums that moments stand for, which merging adds and which determine them;
- the monoid, its homomorphism from columns, and the merge of many blocks in any order
  and any grouping.

Does not own: moments that were rounded, whose merge is not associative.
-/

set_option autoImplicit false

namespace Standardize

namespace Moments

variable {F : Type} [Arithmetic F]

/-- Moments of no values, or of some. -/
def Proper (moments : Moments F) : Prop :=
  moments = empty ∨ 0 < moments.count

theorem Proper.eq_empty
    {moments : Moments F}
    (proper : moments.Proper)
    (none : moments.count = 0) :
    moments = empty :=
  proper.resolve_right fun some => absurd none some.ne'

private theorem count_merge (left right : Moments F) :
    (left.merge right).count = left.count + right.count := by
  unfold merge
  split
  · omega
  · split
    · omega
    · rfl

theorem Proper.merge
    {left right : Moments F}
    (leftProper : left.Proper)
    (rightProper : right.Proper) :
    (left.merge right).Proper := by
  rcases leftProper with rfl | leftSome
  · exact rightProper
  · right
    rw [count_merge]
    omega

private theorem merge_empty {moments : Moments F} (proper : moments.Proper) :
    moments.merge empty = moments := by
  unfold Moments.merge
  split
  · exact (proper.eq_empty ‹_›).symm
  · rfl

/-- What joining combines, merging combines, if a block without values adds nothing. -/
theorem Proper.part_merge
    {A : Type}
    {part : Moments F → A}
    {combine : A → A → A}
    (before : ∀ value, combine (part empty) value = value)
    (after : ∀ value, combine value (part empty) = value)
    (join : ∀ {left right : Moments F}, 0 < left.count → 0 < right.count →
      part (left.join right) = combine (part left) (part right))
    {left right : Moments F}
    (leftProper : left.Proper)
    (rightProper : right.Proper) :
    part (left.merge right) = combine (part left) (part right) := by
  rcases leftProper with rfl | leftSome
  · rw [before]
    rfl
  · rcases rightProper with rfl | rightSome
    · rw [merge_empty (.inr leftSome), after]
    · unfold Moments.merge
      rw [if_neg leftSome.ne', if_neg rightSome.ne', join leftSome rightSome]

private theorem least?_merge
    {left right : Moments F}
    (leftProper : left.Proper)
    (rightProper : right.Proper) :
    (left.merge right).least? = Option.merge Arithmetic.smaller left.least? right.least? :=
  leftProper.part_merge (fun _ => Option.merge_none_left) (fun _ => Option.merge_none_right)
    (fun _ _ => leastOf?_eq_merge _ _) rightProper

private theorem greatest?_merge
    {left right : Moments F}
    (leftProper : left.Proper)
    (rightProper : right.Proper) :
    (left.merge right).greatest? =
      Option.merge Arithmetic.larger left.greatest? right.greatest? :=
  leftProper.part_merge (fun _ => Option.merge_none_left) (fun _ => Option.merge_none_right)
    (fun _ _ => greatestOf?_eq_merge _ _) rightProper

/-- Merging is refused only where the counts do not fit together. -/
theorem merge?_of_count_lt
    {left right : Moments F}
    (fits : left.count + right.count < Size.limit) :
    left.merge? right = some (left.merge right) := by
  unfold merge? Size.add?
  rw [Size.fit?_eq_some_iff.2 ⟨fits, rfl⟩]

theorem Proper.ofBlock
    {T : Type}
    [Element T F]
    (backend : Backend)
    (block : Array T) :
    (Moments.ofBlock backend block).Proper := by
  unfold Moments.ofBlock
  split
  · exact .inl rfl
  · rename_i some
    exact .inr (Nat.pos_of_ne_zero some)

end Moments

/-- An order and a grouping in which blocks are merged. -/
inductive Grouping (B : Type) where
  | one (block : B)
  | both (left right : Grouping B)
deriving Repr

namespace Grouping

variable {B F : Type} [Arithmetic F]

/-- The blocks of a grouping, from the first to the last. -/
def blocks : Grouping B → List B
  | one block => [block]
  | both left right => left.blocks ++ right.blocks

/-- Merge what blocks stand for as a grouping says, as long as their counts fit. -/
def merge? (moments : B → Moments F) : Grouping B → Option (Moments F)
  | one block => some (moments block)
  | both left right => do (← left.merge? moments).merge? (← right.merge? moments)

end Grouping

namespace Exact

variable {K : Type} [Field K] [LinearOrder K] [Rooted K]

/-! ## Sums -/

/-- The sum of the values that moments stand for. -/
def total (moments : Moments K) : K :=
  moments.count * moments.mean

/-- The sum of their squares. -/
def squares (moments : Moments K) : K :=
  moments.m2 + moments.count * moments.mean ^ 2

variable [IsStrictOrderedRing K]

/-- Moments of the same sums are the same: the mean is found from the sum of the values,
and then the squared deviations from the sum of their squares. -/
private theorem eq_of_sums
    {left right : Moments K}
    (leftProper : left.Proper)
    (rightProper : right.Proper)
    (count : left.count = right.count)
    (totals : total left = total right)
    (squared : squares left = squares right)
    (least : left.least? = right.least?)
    (greatest : left.greatest? = right.greatest?) :
    left = right := by
  by_cases none : left.count = 0
  · rw [leftProper.eq_empty none, rightProper.eq_empty (count.symm.trans none)]
  · have countNe : (left.count : K) ≠ 0 := Nat.cast_ne_zero.2 none
    have means : left.mean = right.mean := by
      unfold total at totals
      rw [← count] at totals
      exact mul_left_cancel₀ countNe totals
    have m2s : left.m2 = right.m2 := by
      unfold squares at squared
      rw [← count, means] at squared
      exact add_right_cancel squared
    cases left
    cases right
    simp_all only

private theorem total_join
    {left right : Moments K}
    (leftSome : 0 < left.count)
    (rightSome : 0 < right.count) :
    total (left.join right) = total left + total right := by
  have leftPositive : (0 : K) < left.count := Nat.cast_pos.2 leftSome
  have rightPositive : (0 : K) < right.count := Nat.cast_pos.2 rightSome
  have bothNe : (left.count + right.count : K) ≠ 0 := (add_pos leftPositive rightPositive).ne'
  simp only [total, Moments.join, ofCount_eq, Nat.cast_add]
  field_simp
  ring

private theorem squares_join
    {left right : Moments K}
    (leftSome : 0 < left.count)
    (rightSome : 0 < right.count) :
    squares (left.join right) = squares left + squares right := by
  have leftPositive : (0 : K) < left.count := Nat.cast_pos.2 leftSome
  have rightPositive : (0 : K) < right.count := Nat.cast_pos.2 rightSome
  have bothNe : (left.count + right.count : K) ≠ 0 := (add_pos leftPositive rightPositive).ne'
  simp only [squares, Moments.join, ofCount_eq, Nat.cast_add]
  field_simp
  ring

private theorem total_merge
    {left right : Moments K}
    (leftProper : left.Proper)
    (rightProper : right.Proper) :
    total (left.merge right) = total left + total right := by
  have none : total (Moments.empty : Moments K) = 0 := by simp [total, Moments.empty]
  exact leftProper.part_merge (by simp [none]) (by simp [none]) total_join rightProper

private theorem squares_merge
    {left right : Moments K}
    (leftProper : left.Proper)
    (rightProper : right.Proper) :
    squares (left.merge right) = squares left + squares right := by
  have none : squares (Moments.empty : Moments K) = 0 := by simp [squares, Moments.empty]
  exact leftProper.part_merge (by simp [none]) (by simp [none]) squares_join rightProper

/-! ## The monoid -/

private theorem merge_comm
    {left right : Moments K}
    (leftProper : left.Proper)
    (rightProper : right.Proper) :
    left.merge right = right.merge left := by
  apply eq_of_sums (leftProper.merge rightProper) (rightProper.merge leftProper)
  · rw [Moments.count_merge, Moments.count_merge, Nat.add_comm]
  · rw [total_merge leftProper rightProper, total_merge rightProper leftProper, add_comm]
  · rw [squares_merge leftProper rightProper, squares_merge rightProper leftProper, add_comm]
  · rw [Moments.least?_merge leftProper rightProper, Moments.least?_merge rightProper leftProper]
    exact (Option.commutative_merge min).comm _ _
  · rw [Moments.greatest?_merge leftProper rightProper,
      Moments.greatest?_merge rightProper leftProper]
    exact (Option.commutative_merge max).comm _ _

private theorem merge_assoc
    {left middle right : Moments K}
    (leftProper : left.Proper)
    (middleProper : middle.Proper)
    (rightProper : right.Proper) :
    (left.merge middle).merge right = left.merge (middle.merge right) := by
  have first := leftProper.merge middleProper
  have second := middleProper.merge rightProper
  apply eq_of_sums (first.merge rightProper) (leftProper.merge second)
  · simp only [Moments.count_merge, Nat.add_assoc]
  · rw [total_merge first rightProper, total_merge leftProper middleProper,
      total_merge leftProper second, total_merge middleProper rightProper, add_assoc]
  · rw [squares_merge first rightProper, squares_merge leftProper middleProper,
      squares_merge leftProper second, squares_merge middleProper rightProper, add_assoc]
  · rw [Moments.least?_merge first rightProper, Moments.least?_merge leftProper middleProper,
      Moments.least?_merge leftProper second, Moments.least?_merge middleProper rightProper]
    exact (Option.associative_merge min).assoc _ _ _
  · rw [Moments.greatest?_merge first rightProper,
      Moments.greatest?_merge leftProper middleProper,
      Moments.greatest?_merge leftProper second,
      Moments.greatest?_merge middleProper rightProper]
    exact (Option.associative_merge max).assoc _ _ _

/-- Moments of blocks, with any mean, squared deviations, smallest and largest number. -/
def Block (K : Type) [Field K] [LinearOrder K] [Rooted K] : Type :=
  { moments : Moments K // moments.Proper }

instance : CommMonoid (Block K) where
  mul left right := ⟨left.val.merge right.val, left.property.merge right.property⟩
  one := ⟨Moments.empty, .inl rfl⟩
  mul_assoc left middle right :=
    Subtype.ext (merge_assoc left.property middle.property right.property)
  mul_comm left right := Subtype.ext (merge_comm left.property right.property)
  one_mul _ := rfl
  mul_one block := Subtype.ext (Moments.merge_empty block.property)

/-- Merged from the first to the last, blocks are their product. -/
theorem mergeAll_eq_prod (blocks : List (Block K)) :
    Moments.mergeAll (blocks.map (·.val)) = blocks.prod.val := by
  have start : (Moments.empty : Moments K) = (1 : Block K).val := rfl
  rw [List.prod_eq_foldl, Moments.mergeAll, List.foldl_map, start]
  exact List.foldl_hom _ fun _ _ => rfl

private theorem count_prod (blocks : List (Block K)) :
    blocks.prod.val.count = (blocks.map (·.val.count)).sum := by
  induction blocks with
  | nil => rfl
  | cons block rest inductionHypothesis =>
      rw [List.prod_cons, List.map_cons, List.sum_cons, ← inductionHypothesis]
      exact Moments.count_merge _ _

/-- Merged in any grouping, blocks are their product, if their counts fit. -/
theorem merge?_eq_prod
    (grouping : Grouping (Block K))
    (fits : (grouping.blocks.map (·.val.count)).sum < Size.limit) :
    grouping.merge? (·.val) = some grouping.blocks.prod.val := by
  induction grouping with
  | one block =>
      rw [Grouping.blocks, List.prod_singleton]
      rfl
  | both left right leftMerged rightMerged =>
      simp only [Grouping.blocks, List.map_append, List.sum_append_nat] at fits
      have counts : left.blocks.prod.val.count + right.blocks.prod.val.count < Size.limit := by
        rw [count_prod, count_prod]
        exact fits
      rw [Grouping.merge?, leftMerged (by omega), rightMerged (by omega), Grouping.blocks,
        List.prod_append]
      exact Moments.merge?_of_count_lt counts

variable {T : Type} [Element T K]

omit [Field K] [LinearOrder K] [IsStrictOrderedRing K] [Rooted K] in
private theorem numbers_append (left right : Array T) :
    (numbers (left ++ right) : List K) = numbers left ++ numbers right := by
  rw [numbers, Array.toList_append, List.map_append]
  rfl

/-- **The moments of a slice are those of its parts, merged.** -/
theorem ofBlock_append (backend : Backend) (left right : Array T) :
    (Moments.ofBlock backend (left ++ right) : Moments K) =
      (Moments.ofBlock backend left).merge (Moments.ofBlock backend right) := by
  rw [ofBlock_eq_moments, ofBlock_eq_moments, ofBlock_eq_moments, merge_moments, numbers_append]

/-- **Blocks are a commutative monoid.** Without rounding, merging is associative and
commutative, and the moments of no values change nothing. The moments of a slice are those
of its parts, merged. Blocks whose counts fit together have the same moments in whatever
order and grouping they are merged. -/
theorem merge_monoid (backend : Backend) :
    ((∀ left middle right : Block K,
          (left.val.merge middle.val).merge right.val =
            left.val.merge (middle.val.merge right.val)) ∧
        (∀ left right : Block K, left.val.merge right.val = right.val.merge left.val) ∧
        ∀ block : Block K,
          Moments.empty.merge block.val = block.val ∧
            block.val.merge Moments.empty = block.val) ∧
      (∀ left right : Array T,
        (Moments.ofBlock backend (left ++ right) : Moments K) =
          (Moments.ofBlock backend left).merge (Moments.ofBlock backend right)) ∧
      ∀ (blocks : List (Block K)) (grouping : Grouping (Block K)),
        grouping.blocks.Perm blocks →
        (blocks.map (·.val.count)).sum < Size.limit →
        grouping.merge? (·.val) = some (Moments.mergeAll (blocks.map (·.val))) := by
  refine ⟨⟨fun left middle right => ?_, fun left right => ?_, fun block => ⟨rfl, ?_⟩⟩,
    ofBlock_append backend, fun blocks grouping order fits => ?_⟩
  · exact merge_assoc left.property middle.property right.property
  · exact merge_comm left.property right.property
  · exact Moments.merge_empty block.property
  · have counts : (grouping.blocks.map (·.val.count)).sum = (blocks.map (·.val.count)).sum :=
      (order.map _).sum_eq
    rw [merge?_eq_prod grouping (counts ▸ fits), mergeAll_eq_prod, order.prod_eq]

/-- Two blocks and one without values, merged from the last to the first. -/
theorem merge_monoid_of_three_blocks :
    let whole : Array Rat := #[1, 2, 6]
    let first : Block Rat := ⟨Moments.ofBlock .avx2 whole, .ofBlock .avx2 whole⟩
    let second : Block Rat := ⟨⟨2, 1 / 3, 7, some 4, none⟩, .inr (by decide)⟩
    let grouping : Grouping (Block Rat) := .both (.one 1) (.both (.one second) (.one first))
    grouping.blocks.Perm [first, second, 1] ∧
      ([first, second, 1].map (·.val.count)).sum < Size.limit ∧
      grouping.merge? (·.val) = some (first.val.merge second.val) := by
  intro whole first second grouping
  have order : grouping.blocks.Perm [first, second, 1] :=
    List.reverse_perm [first, second, 1]
  have fits : ([first, second, 1].map (·.val.count)).sum < Size.limit := by decide
  exact ⟨order, fits, (merge_monoid (T := Rat) .avx2).2.2 [first, second, 1] grouping order fits⟩

end Exact

end Standardize
