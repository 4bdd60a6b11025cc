import Standardize.Proofs.Extremes

/-!
Contract: the extent of a column, from its smallest to its largest number.

Owns:
- `LawfulBounds`, by which no number stands outside the two bounds;
- the running smallest and largest number of values, taken from the bounds on;
- moments of the same values, which agree in their count, their extent and their
  constancy, however the values were cut and whatever their mean is.

Does not own: the sign of a zero at an end of the extent, for which two zeros that are
equal may stand.
-/

set_option autoImplicit false

namespace Standardize

/-! ## Bounds -/

/-- Bounds that are numbers, between which all numbers are. -/
class LawfulBounds (F : Type) [Arithmetic F] [Unbounded F] : Prop where
  le_top :
    ∀ {number : F}, Arithmetic.isNaN number = false → Arithmetic.le number Unbounded.top = true
  bottom_le :
    ∀ {number : F}, Arithmetic.isNaN number = false → Arithmetic.le Unbounded.bottom number = true
  top_ne_bottom : Arithmetic.eq (Unbounded.top : F) Unbounded.bottom = false

namespace Unpacked

open Float.Model Float.Model.UnpackedFloat

/-- Infinities stand at the ends. -/
private theorem rank_bounds (number : UnpackedFloat) :
    rank (.infinity .negative) ≤ rank number ∧ rank number ≤ rank (.infinity .positive) := by
  have lexicographic (kind : Int) (rest : Int ×ₗ Int) (above : -2 < kind) (below : kind < 2) :
      rank (.infinity .negative) ≤ toLex (kind, rest) ∧
        toLex (kind, rest) ≤ rank (.infinity .positive) :=
    ⟨Prod.Lex.toLex_le_toLex.2 (.inl above), Prod.Lex.toLex_le_toLex.2 (.inl below)⟩
  cases number with
  | notANumber => exact lexicographic 0 _ (by decide) (by decide)
  | infinity sign => cases sign <;> decide
  | zero sign => exact lexicographic 0 _ (by decide) (by decide)
  | finite sign significand exponent positive =>
      cases sign with
      | negative => exact lexicographic (-1) _ (by decide) (by decide)
      | positive => exact lexicographic 1 _ (by decide) (by decide)

end Unpacked

instance Binary64.lawfulBounds : LawfulBounds Float where
  le_top := by
    intro number isNumber
    exact Binary64.le_iff.2 ⟨isNumber, by decide +kernel, (Unpacked.rank_bounds _).2⟩
  bottom_le := by
    intro number isNumber
    exact Binary64.le_iff.2 ⟨by decide +kernel, isNumber, (Unpacked.rank_bounds _).1⟩
  top_ne_bottom := by decide +kernel

variable {T F : Type} [Arithmetic F]

/-! ## Running ends -/

section Extremes

variable {before : F → F → Bool} {values : List F}

/-- Two first numbers of the same values come before each other. -/
theorem Extreme.before_of_some
    {left right : F}
    (leftFirst : Extreme before values (some left))
    (rightFirst : Extreme before values (some right)) :
    before left right = true := by
  cases leftFirst with
  | met leftMember leftNumber first =>
      cases rightFirst with
      | met rightMember rightNumber _ => exact first right rightMember rightNumber

/-- With a bound behind all numbers among the values, the bound is first where there was
no number. -/
theorem Extreme.getD
    {bound : F}
    (isNumber : Arithmetic.isNaN bound = false)
    (last : ∀ {number}, Arithmetic.isNaN number = false → before number bound = true)
    {seen : Option F}
    (extreme : Extreme before values seen) :
    Extreme before (bound :: values) (some (seen.getD bound)) := by
  cases extreme with
  | nothing notNumbers =>
      refine .met List.mem_cons_self isNumber (List.forall_mem_cons.2 ⟨last, ?_⟩)
      intro value member number
      rw [notNumbers value member] at number
      cases number
  | met member number first =>
      exact .met (List.mem_cons_of_mem _ member) number
        (List.forall_mem_cons.2 ⟨fun _ => last number, first⟩)

/-- Once a number was met, values are taken up by the choice alone. -/
theorem Extreme.foldl_pick
    {pick : F → F → F}
    (picks : Picks before pick)
    (trans : ∀ {low middle high}, before low middle = true → before middle high = true →
      before low high = true)
    {number : F}
    (extreme : Extreme before values (some number))
    (others : List F) :
    Extreme before (values ++ others) (some (others.foldl pick number)) := by
  let meet : Option F → F → Option F := fun seen value =>
    seen.elim (if Arithmetic.isNaN value then none else some value) fun met => some (pick met value)
  have run : Extreme before (values ++ others) (others.foldl meet (some number)) := by
    refine extreme.foldl picks trans (fun value => ?_) fun met value => ?_
    · rfl
    · rfl
  have alone : others.foldl meet (some number) = some (others.foldl pick number) :=
    List.foldl_hom some fun _ _ => rfl
  rwa [alone] at run

end Extremes

variable [Unbounded F]

/-- The smallest number of values, taken one after the other from the upper bound on. -/
def lowest (values : List F) : F :=
  values.foldl Arithmetic.smaller Unbounded.top

/-- The largest number of values, taken one after the other from the lower bound on. -/
def highest (values : List F) : F :=
  values.foldl Arithmetic.larger Unbounded.bottom

variable [LawfulOrder F] [LawfulBounds F]

private theorem isNaN_top : Arithmetic.isNaN (Unbounded.top : F) = false :=
  (LawfulOrder.isNaN_of_le (LawfulBounds.le_top LawfulOrder.isNaN_zero)).2

private theorem isNaN_bottom : Arithmetic.isNaN (Unbounded.bottom : F) = false :=
  (LawfulOrder.isNaN_of_le (LawfulBounds.bottom_le LawfulOrder.isNaN_zero)).1

private theorem extreme_lowest (values : List F) :
    Extreme Arithmetic.le (Unbounded.top :: values) (some (lowest values)) :=
  (Extreme.singleton LawfulOrder.smaller_picks isNaN_top).foldl_pick LawfulOrder.smaller_picks
    LawfulOrder.le_trans values

private theorem extreme_highest (values : List F) :
    Extreme (fun left right => Arithmetic.le right left) (Unbounded.bottom :: values)
      (some (highest values)) :=
  (Extreme.singleton LawfulOrder.larger_picks isNaN_bottom).foldl_pick LawfulOrder.larger_picks
    (fun high low => LawfulOrder.le_trans low high) values

namespace Moments

/-! ## Moments of the same values -/

section Ranges

variable {values : List F} {moments : Moments F} (ranges : moments.Ranges values)
include ranges

theorem Ranges.extreme_least :
    Extreme Arithmetic.le (Unbounded.top :: values) (some moments.least) :=
  ranges.least.getD isNaN_top LawfulBounds.le_top

theorem Ranges.extreme_greatest :
    Extreme (fun left right => Arithmetic.le right left) (Unbounded.bottom :: values)
      (some moments.greatest) :=
  ranges.greatest.getD isNaN_bottom LawfulBounds.bottom_le

/-- What the blocks met is what a run over all values from the bounds on meets. -/
theorem Ranges.eq_lowest : Arithmetic.eq moments.least (lowest values) = true :=
  LawfulOrder.eq_iff.2 ⟨ranges.extreme_least.before_of_some (extreme_lowest values),
    (extreme_lowest values).before_of_some ranges.extreme_least⟩

theorem Ranges.eq_highest : Arithmetic.eq moments.greatest (highest values) = true :=
  LawfulOrder.eq_iff.2 ⟨(extreme_highest values).before_of_some ranges.extreme_greatest,
    ranges.extreme_greatest.before_of_some (extreme_highest values)⟩

omit [LawfulOrder F] in
/-- Moments are taken for constant where there are values and both ends of the extent are
equal; without a number these are the bounds, which are not. -/
theorem Ranges.isConstant_eq :
    moments.isConstant =
      (decide (0 < moments.count) && Arithmetic.eq moments.least moments.greatest) := by
  obtain ⟨-, least, greatest⟩ := ranges
  unfold Moments.isConstant Moments.least Moments.greatest
  generalize moments.least? = low? at least ⊢
  generalize moments.greatest? = high? at greatest ⊢
  cases least with
  | nothing notNumbers =>
      cases greatest with
      | nothing _ => simp [LawfulBounds.top_ne_bottom]
      | met member isNumber _ =>
          rw [notNumbers _ member] at isNumber
          cases isNumber
  | met member isNumber _ =>
      cases greatest with
      | nothing notNumbers =>
          rw [notNumbers _ member] at isNumber
          cases isNumber
      | met _ _ _ => rfl

end Ranges

/-- The same count, extent and constancy. -/
structure SameExtent (left right : Moments F) : Prop where
  count : left.count = right.count
  least : Arithmetic.eq left.least right.least = true
  greatest : Arithmetic.eq left.greatest right.greatest = true
  isConstant : left.isConstant = right.isConstant

/-- Moments of the same values have the same extent, however they came about. -/
theorem Ranges.sameExtent
    {values : List F}
    {left right : Moments F}
    (leftRanges : left.Ranges values)
    (rightRanges : right.Ranges values) :
    left.SameExtent right where
  count := leftRanges.count.trans rightRanges.count.symm
  least := LawfulOrder.eq_iff.2
    ⟨leftRanges.extreme_least.before_of_some rightRanges.extreme_least,
      rightRanges.extreme_least.before_of_some leftRanges.extreme_least⟩
  greatest := LawfulOrder.eq_iff.2
    ⟨rightRanges.extreme_greatest.before_of_some leftRanges.extreme_greatest,
      leftRanges.extreme_greatest.before_of_some rightRanges.extreme_greatest⟩
  isConstant := by
    rw [Bool.eq_iff_iff, leftRanges.isConstant_iff, rightRanges.isConstant_iff]

/-! ## Columns -/

/-- **The extent of a column** does not depend on how it is cut and on which backend its
blocks are read. It is that of one block of the whole column, and of a run over all values
that starts at the bounds. Blocks of no length count as blocks of one value. -/
theorem extent_ofColumn [Element T F] (column : Array T) :
    (∀ backend other blockLength otherLength,
      (Moments.ofColumn backend column blockLength).SameExtent
        (Moments.ofColumn other column otherLength : Moments F)) ∧
      (∀ backend other blockLength,
        (Moments.ofColumn backend column blockLength).SameExtent
          (Moments.ofBlock other column : Moments F)) ∧
      (∀ backend,
        Moments.ofColumn backend column 0 = (Moments.ofColumn backend column 1 : Moments F)) ∧
      ∀ backend blockLength,
        let moments : Moments F := Moments.ofColumn backend column blockLength
        moments.count = column.size ∧
          Arithmetic.eq moments.least (lowest (column.toList.map Element.widen)) = true ∧
          Arithmetic.eq moments.greatest (highest (column.toList.map Element.widen)) = true ∧
          moments.isConstant =
            (decide (0 < moments.count) && Arithmetic.eq moments.least moments.greatest) := by
  have ranges (backend : Backend) (blockLength : Nat) :
      (Moments.ofColumn backend column blockLength : Moments F).Ranges
        (column.toList.map Element.widen) :=
    .ofColumn backend column blockLength
  refine ⟨fun backend other blockLength otherLength => ?_, fun backend other blockLength => ?_,
    fun backend => rfl, fun backend blockLength => ?_⟩
  · exact (ranges backend blockLength).sameExtent (ranges other otherLength)
  · exact (ranges backend blockLength).sameExtent (.ofBlock other column)
  · have extent := ranges backend blockLength
    refine ⟨?_, extent.eq_lowest, extent.eq_highest, extent.isConstant_eq⟩
    rw [extent.count, List.length_map, Array.length_toList]

/-- A column with an infinity and with what is not a number, in blocks of one value on one
backend and whole on the other: the block of what is not a number alone adds nothing. -/
theorem extent_ofColumn_of_infinity :
    let column : Array Float32 := #[0 / 0, 1 / 0, -0.1, 0 / 0]
    let cut : Moments Float := Moments.ofColumn .scalar column 0
    let whole : Moments Float := Moments.ofBlock .avx2 column
    cut.SameExtent whole ∧ cut.count = 4 ∧ whole.isConstant = false ∧
      Arithmetic.eq cut.greatest (1 / 0) = true := by
  intro column cut whole
  obtain ⟨-, alike, -, run⟩ := extent_ofColumn (F := Float) column
  obtain ⟨count, -⟩ := run .scalar 0
  have same := alike .scalar .avx2 0
  exact ⟨same, count, by decide +kernel, by decide +kernel⟩

end Moments

end Standardize
