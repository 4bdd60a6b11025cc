import Mathlib.Algebra.BigOperators.Group.List.Lemmas
import Mathlib.Algebra.BigOperators.Ring.List
import Mathlib.Algebra.GroupWithZero.Nat
import Mathlib.Data.List.TakeWhile
import Standardize.Arithmetic.Binary64
import Standardize.Tensor

/-!
Contract: which dimensions span a tensor.

Owns:
- `Size.beforeZero`, the sizes before the first zero. A running product of sizes is
  refused just if the product of these is not a size, and else is the product of all;
- what the dimensions of a tensor are refused for, and how many values a tensor over
  accepted ones has;
- what another order of the dimensions can change.

Does not own: whether memory grants the values of dimensions that were counted.
-/

set_option autoImplicit false

namespace Standardize

/-! ## Running products -/

namespace Size

/-- The sizes before the first zero. -/
def beforeZero (sizes : List Nat) : List Nat :=
  sizes.takeWhile fun size => size != 0

private theorem beforeZero_zero_cons (rest : List Nat) : beforeZero (0 :: rest) = [] :=
  rfl

private theorem beforeZero_cons {size : Nat} (positive : size ≠ 0) (rest : List Nat) :
    beforeZero (size :: rest) = size :: beforeZero rest :=
  List.takeWhile_cons_of_pos (by simpa using positive)

theorem beforeZero_of_not_mem {sizes : List Nat} (none : 0 ∉ sizes) :
    beforeZero sizes = sizes := by
  refine List.takeWhile_eq_self_iff.2 fun size member => ?_
  simpa using ne_of_mem_of_not_mem member none

theorem prod_pos_of_not_mem {sizes : List Nat} (none : 0 ∉ sizes) : 0 < sizes.prod :=
  Nat.pos_of_ne_zero (List.prod_ne_zero none)

private theorem zero_not_mem_beforeZero (sizes : List Nat) : 0 ∉ beforeZero sizes := by
  intro member
  simpa using List.mem_takeWhile_imp member

private theorem zero_not_mem_filter (sizes : List Nat) :
    0 ∉ sizes.filter fun size => size != 0 := by
  simp

/-- A running product is refused just if the sizes before the first zero take it out of
the sizes. From a zero on it stays zero. -/
private theorem productFrom?_eq_none_iff
    {acc : Nat}
    (accLt : acc < limit)
    (sizes : List Nat) :
    productFrom? acc sizes = none ↔ limit ≤ acc * (beforeZero sizes).prod := by
  induction sizes generalizing acc with
  | nil => simpa [productFrom?, beforeZero] using accLt
  | cons size rest inductionHypothesis =>
      rw [productFrom?]
      rcases Nat.eq_zero_or_pos size with rfl | positive
      · have fits : mul? acc 0 = some 0 :=
          fit?_eq_some_iff.2 ⟨Nat.zero_lt_of_lt accLt, rfl⟩
        rw [fits, beforeZero_zero_cons]
        dsimp only
        rw [inductionHypothesis (Nat.zero_lt_of_lt accLt), Nat.zero_mul, List.prod_nil, Nat.mul_one]
        exact ⟨fun above => absurd above (Nat.not_le.2 (Nat.zero_lt_of_lt accLt)),
          fun above => absurd above (Nat.not_le.2 accLt)⟩
      · rw [beforeZero_cons positive.ne', List.prod_cons, ← Nat.mul_assoc]
        cases next : mul? acc size with
        | none =>
            have above : limit ≤ acc * size := mul?_eq_none_iff.1 next
            have restPos : 0 < (beforeZero rest).prod :=
              prod_pos_of_not_mem (zero_not_mem_beforeZero rest)
            exact ⟨fun _ => above.trans (Nat.le_mul_of_pos_right _ restPos), fun _ => rfl⟩
        | some product =>
            obtain ⟨productLt, rfl⟩ := fit?_eq_some_iff.1 next
            exact inductionHypothesis productLt

/-- A running product that is kept is the product of all sizes. -/
private theorem eq_of_productFrom?_eq_some
    {acc result : Nat}
    {sizes : List Nat}
    (kept : productFrom? acc sizes = some result) :
    result = acc * sizes.prod := by
  induction sizes generalizing acc with
  | nil =>
      cases kept
      rw [List.prod_nil, Nat.mul_one]
  | cons size rest inductionHypothesis =>
      rw [productFrom?] at kept
      split at kept
      · rename_i product fits
        rw [inductionHypothesis kept, (fit?_eq_some_iff.1 fits).2, List.prod_cons, Nat.mul_assoc]
      · cases kept

private theorem product?_eq_none_iff {sizes : List Nat} :
    product? sizes = none ↔ limit ≤ (beforeZero sizes).prod := by
  rw [product?, productFrom?_eq_none_iff (by decide), Nat.one_mul]

private theorem eq_of_product?_eq_some {sizes : List Nat} {result : Nat}
    (kept : product? sizes = some result) :
    result = sizes.prod := by
  rw [eq_of_productFrom?_eq_some kept, Nat.one_mul]

/-- A running product is kept as the product of all sizes, or refused. -/
theorem product?_eq (sizes : List Nat) :
    product? sizes = if limit ≤ (beforeZero sizes).prod then none else some sizes.prod := by
  cases kept : product? sizes with
  | none => rw [if_pos (product?_eq_none_iff.1 kept)]
  | some result =>
      rw [if_neg fun above => ?_, eq_of_product?_eq_some kept]
      rw [product?_eq_none_iff.2 above] at kept
      cases kept

/-- The sizes before the first zero are some of those that are not zero. -/
private theorem prod_beforeZero_le (sizes : List Nat) :
    (beforeZero sizes).prod ≤ (sizes.filter fun size => size != 0).prod := by
  have kept : (beforeZero sizes).filter (fun size => size != 0) = beforeZero sizes :=
    List.filter_eq_self.2 fun size member => by
      simpa using ne_of_mem_of_not_mem member (zero_not_mem_beforeZero sizes)
  have inside : (beforeZero sizes).Sublist (sizes.filter fun size => size != 0) := by
    rw [← kept]
    exact (List.takeWhile_sublist _).filter _
  exact Nat.le_of_dvd (prod_pos_of_not_mem (zero_not_mem_filter sizes)) inside.prod_dvd_prod

/-- With the zeros moved to the end, all other sizes stand before the first. -/
private theorem beforeZero_zeros_last (sizes : List Nat) :
    beforeZero ((sizes.filter fun size => size != 0) ++ sizes.filter fun size => !(size != 0)) =
      sizes.filter fun size => size != 0 := by
  unfold beforeZero
  rw [List.takeWhile_append_of_pos fun _ member => (List.mem_filter.1 member).2,
    List.takeWhile_eq_nil_iff.2, List.append_nil]
  intro some nonzero
  have zero := (List.mem_filter.1 (List.get_mem _ ⟨0, some⟩)).2
  rw [nonzero] at zero
  cases zero

end Size

/-! ## Tensors -/

namespace Tensor

variable {T F : Type}

/-- The product of the dimensions before the first zero is a size. -/
def Counted (dims : List Nat) : Prop :=
  (Size.beforeZero dims).prod < Size.limit

instance (dims : List Nat) : Decidable (Counted dims) :=
  inferInstanceAs (Decidable (_ < _))

/-- What dimensions that cannot be counted are refused with. -/
def overflow (dims : List Nat) : Error :=
  .single (.allocation (.dimensionsOverflow dims))

/-- The number of values of a tensor, if it is accepted. -/
def acceptedSize (made : Except Error (Tensor T)) : Option Nat :=
  made.toOption.map size

private theorem elementCount_of_counted {dims : List Nat} (counted : Counted dims) :
    elementCount dims = .ok dims.prod := by
  rw [elementCount, Size.product?_eq, if_neg (Nat.not_le.2 counted)]

private theorem elementCount_of_not_counted {dims : List Nat} (uncounted : ¬Counted dims) :
    elementCount dims = .error (overflow dims) := by
  rw [elementCount, Size.product?_eq, if_pos (Nat.not_lt.1 uncounted)]
  rfl

/-- A memory never refuses a buffer in the words for dimensions. -/
private theorem reserve_ne_overflow
    (memory : Memory)
    (element : String)
    (byteSize rows cols : Nat)
    (dims : List Nat) :
    memory.reserve element byteSize rows cols ≠ .error (overflow dims) := by
  unfold Memory.reserve overflow Fault.raise
  split
  · simp
  · split
    · simp
    · split <;> simp

section Zeros

variable [Element T F]

private theorem zeroed_ne_overflow (memory : Memory) (rows cols : Nat) (dims : List Nat) :
    memory.zeroed T rows cols ≠ .error (overflow dims) := by
  unfold Memory.zeroed
  split
  · simp
  · rename_i error refused
    intro same
    rw [Except.error.inj same] at refused
    exact reserve_ne_overflow _ _ _ _ _ _ refused

/-- Counted dimensions are left to the memory, which may have reasons of its own to
refuse. -/
theorem zeros_of_counted
    (memory : Memory)
    {dims : List Nat}
    (counted : Counted dims) :
    zeros memory dims = (memory.zeroed T dims.prod 1).map (Tensor.mk dims) := by
  unfold zeros
  rw [elementCount_of_counted counted]
  dsimp only
  cases memory.zeroed T dims.prod 1 <;> rfl

private theorem zeros_eq_overflow_iff (memory : Memory) (dims : List Nat) :
    (zeros memory dims : Except Error (Tensor T)) = .error (overflow dims) ↔ ¬Counted dims := by
  constructor
  · intro refused counted
    rw [zeros_of_counted memory counted] at refused
    cases granted : memory.zeroed T dims.prod 1 with
    | ok data =>
        rw [granted] at refused
        cases refused
    | error error =>
        rw [granted] at refused
        rw [Except.error.inj refused] at granted
        exact zeroed_ne_overflow _ _ _ _ granted
  · intro uncounted
    unfold zeros
    rw [elementCount_of_not_counted uncounted]

theorem of_zeros_eq_ok
    {memory : Memory}
    {dims : List Nat}
    {tensor : Tensor T}
    (accepted : zeros memory dims = .ok tensor) :
    tensor.dims = dims ∧ tensor.size = dims.prod := by
  have counted : Counted dims := by
    by_contra uncounted
    rw [(zeros_eq_overflow_iff memory dims).2 uncounted] at accepted
    cases accepted
  rw [zeros_of_counted memory counted] at accepted
  cases granted : memory.zeroed T dims.prod 1 with
  | error error =>
      rw [granted] at accepted
      cases accepted
  | ok data =>
      rw [granted] at accepted
      cases accepted
      exact ⟨rfl, (Memory.size_of_zeroed granted).trans (Nat.mul_one _)⟩

end Zeros

private theorem ofArray_eq_overflow_iff (dims : List Nat) (data : Array T) :
    ofArray dims data = .error (overflow dims) ↔ ¬Counted dims := by
  unfold ofArray
  by_cases counted : Counted dims
  · rw [elementCount_of_counted counted]
    dsimp only
    split <;> simp [counted, overflow, Fault.raise]
  · rw [elementCount_of_not_counted counted]
    simp [counted]

private theorem ofArray_eq_ok_iff {dims : List Nat} {data : Array T} {tensor : Tensor T} :
    ofArray dims data = .ok tensor ↔
      Counted dims ∧ data.size = dims.prod ∧ tensor = ⟨dims, data⟩ := by
  unfold ofArray
  by_cases counted : Counted dims
  · rw [elementCount_of_counted counted]
    dsimp only
    split <;> simp_all [Fault.raise, eq_comm]
  · rw [elementCount_of_not_counted counted]
    simp [counted]

/-! ## Other orders -/

private theorem counted_iff_of_not_mem {dims : List Nat} (none : 0 ∉ dims) :
    Counted dims ↔ dims.prod < Size.limit := by
  rw [Counted, Size.beforeZero_of_not_mem none]

/-- Every order of some dimensions is counted just if those that are not zero multiply to
a size. -/
theorem counted_perm_iff (dims : List Nat) :
    (∀ other : List Nat, other.Perm dims → Counted other) ↔
      (dims.filter fun size => size != 0).prod < Size.limit := by
  constructor
  · intro counted
    have last := counted _ (List.filter_append_perm (fun size => size != 0) dims)
    rwa [Counted, Size.beforeZero_zeros_last] at last
  · intro below other reordered
    refine (Size.prod_beforeZero_le other).trans_lt ?_
    rwa [(reordered.filter _).prod_eq]

/-- Orders that are both counted, or both not, are accepted alike. -/
theorem acceptedSize_of_perm
    [Element T F]
    (memory : Memory)
    (data : Array T)
    {dims other : List Nat}
    (reordered : other.Perm dims)
    (alike : Counted other ↔ Counted dims) :
    acceptedSize (T := T) (zeros memory other) = acceptedSize (T := T) (zeros memory dims) ∧
      acceptedSize (ofArray other data) = acceptedSize (ofArray dims data) := by
  by_cases counted : Counted dims
  · have otherCounted := alike.2 counted
    rw [zeros_of_counted memory counted, zeros_of_counted memory otherCounted, ofArray, ofArray,
      elementCount_of_counted counted, elementCount_of_counted otherCounted, reordered.prod_eq]
    constructor
    · cases memory.zeroed T dims.prod 1 <;> rfl
    · dsimp only
      split <;> rfl
  · have uncounted : ¬Counted other := fun other => counted (alike.1 other)
    rw [(zeros_eq_overflow_iff memory dims).2 counted,
      (zeros_eq_overflow_iff memory other).2 uncounted,
      (ofArray_eq_overflow_iff dims data).2 counted,
      (ofArray_eq_overflow_iff other data).2 uncounted]
    exact ⟨rfl, rfl⟩

/-! ## What is refused -/

/-- **Refused dimensions.** Dimensions are refused as too large just if the product of
those before the first zero is not a size. That is the product of all, unless there is a
zero, with which it may be any. A tensor that is accepted has as many values as the product
of all dimensions. Another order changes this only with a zero among the dimensions: each
order is counted if those that are not zero multiply to a size. -/
theorem refused_dimensions
    [Element T F]
    (memory : Memory)
    (data : Array T)
    (dims : List Nat) :
    ((zeros memory dims : Except Error (Tensor T)) = .error (overflow dims) ↔ ¬Counted dims) ∧
      (ofArray dims data = .error (overflow dims) ↔ ¬Counted dims) ∧
      ((¬Counted dims ↔ Size.limit ≤ dims.prod) ↔ (0 ∈ dims → Counted dims)) ∧
      (∀ tensor : Tensor T, zeros memory dims = .ok tensor →
        tensor.dims = dims ∧ tensor.size = dims.prod) ∧
      (∀ tensor, ofArray dims data = .ok tensor ↔
        Counted dims ∧ data.size = dims.prod ∧ tensor = ⟨dims, data⟩) ∧
      (∀ other : List Nat, other.Perm dims →
        (0 ∉ dims → (Counted other ↔ Counted dims)) ∧
          ((Counted other ↔ Counted dims) →
            acceptedSize (T := T) (zeros memory other) = acceptedSize (T := T) (zeros memory dims) ∧
              acceptedSize (ofArray other data) = acceptedSize (ofArray dims data))) ∧
      ((∀ other : List Nat, other.Perm dims → Counted other) ↔
        (dims.filter fun size => size != 0).prod < Size.limit) := by
  refine ⟨zeros_eq_overflow_iff memory dims, ofArray_eq_overflow_iff dims data, ?_,
    fun _ => of_zeros_eq_ok, fun _ => ofArray_eq_ok_iff, fun other reordered => ⟨?_, ?_⟩,
    counted_perm_iff dims⟩
  · by_cases some : 0 ∈ dims
    · have product : dims.prod = 0 := List.prod_eq_zero_iff.2 some
      have small : ¬Size.limit ≤ dims.prod := by
        rw [product]
        decide
      simp [some, small]
    · simp [some, counted_iff_of_not_mem some]
  · intro none
    rw [counted_iff_of_not_mem none, counted_iff_of_not_mem (reordered.mem_iff.not.2 none),
      reordered.prod_eq]
  · exact acceptedSize_of_perm memory data reordered

/-- Behind a zero two large dimensions are not looked at, and the empty tensor is
accepted; with the zero last they would be refused. -/
theorem refused_dimensions_of_early_zero :
    let dims := [Nat.pow 2 32, 0, Nat.pow 2 32]
    let other := [Nat.pow 2 32, Nat.pow 2 32, 0]
    (#[] : Array Float).size = dims.prod ∧ other.Perm dims ∧ Counted dims ∧ ¬Counted other ∧
      ofArray dims (#[] : Array Float) = .ok ⟨dims, #[]⟩ ∧
      (zeros Memory.machine other : Except Error (Tensor Float)) = .error (overflow other) := by
  intro dims other
  have counted : Counted dims := by decide
  have uncounted : ¬Counted other := by decide
  obtain ⟨-, -, -, -, accepted, -, -⟩ := refused_dimensions Memory.machine (#[] : Array Float) dims
  obtain ⟨refused, -⟩ := refused_dimensions Memory.machine (#[] : Array Float) other
  exact ⟨rfl, by decide, counted, uncounted, (accepted _).2 ⟨counted, rfl, rfl⟩,
    refused.2 uncounted⟩

/-- No values fit dimensions that span none, and still they are refused as too many. With
the zero in front the same dimensions are accepted. -/
theorem refused_despite_empty_product :
    let dims := [Nat.pow 2 32, Nat.pow 2 32, 0]
    let other := [0, Nat.pow 2 32, Nat.pow 2 32]
    dims.prod < Size.limit ∧ (#[] : Array Float).size = dims.prod ∧ other.Perm dims ∧
      (zeros Memory.machine dims : Except Error (Tensor Float)) = .error (overflow dims) ∧
      ofArray dims (#[] : Array Float) = .error (overflow dims) ∧
      zeros Memory.machine other = .ok (⟨other, #[]⟩ : Tensor Float) ∧
      ofArray other (#[] : Array Float) = .ok ⟨other, #[]⟩ := by
  refine ⟨by decide, rfl, by decide, ?_, ?_, ?_, ?_⟩
  · exact (zeros_eq_overflow_iff _ _).2 (by decide)
  · exact (ofArray_eq_overflow_iff _ _).2 (by decide)
  · rfl
  · rfl

end Tensor

end Standardize
