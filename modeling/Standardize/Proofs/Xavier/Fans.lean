import Mathlib.Tactic.Linarith
import Mathlib.Tactic.Ring
import Standardize.Arithmetic.Binary32
import Standardize.Proofs.Tensor
import Standardize.Xavier.Layer

/-!
Contract: the fans of a layer whose weights memory has granted.

Owns:
- the bytes of a tensor of zeros, which are no more than the largest buffer takes;
- the fans of dimensions as numbers of any size: their product is the number of weights
  times the receptive field, and their sum is at most the sum of these two;
- the fans of granted dimensions without a zero, none of whose partial products and sums
  leaves the sizes.

Does not own: dimensions with a zero, behind which products may be refused that no
allocation has looked at.
-/

set_option autoImplicit false

namespace Standardize

variable {T F : Type}

/-! ## Granted buffers -/

theorem Memory.bytes_le_of_zeroed
    [Element T F]
    {memory : Memory}
    {rows cols : Nat}
    {buffer : Array T}
    (granted : memory.zeroed T rows cols = .ok buffer) :
    rows * cols * Element.byteSize T ≤ Memory.largestBuffer := by
  by_contra above
  unfold Memory.zeroed Memory.reserve at granted
  cases product : Size.mul? rows cols with
  | none =>
      rw [product] at granted
      cases granted
  | some count =>
      have countEq : count = rows * cols := (Size.fit?_eq_some_iff.1 product).2
      rw [product] at granted
      dsimp only at granted
      rw [if_pos (by rw [countEq]; exact Nat.not_le.1 above)] at granted
      cases granted

theorem Tensor.bytes_le_of_zeros
    [Element T F]
    {memory : Memory}
    {dims : List Nat}
    {tensor : Tensor T}
    (accepted : Tensor.zeros memory dims = .ok tensor) :
    tensor.size * Element.byteSize T ≤ Memory.largestBuffer := by
  unfold Tensor.zeros at accepted
  split at accepted
  · cases accepted
  · split at accepted
    · rename_i data granted
      cases accepted
      change data.size * _ ≤ _
      rw [Memory.size_of_zeroed granted]
      exact Memory.bytes_le_of_zeroed granted
    · cases accepted

/-- Without a zero, a product of sizes is refused just if it is not a size. -/
theorem Size.product?_of_not_mem {sizes : List Nat} (none : 0 ∉ sizes) :
    Size.product? sizes = Size.fit? sizes.prod := by
  rw [Size.product?_eq, Size.beforeZero_of_not_mem none, Size.fit?]
  by_cases below : sizes.prod < Size.limit
  · rw [if_pos below, if_neg (Nat.not_le.2 below)]
  · rw [if_neg below, if_pos (Nat.not_lt.1 below)]

namespace Xavier.DenseShape

/-! ## Fans as numbers -/

/-- The receptive field as a number; one for less than three dimensions. -/
def field (shape : DenseShape) : Nat :=
  (shape.dims.drop 2).prod

def fanIn (shape : DenseShape) : Nat :=
  match shape.dims with
  | [] => 1
  | [_] => 1
  | _ :: inputs :: kernel => inputs * kernel.prod

def fanOut (shape : DenseShape) : Nat :=
  match shape.dims with
  | [] => 1
  | [length] => length
  | outputs :: _ :: kernel => outputs * kernel.prod

/-- Inputs and outputs meet in every weight, and the receptive field is in both fans. -/
theorem fanIn_mul_fanOut (shape : DenseShape) :
    shape.fanIn * shape.fanOut = shape.dims.prod * shape.field := by
  obtain ⟨dims⟩ := shape
  match dims with
  | [] => rfl
  | [length] => simp [fanIn, fanOut, field]
  | outputs :: inputs :: kernel =>
      change inputs * kernel.prod * (outputs * kernel.prod) =
        (outputs :: inputs :: kernel).prod * kernel.prod
      rw [List.prod_cons, List.prod_cons]
      ring

section Positive

variable {shape : DenseShape} (nonzero : 0 ∉ shape.dims)
include nonzero

private theorem field_pos : 0 < shape.field :=
  Size.prod_pos_of_not_mem fun member => nonzero (List.mem_of_mem_drop member)

private theorem field_le : shape.field ≤ shape.dims.prod :=
  Nat.le_of_dvd (Size.prod_pos_of_not_mem nonzero) (List.drop_sublist 2 _).prod_dvd_prod

private theorem fanIn_pos_and_fanOut_pos : 0 < shape.fanIn ∧ 0 < shape.fanOut := by
  have weights : 0 < shape.fanIn * shape.fanOut := by
    rw [fanIn_mul_fanOut]
    exact Nat.mul_pos (Size.prod_pos_of_not_mem nonzero) (field_pos nonzero)
  exact ⟨Nat.pos_of_mul_pos_right weights, Nat.pos_of_mul_pos_left weights⟩

/-- Two positive numbers are together at most one more than their product, and the
receptive field goes into both fans. -/
private theorem fanIn_add_fanOut_le :
    shape.fanIn + shape.fanOut ≤ shape.dims.prod + shape.field := by
  obtain ⟨dims⟩ := shape
  match dims with
  | [] => exact le_refl _
  | [length] => simp [fanIn, fanOut, field, Nat.add_comm]
  | outputs :: inputs :: kernel =>
      have outputsPos : 0 < outputs := Nat.pos_of_ne_zero fun zero => nonzero (by simp [zero])
      have inputsPos : 0 < inputs := Nat.pos_of_ne_zero fun zero => nonzero (by simp [zero])
      have together : inputs + outputs ≤ outputs * inputs + 1 := by nlinarith
      calc
        inputs * kernel.prod + outputs * kernel.prod
          = (inputs + outputs) * kernel.prod := (Nat.add_mul _ _ _).symm
        _ ≤ (outputs * inputs + 1) * kernel.prod := Nat.mul_le_mul_right _ together
        _ = (outputs :: inputs :: kernel).prod + kernel.prod := by
          rw [List.prod_cons, List.prod_cons]
          ring

end Positive

/-! ## Fans as sizes -/

private theorem receptiveField?_eq
    {shape : DenseShape}
    (nonzero : 0 ∉ shape.dims) :
    shape.receptiveField? = Size.fit? shape.field :=
  Size.product?_of_not_mem fun member => nonzero (List.mem_of_mem_drop member)

/-- A fan is refused just if it is not a size: a receptive field that is none is not made
one by channels. -/
private theorem overField?_eq
    {shape : DenseShape}
    (nonzero : 0 ∉ shape.dims)
    {channels : Nat}
    (positive : 0 < channels) :
    shape.overField? channels = Size.fit? (channels * shape.field) := by
  rw [overField?, receptiveField?_eq nonzero]
  cases fits : Size.fit? shape.field with
  | none =>
      have above : Size.limit ≤ shape.field := Size.fit?_eq_none_iff.1 fits
      exact (Size.fit?_eq_none_iff.2 (above.trans (Nat.le_mul_of_pos_left _ positive))).symm
  | some field =>
      rw [(Size.fit?_eq_some_iff.1 fits).2]
      rfl

/-- Without a zero among dimensions that are sizes, a fan is refused just if it is not a
size itself. -/
theorem fans?_eq
    {shape : DenseShape}
    (nonzero : 0 ∉ shape.dims)
    (sizes : ∀ size ∈ shape.dims, size < Size.limit) :
    shape.fanIn? = Size.fit? shape.fanIn ∧ shape.fanOut? = Size.fit? shape.fanOut := by
  obtain ⟨dims⟩ := shape
  match dims with
  | [] => exact ⟨rfl, rfl⟩
  | [length] =>
      have lengthLt : length < Size.limit := sizes length (List.mem_singleton_self length)
      exact ⟨rfl, (Size.fit?_eq_some_iff.2 ⟨lengthLt, rfl⟩).symm⟩
  | outputs :: inputs :: kernel =>
      have outputsPos : 0 < outputs := Nat.pos_of_ne_zero fun zero => nonzero (by simp [zero])
      have inputsPos : 0 < inputs := Nat.pos_of_ne_zero fun zero => nonzero (by simp [zero])
      exact ⟨overField?_eq nonzero inputsPos, overField?_eq nonzero outputsPos⟩

/-! ## Fans of granted weights -/

/-- **Fans of granted weights.** Where memory grants zeros for dimensions none of which is
zero, the receptive field, both fans and their sum are sizes, and so is every partial
product on the way to them: the bound of the layer is there. Both fans are positive, and
they multiply to the number of weights times the receptive field. -/
theorem fans_of_zeros
    [Arithmetic F]
    [Element T F]
    (stored : 0 < Element.byteSize T)
    {memory : Memory}
    {shape : DenseShape}
    {tensor : Tensor T}
    (nonzero : 0 ∉ shape.dims)
    (accepted : Tensor.zeros memory shape.dims = .ok tensor) :
    shape.receptiveField? = some (shape.dims.drop 2).prod ∧
      ∃ fanIn fanOut,
        shape.fanIn? = some fanIn ∧ shape.fanOut? = some fanOut ∧
          (uniformBound? fanIn fanOut : Option F) = some (boundOf (fanIn + fanOut)) ∧
          (layerBound? shape : Option F) = some (boundOf (fanIn + fanOut)) ∧
          1 ≤ fanIn ∧ 1 ≤ fanOut ∧
          fanIn * fanOut = tensor.size * (shape.dims.drop 2).prod := by
  have sizeEq : tensor.size = shape.dims.prod := (Tensor.of_zeros_eq_ok accepted).2
  have granted : shape.dims.prod ≤ Memory.largestBuffer := by
    rw [← sizeEq]
    exact (Nat.le_mul_of_pos_right _ stored).trans (Tensor.bytes_le_of_zeros accepted)
  have room : Memory.largestBuffer + Memory.largestBuffer < Size.limit := by decide
  have fieldLe := field_le nonzero
  have sumLe := fanIn_add_fanOut_le nonzero
  have sumLt : shape.fanIn + shape.fanOut < Size.limit := by omega
  have sizes : ∀ size ∈ shape.dims, size < Size.limit := by
    intro size member
    have sizeLe : size ≤ shape.dims.prod :=
      Nat.le_of_dvd (Size.prod_pos_of_not_mem nonzero) (List.dvd_prod member)
    omega
  obtain ⟨fanInEq, fanOutEq⟩ := fans?_eq nonzero sizes
  obtain ⟨fanInPos, fanOutPos⟩ := fanIn_pos_and_fanOut_pos nonzero
  have fanInFits : shape.fanIn? = some shape.fanIn :=
    fanInEq.trans (Size.fit?_eq_some_iff.2 ⟨by omega, rfl⟩)
  have fanOutFits : shape.fanOut? = some shape.fanOut :=
    fanOutEq.trans (Size.fit?_eq_some_iff.2 ⟨by omega, rfl⟩)
  have fieldFits : shape.receptiveField? = some shape.field :=
    (receptiveField?_eq nonzero).trans (Size.fit?_eq_some_iff.2 ⟨by omega, rfl⟩)
  have bound : (uniformBound? shape.fanIn shape.fanOut : Option F) =
      some (boundOf (shape.fanIn + shape.fanOut)) := by
    rw [uniformBound?, Size.add?_of_lt sumLt]
  refine ⟨fieldFits, shape.fanIn, shape.fanOut, fanInFits, fanOutFits, bound, ?_, fanInPos,
    fanOutPos, ?_⟩
  · have layerFanIn : LayerShape.fanIn? shape = some shape.fanIn := fanInFits
    have layerFanOut : LayerShape.fanOut? shape = some shape.fanOut := fanOutFits
    rw [layerBound?, layerFanIn, layerFanOut]
    exact bound
  · rw [sizeEq]
    exact shape.fanIn_mul_fanOut

/-- Sixteen filters of five by five over three channels, whose weights are narrow, and a
matrix of wide weights that fills the largest buffer up to its last sixteen bytes. -/
theorem fans_of_zeros_of_filters_and_matrix :
    let filters : DenseShape := ⟨[16, 3, 5, 5]⟩
    let matrix : DenseShape := ⟨[Nat.pow 2 59 - 1, 2]⟩
    0 < Element.byteSize Float32 ∧ 0 < Element.byteSize Float ∧
      0 ∉ filters.dims ∧ 0 ∉ matrix.dims ∧
      (∃ tensor : Tensor Float32, Tensor.zeros Memory.machine filters.dims = .ok tensor ∧
        filters.receptiveField? = some 25 ∧ filters.fanIn? = some 75 ∧
        filters.fanOut? = some 400 ∧ 75 * 400 = tensor.size * 25) ∧
      ∃ tensor : Tensor Float, Tensor.zeros Memory.unbounded matrix.dims = .ok tensor ∧
        (layerBound? matrix : Option Float) = some (boundOf (Nat.pow 2 59 + 1)) := by
  intro filters matrix
  have filtersNonzero : 0 ∉ filters.dims := by decide
  have matrixNonzero : 0 ∉ matrix.dims := by decide
  obtain ⟨filterTensor, filtersAccepted⟩ : ∃ tensor : Tensor Float32,
      Tensor.zeros Memory.machine filters.dims = .ok tensor := ⟨_, rfl⟩
  obtain ⟨matrixTensor, matrixAccepted⟩ : ∃ tensor : Tensor Float,
      Tensor.zeros Memory.unbounded matrix.dims = .ok tensor := ⟨_, rfl⟩
  obtain ⟨field, fanIn, fanOut, fanInEq, fanOutEq, -, -, -, -, product⟩ :=
    fans_of_zeros (by decide) filtersNonzero filtersAccepted
  obtain ⟨-, inputs, outputs, inputsEq, outputsEq, -, bound, -⟩ :=
    fans_of_zeros (by decide) matrixNonzero matrixAccepted
  cases fanInEq
  cases fanOutEq
  cases inputsEq
  cases outputsEq
  exact ⟨by decide, by decide, filtersNonzero, matrixNonzero,
    ⟨filterTensor, filtersAccepted, field, rfl, rfl, product⟩,
    matrixTensor, matrixAccepted, bound⟩

/-- With a zero there is no tensor to hold, and the other dimensions may be any. -/
example :
    let shape : DenseShape := ⟨[0, Nat.pow 2 32, Nat.pow 2 32]⟩
    (Tensor.zeros Memory.machine shape.dims).isOk (α := Tensor Float) = true ∧
      shape.fanIn? = none ∧ shape.fanOut? = some 0 :=
  ⟨rfl, rfl, rfl⟩

end Xavier.DenseShape

end Standardize
