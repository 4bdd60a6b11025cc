import Standardize.Arithmetic

/-!
Contract: what survives the rounding of every operation.

Owns:
- `LawfulArithmetic`, by which numbers that equal one number equal one another,
  the smaller and the larger of them equal it too, and zero is not above zero;
- `LawfulElement`, by which equal finite elements widen to equal numbers that
  cancel, and are stored from them as equal elements, while what is not a number
  is stored as what equals nothing.

Does not own: how many bits there are. Nothing is said of a sum, and nothing of a
product but those of zero with zero and with one.
-/

set_option autoImplicit false

namespace Standardize

/-- Equality of numbers, which a number that is not one has with none. -/
class LawfulArithmetic (F : Type) [Arithmetic F] : Prop where
  eq_of_eq_of_eq :
    ∀ {left right number : F}, Arithmetic.eq left number = true →
      Arithmetic.eq right number = true → Arithmetic.eq left right = true
  isNaN_of_eq :
    ∀ {left right : F}, Arithmetic.eq left right = true → Arithmetic.isNaN left = false
  eq_smaller :
    ∀ {left right number : F}, Arithmetic.eq left number = true →
      Arithmetic.eq right number = true →
        Arithmetic.eq (Arithmetic.smaller left right) number = true
  eq_larger :
    ∀ {left right number : F}, Arithmetic.eq left number = true →
      Arithmetic.eq right number = true → Arithmetic.eq (Arithmetic.larger left right) number = true
  lt_of_eq_zero :
    ∀ {number : F}, Arithmetic.eq number 0 = true → Arithmetic.lt 0 number = false
  zero_eq_zero : Arithmetic.eq (0 : F) 0 = true
  mul_zero_eq_zero :
    ∀ {number : F}, Arithmetic.eq number 0 = true → Arithmetic.eq (number * 0) 0 = true
  mul_one_eq_zero :
    ∀ {number : F}, Arithmetic.eq number 0 = true → Arithmetic.eq (number * 1) 0 = true

theorem lt_zero_zero {F : Type} [Arithmetic F] [LawfulArithmetic F] :
    Arithmetic.lt (0 : F) 0 = false :=
  LawfulArithmetic.lt_of_eq_zero LawfulArithmetic.zero_eq_zero

/-- Elements between the numbers they are read as and the numbers they store. -/
class LawfulElement (T F : Type) [Arithmetic F] [Element T F] : Prop where
  widen_eq_widen :
    ∀ {element finite : T}, Element.isFinite finite = true → Element.eq element finite = true →
      Arithmetic.eq (Element.widen element) (Element.widen finite) = true
  sub_eq_zero :
    ∀ {left right : F} {finite : T}, Element.isFinite finite = true →
      Arithmetic.eq left (Element.widen finite) = true →
        Arithmetic.eq right (Element.widen finite) = true → Arithmetic.eq (left - right) 0 = true
  narrow_eq :
    ∀ {number : F} {finite : T}, Element.isFinite finite = true →
      Arithmetic.eq number (Element.widen finite) = true →
        Element.eq (Element.narrow number) finite = true
  narrow_eq_zero :
    ∀ {number : F}, Arithmetic.eq number 0 = true →
      Element.eq (Element.narrow number : T) Element.zero = true
  narrow_ne :
    ∀ {number : F}, Arithmetic.isNaN number = true → ∀ element : T,
      Element.eq (Element.narrow number) element = false

end Standardize
