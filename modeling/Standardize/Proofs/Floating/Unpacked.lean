import Mathlib.Algebra.Group.Nat.Even

/-!
Contract: floating-point numbers cut into sign, significand and exponent.

Owns:
- numbers that compare equal, which are the same up to the sign of a zero;
- differences of equal numbers, and products with a zero;
- packed patterns, which can be cut and packed again without loss.

Does not own: rounding. Of the results here none was rounded.
-/

set_option autoImplicit false

namespace Standardize.Unpacked

open Float.Model Float.Model.UnpackedFloat

/-! ## Equal numbers -/

@[simp]
theorem isNaN_notANumber : UnpackedFloat.notANumber.isNaN = true :=
  rfl

@[simp]
theorem isNaN_infinity (sign : Sign) : (UnpackedFloat.infinity sign).isNaN = false :=
  rfl

@[simp]
theorem isNaN_zero (sign : Sign) : (UnpackedFloat.zero sign).isNaN = false :=
  rfl

@[simp]
theorem isNaN_finite
    (sign : Sign)
    {significand : Nat}
    (exponent : Int)
    (positive : 0 < significand) :
    (UnpackedFloat.finite sign significand exponent positive).isNaN = false :=
  rfl

private theorem compare_self {number : UnpackedFloat} (isNumber : number.isNaN = false) :
    number.compare number = some .eq := by
  cases number with
  | notANumber => cases isNumber
  | infinity sign => cases sign <;> rfl
  | zero sign => rfl
  | finite sign significand exponent positive =>
      have same : (compare exponent exponent).then (compare significand significand) = .eq := by
        rw [Std.compare_self, Std.compare_self]
        rfl
      cases sign with
      | positive => exact congrArg some same
      | negative => exact congrArg (fun order => some order.swap) same

private theorem finite_eq_of_compare
    {significand otherSignificand : Nat}
    {exponent otherExponent : Int}
    {positive : 0 < significand}
    {otherPositive : 0 < otherSignificand}
    (sign : Sign)
    (same : (compare exponent otherExponent).then (compare significand otherSignificand) = .eq) :
    UnpackedFloat.finite sign significand exponent positive =
      .finite sign otherSignificand otherExponent otherPositive := by
  obtain ⟨exponentEq, significandEq⟩ := Ordering.then_eq_eq.1 same
  cases Std.compare_eq_iff_eq.1 exponentEq
  cases Std.compare_eq_iff_eq.1 significandEq
  rfl

/-- **Equal numbers are the same**, unless they are zeros, whose signs do not count.
What is not a number equals nothing. -/
theorem compare_eq_iff {left right : UnpackedFloat} :
    left.compare right = some .eq ↔
      (left = right ∧ left.isNaN = false) ∨
        ∃ leftSign rightSign, left = .zero leftSign ∧ right = .zero rightSign := by
  constructor
  · intro same
    cases left with
    | notANumber => cases same
    | infinity sign =>
        cases right with
        | infinity other =>
            cases sign <;> cases other <;> first | exact .inl ⟨rfl, rfl⟩ | cases same
        | _ => cases sign <;> cases same
    | zero sign =>
        cases right with
        | zero other => exact .inr ⟨sign, other, rfl, rfl⟩
        | notANumber => cases same
        | infinity other => cases other <;> cases same
        | finite other => cases other <;> cases same
    | finite sign significand exponent positive =>
        cases right with
        | finite other =>
            cases sign <;> cases other
            · exact .inl ⟨finite_eq_of_compare .negative
                (Ordering.swap_inj.1 (Option.some.inj same)), rfl⟩
            · cases same
            · cases same
            · exact .inl ⟨finite_eq_of_compare .positive (Option.some.inj same), rfl⟩
        | infinity other => cases sign <;> cases other <;> cases same
        | _ => cases sign <;> cases same
  · rintro (⟨rfl, isNumber⟩ | ⟨leftSign, rightSign, rfl, rfl⟩)
    · exact compare_self isNumber
    · rfl

theorem beq_iff {left right : UnpackedFloat} :
    left.beq right = true ↔
      (left = right ∧ left.isNaN = false) ∨
        ∃ leftSign rightSign, left = .zero leftSign ∧ right = .zero rightSign := by
  rw [← compare_eq_iff]
  exact beq_iff_eq

theorem isNaN_iff {number : UnpackedFloat} : number.isNaN = true ↔ number = .notANumber := by
  cases number <;> simp [↓isNaN_finite, ↓reduceCtorEq]

theorem beq_notANumber (right : UnpackedFloat) : UnpackedFloat.notANumber.beq right = false := by
  cases right <;> rfl

theorem beq_zero_iff {number : UnpackedFloat} {sign : Sign} :
    number.beq (.zero sign) = true ↔ ∃ other, number = .zero other := by
  rw [beq_iff]
  constructor
  · rintro (⟨rfl, -⟩ | ⟨other, -, rfl, -⟩)
    · exact ⟨sign, rfl⟩
    · exact ⟨other, rfl⟩
  · rintro ⟨other, rfl⟩
    exact .inr ⟨other, sign, rfl, rfl⟩

/-- Numbers that equal one number are equal. -/
theorem beq_of_beq_of_beq
    {left right number : UnpackedFloat}
    (leftEq : left.beq number = true)
    (rightEq : right.beq number = true) :
    left.beq right = true := by
  rw [beq_iff] at leftEq rightEq ⊢
  rcases leftEq with ⟨rfl, isNumber⟩ | ⟨leftSign, sign, rfl, rfl⟩
  · rcases rightEq with ⟨rfl, -⟩ | ⟨rightSign, sign, rfl, rfl⟩
    · exact .inl ⟨rfl, isNumber⟩
    · exact .inr ⟨sign, rightSign, rfl, rfl⟩
  · rcases rightEq with ⟨rfl, -⟩ | ⟨rightSign, -, rfl, -⟩
    · exact .inr ⟨leftSign, sign, rfl, rfl⟩
    · exact .inr ⟨leftSign, rightSign, rfl, rfl⟩

theorem isNaN_of_beq
    {left right : UnpackedFloat}
    (same : left.beq right = true) :
    left.isNaN = false := by
  rcases beq_iff.1 same with ⟨-, isNumber⟩ | ⟨sign, -, rfl, -⟩
  · exact isNumber
  · rfl

theorem beq_self {number : UnpackedFloat} (finite : number.isFinite = true) :
    number.beq number = true := by
  apply beq_iff.2
  left
  cases number with
  | notANumber => cases finite
  | infinity sign => cases finite
  | zero sign => exact ⟨rfl, rfl⟩
  | finite sign significand exponent positive => exact ⟨rfl, rfl⟩

/-! ## Zeros -/

theorem sub_self (format : Format) {number : UnpackedFloat} (finite : number.isFinite = true) :
    number.sub format number = .zero .positive := by
  cases number with
  | notANumber => cases finite
  | infinity sign => cases finite
  | zero sign => cases sign <;> rfl
  | finite sign significand exponent positive =>
      change UnpackedFloat.normalize format (_ - _) _ .positive = _
      rw [Int.sub_self]
      rfl

theorem sub_zeros (format : Format) (left right : Sign) :
    ∃ sign, UnpackedFloat.sub format (.zero left) (.zero right) = .zero sign := by
  cases left <;> cases right <;> exact ⟨_, rfl⟩

/-- **Equal finite numbers cancel**, to a zero of some sign. -/
theorem sub_of_beq
    (format : Format)
    {left right : UnpackedFloat}
    (finite : left.isFinite = true)
    (same : left.beq right = true) :
    ∃ sign, left.sub format right = .zero sign := by
  rcases beq_iff.1 same with ⟨rfl, -⟩ | ⟨leftSign, rightSign, rfl, rfl⟩
  · exact ⟨.positive, sub_self format finite⟩
  · exact sub_zeros format leftSign rightSign

/-- **What zero makes of a number.** A finite number becomes a zero, and what is
infinite or not a number becomes what is not a number. -/
theorem mul_zero (format : Format) (number : UnpackedFloat) (sign : Sign) :
    (number.isFinite = true ∧ ∃ other, number.mul format (.zero sign) = .zero other) ∨
      (number.isFinite = false ∧ number.mul format (.zero sign) = .notANumber) := by
  cases number with
  | notANumber => exact .inr ⟨rfl, rfl⟩
  | infinity other => exact .inr ⟨rfl, rfl⟩
  | zero other => exact .inl ⟨rfl, _, rfl⟩
  | finite other significand exponent positive => exact .inl ⟨rfl, _, rfl⟩

/-! ## Packed patterns -/

private theorem toBitVec_ofBitVec (bit : BitVec 1) : (Sign.ofBitVec bit).toBitVec = bit := by
  revert bit
  decide

variable {format : Format}

theorem toNat_unpackExponent (bits : BitVec format.numBits) :
    (unpackExponent bits).toNat =
      bits.toNat / 2 ^ format.mantissaBitsWithoutImplicit % 2 ^ format.exponentBits := by
  have exponentSome := format.he
  unfold unpackExponent
  rw [BitVec.toNat_cast, BitVec.extractLsb_toNat, Nat.shiftRight_eq_div_pow]
  congr 2
  omega

theorem toNat_unpackMantissa (bits : BitVec format.numBits) :
    (unpackMantissa bits).toNat = bits.toNat % 2 ^ format.mantissaBitsWithoutImplicit := by
  have fractionSome := format.hm
  unfold unpackMantissa
  rw [BitVec.toNat_cast, BitVec.extractLsb_toNat, Nat.shiftRight_zero]
  congr 2
  omega

theorem toNat_unpackSign (bits : BitVec format.numBits) :
    (unpackSign bits).toNat =
      bits.toNat / 2 ^ (format.mantissaBitsWithoutImplicit + format.exponentBits) % 2 := by
  change ((bits.extractLsb _ _).cast _).toNat = _
  rw [BitVec.toNat_cast, BitVec.extractLsb_toNat, Nat.shiftRight_eq_div_pow]
  congr 1
  simp

/-- A pattern is its sign, its exponent and its fraction. -/
theorem packComponents_unpack (bits : BitVec format.numBits) :
    packComponents format (Sign.ofBitVec (unpackSign bits)) (unpackExponent bits)
      (unpackMantissa bits) = bits := by
  have bitsLt : bits.toNat <
      2 * (2 ^ format.mantissaBitsWithoutImplicit * 2 ^ format.exponentBits) := by
    rw [← Nat.pow_add, ← Nat.pow_succ', show (format.mantissaBitsWithoutImplicit +
      format.exponentBits).succ = format.numBits by unfold Format.numBits; omega]
    exact bits.isLt
  have signLt :
      bits.toNat / 2 ^ format.mantissaBitsWithoutImplicit / 2 ^ format.exponentBits < 2 := by
    rw [Nat.div_div_eq_div_mul]
    exact Nat.div_lt_of_lt_mul (by rwa [Nat.mul_comm] at bitsLt)
  unfold packComponents
  rw [toBitVec_ofBitVec]
  apply BitVec.eq_of_toNat_eq
  rw [BitVec.toNat_append, BitVec.toNat_append, ← Nat.shiftLeft_add_eq_or_of_lt (BitVec.isLt _),
    ← Nat.shiftLeft_add_eq_or_of_lt (BitVec.isLt _), Nat.shiftLeft_eq, Nat.shiftLeft_eq,
    toNat_unpackSign, toNat_unpackExponent, toNat_unpackMantissa, Nat.pow_add,
    ← Nat.div_div_eq_div_mul, Nat.mod_eq_of_lt signLt, Nat.div_add_mod', Nat.div_add_mod']

/-- The leading one of a number above the subnormal range stands before its
fraction. -/
theorem toNat_leading {width : Nat} (fraction : BitVec width) :
    (1#1 ++ fraction).toNat = 2 ^ width + fraction.toNat := by
  rw [BitVec.toNat_append, ← Nat.shiftLeft_add_eq_or_of_lt fraction.isLt, Nat.shiftLeft_eq]
  simp

private theorem log2_leading {width : Nat} (fraction : BitVec width) :
    (1#1 ++ fraction).toNat.log2 = width := by
  have fractionLt := fraction.isLt
  have leading := toNat_leading fraction
  apply (Nat.log2_eq_iff (by omega)).2
  rw [leading, Nat.pow_succ]
  omega

/-- Below the highest exponent there is room for one more. -/
theorem toNat_lt_of_ne_allOnes {width : Nat} {exponent : BitVec width} (below : exponent ≠ -1#_) :
    exponent.toNat + 1 < 2 ^ width := by
  have exponentLt := exponent.isLt
  have notHighest : exponent.toNat ≠ 2 ^ width - 1 := by
    intro highest
    apply below
    apply BitVec.eq_of_toNat_eq
    rw [BitVec.neg_one_eq_allOnes, BitVec.toNat_allOnes, highest]
  omega

/-- Above the subnormal range the leading one is left out and the exponent is stored
as it was. -/
private theorem pack_normal
    (sign : Sign)
    (exponent : BitVec format.exponentBits)
    (fraction : BitVec format.mantissaBitsWithoutImplicit)
    (finite : exponent.toNat + 1 < 2 ^ format.exponentBits)
    (positive : 0 < (1#1 ++ fraction).toNat) :
    UnpackedFloat.pack format
        (.finite sign (1#1 ++ fraction).toNat
          (exponent.toNat - (format.exponentBias + format.mantissaBitsWithoutImplicit)) positive) =
      packComponents format sign exponent fraction := by
  have biased : ((exponent.toNat : Int) -
      (format.exponentBias + format.mantissaBitsWithoutImplicit) + format.exponentBias +
        format.mantissaBitsWithoutImplicit).toNat = exponent.toNat := by
    omega
  have whole : (1#1 ++ fraction).toNat.log2 + 1 = format.mantissaBits := by
    rw [log2_leading]
    exact Nat.add_comm _ _
  have withoutLeading :
      BitVec.ofNat format.mantissaBitsWithoutImplicit (1#1 ++ fraction).toNat = fraction := by
    apply BitVec.eq_of_toNat_eq
    rw [BitVec.toNat_ofNat, toNat_leading, Nat.add_mod_left, Nat.mod_eq_of_lt fraction.isLt]
  unfold UnpackedFloat.pack
  simp only [biased]
  rw [if_neg (by omega), if_pos whole, withoutLeading, BitVec.ofNat_toNat, BitVec.setWidth_eq]

/-- A subnormal number is cut as if its exponent were one, and told from a normal one
by its significand, which is too short. With a single bit of exponent one would be
the highest exponent. -/
theorem pack_subnormal
    (wide : 1 < format.exponentBits)
    (sign : Sign)
    (fraction : BitVec format.mantissaBitsWithoutImplicit)
    (positive : 0 < fraction.toNat) :
    UnpackedFloat.pack format
        (.finite sign fraction.toNat
          ((0 : Nat) - (format.exponentBias + format.mantissaBitsWithoutImplicit) + 1) positive) =
      packComponents format sign 0#_ fraction := by
  have biased : (((0 : Nat) : Int) -
      (format.exponentBias + format.mantissaBitsWithoutImplicit) + 1 + format.exponentBias +
        format.mantissaBitsWithoutImplicit).toNat = 1 := by
    omega
  have room : 2 ^ 2 ≤ 2 ^ format.exponentBits := Nat.pow_le_pow_right (by decide) wide
  have short : ¬fraction.toNat.log2 + 1 = format.mantissaBits := by
    have logLt : fraction.toNat.log2 < format.mantissaBitsWithoutImplicit :=
      (Nat.log2_lt (by omega)).2 fraction.isLt
    unfold Format.mantissaBits
    omega
  unfold UnpackedFloat.pack
  simp only [biased]
  rw [if_neg (by omega), if_neg short, BitVec.ofNat_toNat, BitVec.setWidth_eq]

/-- **Nothing is lost** when a pattern is cut and packed again. Numbers have one
pattern each; a valid pattern of what is not a number is the only one. -/
theorem pack_unpack
    (wide : 1 < format.exponentBits)
    {bits : BitVec format.numBits}
    (valid : format.Valid bits) :
    UnpackedFloat.pack format (UnpackedFloat.unpack format bits) = bits := by
  have parts := packComponents_unpack bits
  unfold UnpackedFloat.unpack
  dsimp only
  by_cases special : unpackExponent bits = -1#_
  · rw [if_pos special]
    by_cases infinite : unpackMantissa bits = 0#_
    · rw [if_pos infinite]
      rw [special, infinite] at parts
      exact parts
    · rw [if_neg infinite]
      exact (valid.eq_packedNaN special infinite).symm
  · rw [if_neg special]
    by_cases lowest : unpackExponent bits = 0#_
    · rw [if_pos lowest]
      by_cases zero : unpackMantissa bits = 0#_
      · rw [dif_pos zero]
        rw [lowest, zero] at parts
        exact parts
      · rw [dif_neg zero]
        rw [lowest] at parts ⊢
        exact (pack_subnormal wide _ _ _).trans parts
    · rw [if_neg lowest]
      exact (pack_normal _ _ _ (toNat_lt_of_ne_allOnes special) _).trans parts

theorem ofBitVec_toBitVec (sign : Sign) : Sign.ofBitVec sign.toBitVec = sign := by
  cases sign <;> rfl

theorem unpackSign_packComponents
    (sign : Sign)
    (exponent : BitVec format.exponentBits)
    (fraction : BitVec format.mantissaBitsWithoutImplicit) :
    unpackSign (packComponents format sign exponent fraction) = sign.toBitVec := by
  have below : exponent.toNat < 2 ^ format.exponentBits := exponent.isLt
  have signLt : sign.toBitVec.toNat < 2 := sign.toBitVec.isLt
  apply BitVec.eq_of_toNat_eq
  rw [toNat_unpackSign]
  unfold packComponents
  rw [BitVec.toNat_append, BitVec.toNat_append, ← Nat.shiftLeft_add_eq_or_of_lt fraction.isLt,
    ← Nat.shiftLeft_add_eq_or_of_lt below, Nat.shiftLeft_eq, Nat.shiftLeft_eq, Nat.pow_add,
    ← Nat.div_div_eq_div_mul, Nat.mul_comm, Nat.mul_add_div (Nat.two_pow_pos _),
    Nat.div_eq_of_lt fraction.isLt, Nat.add_zero, Nat.mul_comm,
    Nat.mul_add_div (Nat.two_pow_pos _), Nat.div_eq_of_lt below, Nat.add_zero,
    Nat.mod_eq_of_lt signLt]

/-- The number that the parts of a pattern stand for. -/
def ofParts
    (sign : Sign)
    (exponent : BitVec format.exponentBits)
    (fraction : BitVec format.mantissaBitsWithoutImplicit) :
    UnpackedFloat :=
  if exponent = -1#_ then
    if fraction = 0#_ then .infinity sign else .notANumber
  else if exponent = 0#_ then
    if none : fraction = 0#_ then .zero sign
    else
      .finite sign fraction.toNat
        (exponent.toNat - (format.exponentBias + format.mantissaBitsWithoutImplicit) + 1)
        (BitVec.toNat_pos_of_ne_zero none)
  else
    .finite sign (1#1 ++ fraction).toNat
      (exponent.toNat - (format.exponentBias + format.mantissaBitsWithoutImplicit))
      (toNat_leading fraction ▸ Nat.add_pos_left (Nat.two_pow_pos _) _)

/-- A pattern that was packed from parts is cut into them. -/
theorem unpack_packComponents
    (sign : Sign)
    (exponent : BitVec format.exponentBits)
    (fraction : BitVec format.mantissaBitsWithoutImplicit) :
    UnpackedFloat.unpack format (packComponents format sign exponent fraction) =
      ofParts sign exponent fraction := by
  change ofParts (Sign.ofBitVec (unpackSign _)) (unpackExponent _) (unpackMantissa _) = _
  rw [unpackExponent_packComponents, unpackMantissa_packComponents, unpackSign_packComponents,
    ofBitVec_toBitVec]

/-- Between the lowest and the highest exponent, a leading one is put before the
fraction. -/
private theorem unpack_normal
    (sign : Sign)
    {exponent : BitVec format.exponentBits}
    (fraction : BitVec format.mantissaBitsWithoutImplicit)
    (finite : exponent ≠ -1#_)
    (normal : exponent ≠ 0#_)
    (positive : 0 < (1#1 ++ fraction).toNat) :
    UnpackedFloat.unpack format (packComponents format sign exponent fraction) =
      .finite sign (1#1 ++ fraction).toNat
        (exponent.toNat - (format.exponentBias + format.mantissaBitsWithoutImplicit)) positive := by
  rw [unpack_packComponents]
  unfold ofParts
  rw [if_neg finite, if_neg normal]

theorem unpack_pack_normal
    (sign : Sign)
    {exponent : BitVec format.exponentBits}
    (fraction : BitVec format.mantissaBitsWithoutImplicit)
    (finite : exponent ≠ -1#_)
    (normal : exponent ≠ 0#_)
    (positive : 0 < (1#1 ++ fraction).toNat) :
    UnpackedFloat.unpack format (UnpackedFloat.pack format
        (.finite sign (1#1 ++ fraction).toNat
          (exponent.toNat - (format.exponentBias + format.mantissaBitsWithoutImplicit))
            positive)) =
      .finite sign (1#1 ++ fraction).toNat
        (exponent.toNat - (format.exponentBias + format.mantissaBitsWithoutImplicit)) positive := by
  rw [pack_normal sign exponent fraction (toNat_lt_of_ne_allOnes finite) positive,
    unpack_normal sign fraction finite normal positive]

/-! ## Finite patterns -/

/-- A pattern is a finite number unless its exponent is the highest. -/
theorem isFinite_unpack_iff_ne {bits : BitVec format.numBits} :
    (UnpackedFloat.unpack format bits).isFinite = true ↔ unpackExponent bits ≠ -1#_ := by
  unfold UnpackedFloat.unpack
  dsimp only
  by_cases special : unpackExponent bits = -1#_
  · rw [if_pos special]
    apply iff_of_false _ (not_not.2 special)
    by_cases infinite : unpackMantissa bits = 0#_
    · rw [if_pos infinite]
      exact Bool.false_ne_true
    · rw [if_neg infinite]
      exact Bool.false_ne_true
  · rw [if_neg special]
    apply iff_of_true _ special
    by_cases lowest : unpackExponent bits = 0#_
    · rw [if_pos lowest]
      by_cases zero : unpackMantissa bits = 0#_
      · rw [dif_pos zero]
        rfl
      · rw [dif_neg zero]
        rfl
    · rw [if_neg lowest]
      rfl

/-- A pattern of a finite number is the only one of its number. -/
theorem valid_of_isFinite
    {bits : BitVec format.numBits}
    (finite : (UnpackedFloat.unpack format bits).isFinite = true) :
    format.Valid bits :=
  ⟨fun special _ => absurd special (isFinite_unpack_iff_ne.1 finite)⟩

/-- The exponent stands above the fraction and below the sign. -/
theorem isFinite_unpack_iff {bits : BitVec format.numBits} :
    (UnpackedFloat.unpack format bits).isFinite = true ↔
      bits.toNat / 2 ^ format.mantissaBitsWithoutImplicit % 2 ^ format.exponentBits + 1 <
        2 ^ format.exponentBits := by
  rw [isFinite_unpack_iff_ne, ← toNat_unpackExponent]
  refine ⟨toNat_lt_of_ne_allOnes, fun below special => ?_⟩
  rw [special, BitVec.neg_one_eq_allOnes, BitVec.toNat_allOnes] at below
  omega

end Standardize.Unpacked
