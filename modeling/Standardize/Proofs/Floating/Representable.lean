import Mathlib.Tactic.Linarith
import Standardize.Proofs.Floating.Nearest

/-!
Contract: rounding as the choice of a nearest number.

Owns:
- `Representable`, the numbers of 53 digits above the lowest place;
- `Rounds`, by which no representable number is nearer to an exact one, and none is crossed;
- `Locates`, by which the bits behind a significand tell where an exact number is, and the
  significand that is made of them, which is off by half a unit at most.

Does not own: which of two nearest numbers is chosen, and where a rounded number is stored.
-/

set_option autoImplicit false

namespace Standardize

/-! ## Representable numbers -/

/-- A number of at most 53 digits, none of them below the lowest place. -/
def Representable (number : ℚ) : Prop :=
  ∃ digits place : ℤ, |digits| ≤ 2 ^ 53 ∧ -1074 ≤ place ∧ number = digits * 2 ^ place

/-- A representable number, and none is nearer to the exact one. -/
structure Rounds (exact rounded : ℚ) : Prop where
  representable : Representable rounded
  nearest : ∀ other, Representable other → |rounded - exact| ≤ |other - exact|

theorem representable_zero : Representable 0 :=
  ⟨0, 0, by decide, by decide, by simp⟩

theorem representable_natCast {number : Nat} (short : number ≤ 2 ^ 53) :
    Representable (number : ℚ) :=
  ⟨number, 0, by rw [Nat.abs_cast]; exact_mod_cast short, by decide, by simp⟩

theorem Representable.neg {number : ℚ} (representable : Representable number) :
    Representable (-number) := by
  obtain ⟨digits, place, short, lowest, rfl⟩ := representable
  exact ⟨-digits, place, by rwa [abs_neg], lowest, by push_cast; ring⟩

/-- Few digits at a place that is not too low. -/
theorem representable_mul_two_zpow
    {digits : Nat}
    {place : ℤ}
    (short : digits ≤ 2 ^ 53)
    (lowest : -1074 ≤ place) :
    Representable (digits * 2 ^ place) :=
  ⟨digits, place, by rw [Nat.abs_cast]; exact_mod_cast short, lowest, by simp⟩

theorem representable_two_zpow {place : ℤ} (lowest : -1074 ≤ place) :
    Representable (2 ^ place) := by
  have one := representable_mul_two_zpow (Nat.one_le_two_pow : 1 ≤ 2 ^ 53) lowest
  rwa [Nat.cast_one, one_mul] at one

namespace Rounds

variable {exact rounded bound : ℚ}

theorem of_representable (representable : Representable exact) : Rounds exact exact :=
  ⟨representable, fun other _ => by rw [sub_self, abs_zero]; exact abs_nonneg _⟩

theorem neg (rounds : Rounds exact rounded) : Rounds (-exact) (-rounded) := by
  refine ⟨rounds.representable.neg, fun other representable => ?_⟩
  have nearest := rounds.nearest (-other) representable.neg
  calc |-rounded - -exact|
      = |rounded - exact| := by rw [neg_sub_neg, abs_sub_comm]
    _ ≤ |-other - exact| := nearest
    _ = |other - -exact| := by rw [← abs_neg, neg_sub, sub_neg_eq_add, sub_neg_eq_add, add_comm]

/-- Rounding does not cross a representable number. -/
theorem le
    (rounds : Rounds exact rounded)
    (representable : Representable bound)
    (below : exact ≤ bound) :
    rounded ≤ bound := by
  by_contra above
  rw [not_le] at above
  have nearest := rounds.nearest bound representable
  rw [abs_of_nonneg (by linarith), abs_of_nonneg (by linarith)] at nearest
  linarith

theorem ge
    (rounds : Rounds exact rounded)
    (representable : Representable bound)
    (above : bound ≤ exact) :
    bound ≤ rounded := by
  have negated := rounds.neg.le representable.neg (neg_le_neg above)
  exact neg_le_neg_iff.1 negated

theorem within
    (rounds : Rounds exact rounded)
    (representable : Representable bound)
    (near : |exact| ≤ bound) :
    |rounded| ≤ bound := by
  obtain ⟨lower, upper⟩ := abs_le.1 near
  exact abs_le.2
    ⟨rounds.ge representable.neg lower, rounds.le representable upper⟩

theorem outside
    (rounds : Rounds exact rounded)
    (representable : Representable bound)
    (far : bound ≤ |exact|) :
    bound ≤ |rounded| := by
  rcases le_abs.1 far with above | below
  · exact (rounds.ge representable above).trans (le_abs_self _)
  · exact (rounds.neg.ge representable below).trans (neg_le_abs _)

/-- A representable number is at most twice as far from the rounded number as from the exact
one. -/
theorem distance_le
    (rounds : Rounds exact rounded)
    {other : ℚ}
    (representable : Representable other) :
    |rounded - other| ≤ 2 * |exact - other| := by
  have nearest := rounds.nearest other representable
  calc |rounded - other|
      ≤ |rounded - exact| + |exact - other| := abs_sub_le _ _ _
    _ ≤ |other - exact| + |exact - other| := by gcongr
    _ = 2 * |exact - other| := by rw [abs_sub_comm other exact]; ring

end Rounds

/-- **Nearest on its own grid, nearest at all.** Numbers at lower places are those below the
leading digit, and none of them is nearer than it. -/
theorem rounds_of_half
    {digits : Nat}
    {place : ℤ}
    {exact : ℚ}
    (short : digits ≤ 2 ^ 53)
    (lowest : -1074 ≤ place)
    (half : |digits * 2 ^ place - exact| ≤ 2 ^ place / 2)
    (leading : place = -1074 ∨ 2 ^ 52 * 2 ^ place ≤ exact) :
    Rounds exact (digits * 2 ^ place) := by
  have unit : (0 : ℚ) < 2 ^ place := by positivity
  have onGrid (multiple : ℤ) :
      |digits * 2 ^ place - exact| ≤ |multiple * 2 ^ place - exact| := by
    by_cases same : multiple = digits
    · rw [same, Int.cast_natCast]
    · -- Two places of the grid are a unit apart, of which the rounded number takes half at most.
      have apart : (1 : ℚ) ≤ |(multiple : ℚ) - digits| := by
        exact_mod_cast Int.one_le_abs (sub_ne_zero.2 same)
      have distance : (2 : ℚ) ^ place ≤ |(multiple : ℚ) * 2 ^ place - digits * 2 ^ place| := by
        rw [← sub_mul, abs_mul, abs_of_pos unit]
        exact le_mul_of_one_le_left unit.le apart
      have triangle := abs_sub_le ((multiple : ℚ) * 2 ^ place) exact (digits * 2 ^ place)
      rw [abs_sub_comm exact] at triangle
      linarith
  refine ⟨representable_mul_two_zpow short lowest, ?_⟩
  rintro - ⟨multiple, other, otherShort, otherLowest, rfl⟩
  by_cases higher : place ≤ other
  · obtain ⟨shift, rfl⟩ : ∃ shift : Nat, other = place + shift :=
      ⟨(other - place).toNat, by omega⟩
    have nearest := onGrid (multiple * 2 ^ shift)
    push_cast at nearest
    rwa [zpow_add₀ two_ne_zero, zpow_natCast, mul_comm ((2 : ℚ) ^ place), ← mul_assoc]
  · have leads := leading.resolve_left (by omega)
    have bound : (multiple : ℚ) * 2 ^ other ≤ 2 ^ 52 * 2 ^ place := by
      have few : (multiple : ℚ) ≤ 2 ^ 53 := by
        exact_mod_cast (le_abs_self multiple).trans otherShort
      calc (multiple : ℚ) * 2 ^ other
          ≤ 2 ^ 53 * 2 ^ other := by gcongr
        _ = 2 ^ 52 * 2 ^ (other + 1) := by rw [zpow_add_one₀ two_ne_zero]; ring
        _ ≤ 2 ^ 52 * 2 ^ place := by gcongr <;> [norm_num; omega]
    have nearest := onGrid (2 ^ 52)
    rw [Int.cast_pow, Int.cast_ofNat] at nearest
    generalize (2 : ℚ) ^ 52 * 2 ^ place = least at leads bound nearest
    rw [abs_sub_comm least, abs_of_nonneg (sub_nonneg.2 leads)] at nearest
    calc |(digits : ℚ) * 2 ^ place - exact|
        ≤ exact - least := nearest
      _ ≤ exact - multiple * 2 ^ other := sub_le_sub_left bound exact
      _ ≤ |exact - multiple * 2 ^ other| := le_abs_self _
      _ = |multiple * 2 ^ other - exact| := abs_sub_comm _ _

namespace Unpacked

open Float.Model Float.Model.UnpackedFloat

/-! ## What the bits behind a significand tell -/

/-- The bits behind a significand tell on which side of the middle to the next one a number
is. -/
structure Locates (extended : ExtendedMantissa) (exact : ℚ) : Prop where
  lower : extended.mantissa ≤ exact
  upper : exact < extended.mantissa + 1
  half : extended.roundBit = true ↔ extended.mantissa + 1 / 2 ≤ exact
  rest :
    extended.stickyBit = true ↔
      exact ≠ extended.mantissa ∧ exact ≠ extended.mantissa + 1 / 2

theorem locates_exact (significand : Nat) :
    Locates (ExtendedMantissa.ofMantissaAndAccuracy significand .exact) significand :=
  ⟨le_refl _, lt_add_one _, by simp [ExtendedMantissa.ofMantissaAndAccuracy],
    by simp [ExtendedMantissa.ofMantissaAndAccuracy]⟩

private theorem locates_below
    {significand : Nat}
    {exact : ℚ}
    (above : significand < exact)
    (below : exact < significand + 1 / 2) :
    Locates ⟨significand, false, true⟩ exact :=
  ⟨above.le, by linarith, iff_of_false Bool.false_ne_true below.not_ge,
    iff_of_true rfl ⟨above.ne', below.ne⟩⟩

private theorem locates_middle (significand : Nat) :
    Locates ⟨significand, true, false⟩ (significand + 1 / 2) :=
  ⟨by linarith, by linarith, iff_of_true rfl le_rfl,
    iff_of_false Bool.false_ne_true fun aside => aside.2 rfl⟩

private theorem locates_above
    {significand : Nat}
    {exact : ℚ}
    (above : significand + 1 / 2 < exact)
    (below : exact < significand + 1) :
    Locates ⟨significand, true, true⟩ exact :=
  ⟨by linarith, below, iff_of_true rfl above.le, iff_of_true rfl ⟨by linarith, above.ne'⟩⟩

/-- The remainder of a division tells where the quotient is. -/
theorem locates_quotient (dividend : Nat) {divisor : Nat} (positive : 0 < divisor) :
    Locates
      (ExtendedMantissa.ofMantissaAndAccuracy (dividend / divisor)
        (accuracyOfFraction (dividend % divisor) divisor))
      (dividend / divisor) := by
  have above : (0 : ℚ) < divisor := by exact_mod_cast positive
  have proper : ((dividend % divisor : Nat) : ℚ) / divisor < 1 := by
    rw [div_lt_one above]
    exact_mod_cast Nat.mod_lt dividend positive
  have parts : (dividend : ℚ) / divisor =
      (dividend / divisor : Nat) + (dividend % divisor : Nat) / (divisor : ℚ) := by
    have whole :
        (dividend : ℚ) = divisor * (dividend / divisor : Nat) + (dividend % divisor : Nat) := by
      exact_mod_cast (Nat.div_add_mod dividend divisor).symm
    rw [whole, add_div, mul_div_cancel_left₀ _ above.ne']
  rw [parts]
  generalize dividend % divisor = remainder at *
  generalize dividend / divisor = quotient at *
  unfold accuracyOfFraction
  by_cases none : remainder = 0
  · rw [if_pos none, none, Nat.cast_zero, zero_div, add_zero]
    exact locates_exact quotient
  rw [if_neg none]
  have some : (0 : ℚ) < remainder / divisor :=
    div_pos (by exact_mod_cast Nat.pos_of_ne_zero none) above
  cases order : compare (2 * remainder) divisor with
  | lt =>
      have less : ((2 * remainder : Nat) : ℚ) < divisor := by
        exact_mod_cast Nat.compare_eq_lt.1 order
      have below : (remainder : ℚ) / divisor < 1 / 2 := by
        rw [div_lt_div_iff₀ above two_pos]
        push_cast at less
        linarith
      exact locates_below (by linarith) (by linarith)
  | eq =>
      have same : ((2 * remainder : Nat) : ℚ) = divisor := by
        exact_mod_cast Nat.compare_eq_eq.1 order
      have middle : (remainder : ℚ) / divisor = 1 / 2 := by
        rw [div_eq_div_iff above.ne' two_ne_zero]
        push_cast at same
        linarith
      rw [middle]
      exact locates_middle quotient
  | gt =>
      have more : (divisor : ℚ) < (2 * remainder : Nat) := by
        exact_mod_cast Nat.compare_eq_gt.1 order
      have beyond : (1 : ℚ) / 2 < remainder / divisor := by
        rw [div_lt_div_iff₀ two_pos above]
        push_cast at more
        linarith
      exact locates_above (by linarith) (by linarith)

/-- The bit that is shifted out is the first behind the significand, and those that were behind
it are joined. -/
theorem Locates.shiftRightOne
    {extended : ExtendedMantissa}
    {exact : ℚ}
    (located : Locates extended exact) :
    Locates extended.shiftRightOne (exact / 2) := by
  obtain ⟨significand, roundBit, stickyBit⟩ := extended
  obtain ⟨lower, upper, half, rest⟩ := located
  dsimp only at lower upper half rest
  have behind : (roundBit || stickyBit) = true ↔ exact ≠ significand := by
    rw [Bool.or_eq_true, half, rest]
    constructor
    · rintro (above | ⟨different, -⟩)
      · intro same
        linarith
      · exact different
    · intro different
      by_cases middle : exact = significand + 1 / 2
      · exact .inl middle.ge
      · exact .inr ⟨different, middle⟩
  have parts : (significand : ℚ) = 2 * (significand / 2 : Nat) + (significand % 2 : Nat) := by
    exact_mod_cast (Nat.div_add_mod significand 2).symm
  change Locates ⟨significand / 2, significand % 2 != 0, roundBit || stickyBit⟩ _
  rcases Nat.mod_two_eq_zero_or_one significand with even | odd
  · rw [even, Nat.cast_zero, add_zero] at parts
    rw [even]
    cases joined : roundBit || stickyBit with
    | false =>
        have same : exact = significand := not_not.1 (mt behind.2 (Bool.eq_false_iff.1 joined))
        rw [same, parts, mul_div_cancel_left₀ _ two_ne_zero]
        exact locates_exact _
    | true =>
        have above := lower.lt_of_ne' (behind.1 joined)
        exact locates_below (by linarith) (by linarith)
  · rw [odd, Nat.cast_one] at parts
    rw [odd]
    cases joined : roundBit || stickyBit with
    | false =>
        have same : exact = significand := not_not.1 (mt behind.2 (Bool.eq_false_iff.1 joined))
        rw [same, parts, add_div, mul_div_cancel_left₀ _ two_ne_zero]
        exact locates_middle _
    | true =>
        have above := lower.lt_of_ne' (behind.1 joined)
        exact locates_above (by linarith) (by linarith)

/-- Digits that are dropped are told by the bits behind those that are kept. -/
theorem Locates.shiftRight
    {extended : ExtendedMantissa}
    {exact : ℚ}
    (located : Locates extended exact)
    (count : Nat) :
    Locates (extended >>> count) (exact / 2 ^ count) := by
  induction count with
  | zero =>
      rw [pow_zero, div_one]
      exact located
  | succ count inductionHypothesis =>
      rw [pow_succ, ← div_div]
      exact inductionHypothesis.shiftRightOne

/-- **Rounding is off by half a unit at most.** -/
theorem Locates.half_of_rounded
    {extended : ExtendedMantissa}
    {exact : ℚ}
    (located : Locates extended exact) :
    |(extended.roundedMantissa : ℚ) - exact| ≤ 1 / 2 := by
  obtain ⟨significand, roundBit, stickyBit⟩ := extended
  obtain ⟨lower, upper, half, rest⟩ := located
  cases roundBit with
  | false =>
      have below : exact < significand + 1 / 2 := not_le.1 fun above => nomatch half.2 above
      have kept :
          (ExtendedMantissa.mk significand false stickyBit).roundedMantissa = significand := by
        cases stickyBit <;> rfl
      rw [kept, abs_le]
      constructor <;> linarith
  | true =>
      have above : significand + 1 / 2 ≤ exact := half.1 rfl
      cases stickyBit with
      | true =>
          have next :
              (ExtendedMantissa.mk significand true true).roundedMantissa = significand + 1 := rfl
          rw [next, abs_le]
          push_cast
          constructor <;> linarith
      | false =>
          -- In the middle either neighbour will do.
          have middle : exact = significand + 1 / 2 := by
            by_contra different
            have aside : exact ≠ significand := by
              intro same
              linarith
            cases rest.2 ⟨aside, different⟩
          rcases roundedMantissa_eq_or ⟨significand, true, false⟩ with kept | next
          · rw [kept, middle, abs_le]
            constructor <;> linarith
          · rw [next, middle, abs_le]
            push_cast
            constructor <;> linarith

end Unpacked

end Standardize
