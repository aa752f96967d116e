import Mathlib.Tactic.Ring
import PocketCalc.Number.Shortest
import PocketCalc.Proofs.Number.Rounding
import PocketCalc.Proofs.Text.Numeral

/-!
# The number nearest to a decimal fraction

The nearest number depends on the value of a decimal fraction alone: zeros at
the end of its digits may be moved into the exponent.  Its sign is the sign
that was asked for.  A fraction that is nearest to zero stays so with a smaller
exponent.

The exact decimal expansion of a magnitude denotes it, and so does its shortest
decimal, whichever grid that was found on.  The expansion is needed only for
the bounds on the place: it shows that the cut-off at places outside the range
never meets a magnitude.
-/

namespace PocketCalc

namespace Decimal

/-- Zeros at the end of the digits move the exponent and not the place. -/
theorem place_mul_ten_pow
    {digits : Nat}
    (positive : 0 < digits)
    (count : Nat)
    (exponent : Int) :
    place ⟨digits * 10 ^ count, exponent⟩ =
      place ⟨digits, exponent + count⟩ := by
  simp only [place, Text.length_numeral_mul_ten_pow positive]
  omega

end Decimal

namespace Binary64

/-- The quotient that a decimal fraction stands for, counted in quanta. -/
theorem ofDecimal_of_inRange
    {decimal : Decimal}
    (negative : Bool)
    (nonzero : decimal.digits ≠ 0)
    (below : decimal.place < placeAboveRange)
    (above : placeBelowRange < decimal.place) :
    ofDecimal negative decimal =
      ofQuotient negative
        (decimal.digits * quantaPerUnit * 10 ^ decimal.exponent.toNat)
        (10 ^ (-decimal.exponent).toNat) := by
  rw [ofDecimal, if_neg nonzero, if_neg (Int.not_le.mpr below),
    if_neg (Int.not_le.mpr above)]

theorem ofDecimal_zero (negative : Bool) (exponent : Int) :
    ofDecimal negative ⟨0, exponent⟩ = zero negative := by
  simp [ofDecimal]

/--
The powers of ten on both sides of a shifted exponent agree: what the digits
gain, the exponent loses.
-/
theorem ten_pow_shift (count : Nat) (exponent : Int) :
    10 ^ count * 10 ^ exponent.toNat * 10 ^ (-(exponent + count)).toNat =
      10 ^ (exponent + count).toNat * 10 ^ (-exponent).toNat := by
  rw [← Nat.pow_add, ← Nat.pow_add, ← Nat.pow_add]
  congr 1
  omega

/-- Zeros at the end of the digits may be moved into the exponent. -/
theorem ofDecimal_mul_ten_pow
    (negative : Bool)
    (digits count : Nat)
    (exponent : Int) :
    ofDecimal negative ⟨digits * 10 ^ count, exponent⟩ =
      ofDecimal negative ⟨digits, exponent + count⟩ := by
  rcases Nat.eq_zero_or_pos digits with rfl | positive
  · rw [Nat.zero_mul, ofDecimal_zero, ofDecimal_zero]
  · have larger : digits * 10 ^ count ≠ 0 :=
      Nat.ne_of_gt (Nat.mul_pos positive (Nat.pow_pos (by decide)))
    have places := Decimal.place_mul_ten_pow positive count exponent
    simp only [ofDecimal, places, larger, Nat.ne_of_gt positive, if_false]
    split
    · rfl
    · split
      · rfl
      · apply ofQuotient_eq_of_cross negative
          (Nat.pow_pos (by decide)) (Nat.pow_pos (by decide))
        calc
          digits * 10 ^ count * quantaPerUnit * 10 ^ exponent.toNat *
                10 ^ (-(exponent + count)).toNat =
              digits * quantaPerUnit *
                (10 ^ count * 10 ^ exponent.toNat *
                  10 ^ (-(exponent + count)).toNat) := by ring
          _ = digits * quantaPerUnit *
                (10 ^ (exponent + count).toNat *
                  10 ^ (-exponent).toNat) := by rw [ten_pow_shift]
          _ = digits * quantaPerUnit * 10 ^ (exponent + count).toNat *
                10 ^ (-exponent).toNat := by ring

theorem neg_ofDecimal (negative : Bool) (decimal : Decimal) :
    (ofDecimal negative decimal).neg = ofDecimal (!negative) decimal := by
  simp only [ofDecimal]
  split
  · rfl
  · split
    · rfl
    · split
      · rfl
      · exact neg_ofQuotient _ _ _

/-- What a decimal fraction denotes without a sign, it denotes with one. -/
theorem ofDecimal_of_unsigned
    {decimal : Decimal}
    {magnitude : Magnitude}
    (unsigned : ofDecimal false decimal = .finite false magnitude)
    (negative : Bool) :
    ofDecimal negative decimal = .finite negative magnitude := by
  cases negative with
  | false => exact unsigned
  | true =>
      have opposite := neg_ofDecimal false decimal
      rw [unsigned] at opposite
      exact opposite.symm

/-! ## Fractions nearest to zero -/

/-- A fraction is nearest to a number of the given sign. -/
theorem ofDecimal_cases (negative : Bool) (decimal : Decimal) :
    ofDecimal negative decimal = .infinite negative ∨
      ∃ magnitude, ofDecimal negative decimal = .finite negative magnitude := by
  rw [ofDecimal]
  split
  · exact Or.inr ⟨_, rfl⟩
  · split
    · exact Or.inl rfl
    · split
      · exact Or.inr ⟨_, rfl⟩
      · rw [ofQuotient]
        split
        · exact Or.inr ⟨_, rfl⟩
        · exact Or.inl rfl

theorem ofDecimal_ne_nan (negative : Bool) (decimal : Decimal) :
    ofDecimal negative decimal ≠ .nan := by
  rcases ofDecimal_cases negative decimal with value | ⟨magnitude, value⟩
  · rw [value]
    nofun
  · rw [value]
    nofun

/-- With any sign a fraction nearest to zero is nearest to the zero of that sign. -/
theorem ofDecimal_eq_zero
    {decimal : Decimal}
    (isZero : (ofDecimal false decimal).isZero = true)
    (negative : Bool) :
    ofDecimal negative decimal = zero negative := by
  apply ofDecimal_of_unsigned
  rcases ofDecimal_cases false decimal with value | ⟨magnitude, value⟩
  · rw [value] at isZero
    cases isZero
  · rw [value] at isZero ⊢
    have nothing : magnitude.count = Magnitude.zero.count :=
      of_decide_eq_true isZero
    rw [Magnitude.ext_count nothing]

/-- With a smaller exponent a fraction stays nearest to zero. -/
theorem isZero_ofDecimal_of_le
    {negative : Bool}
    {digits : Nat}
    {exponent smaller : Int}
    (isZero : (ofDecimal negative ⟨digits, exponent⟩).isZero = true)
    (below : smaller ≤ exponent) :
    (ofDecimal negative ⟨digits, smaller⟩).isZero = true := by
  have places :
      Decimal.place ⟨digits, smaller⟩ ≤ Decimal.place ⟨digits, exponent⟩ :=
    Int.add_le_add_right below _
  have wide : placeBelowRange < placeAboveRange := by decide
  by_cases nothing : digits = 0
  · rw [nothing, ofDecimal_zero]
    rfl
  by_cases large : placeBelowRange < Decimal.place ⟨digits, smaller⟩
  · have inside : Decimal.place ⟨digits, exponent⟩ < placeAboveRange := by
      rw [← Int.not_le]
      intro above
      rw [ofDecimal, if_neg nothing, if_pos above] at isZero
      cases isZero
    rw [ofDecimal_of_inRange negative nothing inside (by omega),
      isZero_ofQuotient_iff _ _ (Nat.pow_pos (by decide))] at isZero
    rw [ofDecimal_of_inRange negative nothing (by omega) large,
      isZero_ofQuotient_iff _ _ (Nat.pow_pos (by decide))]
    dsimp only at isZero ⊢
    have quanta : 0 < digits * quantaPerUnit :=
      Nat.mul_pos (Nat.pos_of_ne_zero nothing) (Nat.two_pow_pos _)
    have fraction : exponent < 0 := by
      by_contra whole
      have units : (-exponent).toNat = 0 := by omega
      have size : 0 < digits * quantaPerUnit * 10 ^ exponent.toNat :=
        Nat.mul_pos quanta (Nat.pow_pos (by decide))
      rw [units, Nat.pow_zero] at isZero
      omega
    have noWhole : exponent.toNat = 0 ∧ smaller.toNat = 0 := by omega
    rw [noWhole.1] at isZero
    rw [noWhole.2]
    exact
      Nat.le_trans isZero (Nat.pow_le_pow_right (by decide) (by omega))
  · rw [ofDecimal, if_neg nothing, if_neg (by omega),
      if_pos (Int.not_lt.mp large)]
    rfl

/-- Of the whole numbers only zero is nearest to zero. -/
theorem isZero_ofDecimal_whole_iff (negative : Bool) (value : Nat) :
    (ofDecimal negative ⟨value, 0⟩).isZero = true ↔ value = 0 := by
  constructor
  · intro isZero
    by_contra something
    have place : Decimal.place ⟨value, 0⟩ = (Text.numeral value).length :=
      Int.zero_add _
    have above : placeBelowRange < Decimal.place ⟨value, 0⟩ := by
      rw [place, placeBelowRange]
      omega
    by_cases inside : Decimal.place ⟨value, 0⟩ < placeAboveRange
    · rw [ofDecimal_of_inRange negative something inside above,
        isZero_ofQuotient_iff _ _ (Nat.pow_pos (by decide))] at isZero
      have quanta : 0 < value * quantaPerUnit :=
        Nat.mul_pos (Nat.pos_of_ne_zero something) (Nat.two_pow_pos _)
      rw [Int.toNat_zero, Int.neg_zero, Int.toNat_zero, Nat.pow_zero,
        Nat.mul_one] at isZero
      dsimp only at isZero
      omega
    · rw [ofDecimal, if_neg something, if_pos (Int.not_lt.mp inside)] at isZero
      cases isZero
  · rintro rfl
    rw [ofDecimal_zero]
    rfl

end Binary64

/-! ## The exact expansion of a magnitude -/

namespace Magnitude

theorem five_mul_two_pow :
    5 ^ unitExponent * quantaPerUnit = 10 ^ unitExponent := by
  rw [quantaPerUnit, ← Nat.mul_pow]

/-- The largest count has at most 309 digits before the point. -/
theorem countLimit_bound :
    countLimit * 5 ^ unitExponent < 10 ^ 1383 := by
  decide +kernel

/-- The least positive count has its first digit at the 324th place. -/
theorem five_pow_bound : 10 ^ 750 ≤ 5 ^ unitExponent := by
  decide +kernel

theorem exactDecimal_place
    {magnitude : Magnitude}
    (positive : 0 < magnitude.count) :
    Binary64.placeBelowRange < magnitude.exactDecimal.place ∧
      magnitude.exactDecimal.place < Binary64.placeAboveRange := by
  have below :
      (Text.numeral (magnitude.count * 5 ^ unitExponent)).length ≤ 1383 := by
    rw [Text.length_numeral_le_iff (by decide)]
    calc
      magnitude.count * 5 ^ unitExponent <
          countLimit * 5 ^ unitExponent :=
        Nat.mul_lt_mul_of_pos_right magnitude.representable.1
          (Nat.pow_pos (by decide))
      _ < 10 ^ 1383 := countLimit_bound
  have above :
      750 < (Text.numeral (magnitude.count * 5 ^ unitExponent)).length := by
    rw [← Nat.not_le, Text.length_numeral_le_iff (by decide), Nat.not_lt]
    calc
      10 ^ 750 ≤ 5 ^ unitExponent := five_pow_bound
      _ ≤ magnitude.count * 5 ^ unitExponent :=
        Nat.le_mul_of_pos_left _ positive
  have shifted :
      magnitude.exactDecimal.place =
        -1074 + (Text.numeral (magnitude.count * 5 ^ unitExponent)).length :=
    rfl
  rw [shifted, Binary64.placeBelowRange, Binary64.placeAboveRange]
  generalize
    (Text.numeral (magnitude.count * 5 ^ unitExponent)).length = length
    at below above
  omega

theorem ofDecimal_exactDecimal
    (negative : Bool)
    {magnitude : Magnitude}
    (positive : 0 < magnitude.count) :
    Binary64.ofDecimal negative magnitude.exactDecimal =
      .finite negative magnitude := by
  have places := exactDecimal_place positive
  have nonzero : magnitude.exactDecimal.digits ≠ 0 :=
    Nat.ne_of_gt (Nat.mul_pos positive (Nat.pow_pos (by decide)))
  rw [Binary64.ofDecimal_of_inRange negative nonzero places.2 places.1,
    ← Binary64.ofQuotient_magnitude negative magnitude
      (Nat.pow_pos (by decide) : 0 < 10 ^ unitExponent)]
  have whole : magnitude.exactDecimal.exponent.toNat = 0 := rfl
  have part : (-magnitude.exactDecimal.exponent).toNat = unitExponent := rfl
  have digits :
      magnitude.exactDecimal.digits = magnitude.count * 5 ^ unitExponent :=
    rfl
  rw [whole, part, digits, Nat.pow_zero, Nat.mul_one, Nat.mul_assoc,
    five_mul_two_pow]

/-! ## The shortest decimal of a magnitude -/

/-- A candidate is taken only after it was found to denote the magnitude. -/
theorem ofDecimal_of_candidate
    {magnitude : Magnitude}
    {nearest other decimal : Decimal}
    (taken :
      (if magnitude.denotedBy nearest then some nearest
        else if magnitude.denotedBy other then some other
        else none) = some decimal) :
    Binary64.ofDecimal false decimal = .finite false magnitude := by
  split at taken
  · rename_i denoted
    cases taken
    exact of_decide_eq_true denoted
  · split at taken
    · rename_i denoted
      cases taken
      exact of_decide_eq_true denoted
    · cases taken

theorem ofDecimal_of_gridHit?
    {magnitude : Magnitude}
    {precision : Nat}
    {decimal : Decimal}
    (hit : magnitude.gridHit? precision = some decimal) :
    Binary64.ofDecimal false decimal = .finite false magnitude := by
  rw [gridHit?] at hit
  exact ofDecimal_of_candidate hit

/-- The shortest decimal of a magnitude denotes it, with either sign. -/
theorem ofDecimal_shortestDecimal (negative : Bool) (magnitude : Magnitude) :
    Binary64.ofDecimal negative magnitude.shortestDecimal =
      .finite negative magnitude := by
  by_cases none : magnitude.count = 0
  · have isZero : magnitude = .zero := Magnitude.ext_count none
    rw [shortestDecimal, if_pos none, Binary64.ofDecimal_zero, isZero,
      Binary64.zero]
  · have positive : 0 < magnitude.count := Nat.pos_of_ne_zero none
    apply Binary64.ofDecimal_of_unsigned
    rw [shortestDecimal, if_neg none]
    cases searched :
        (List.range maximalPrecision).findSome? fun fewer =>
          magnitude.gridHit? (fewer + 1) with
    | none => exact ofDecimal_exactDecimal false positive
    | some decimal =>
        rcases List.exists_of_findSome?_eq_some searched with ⟨fewer, _, hit⟩
        exact ofDecimal_of_gridHit? hit

end Magnitude

end PocketCalc
