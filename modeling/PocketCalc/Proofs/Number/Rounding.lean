import PocketCalc.Number.Arithmetic

/-!
# Rounding depends on the value of a quotient alone

Multiplying numerator and denominator by the same positive number changes
neither the whole part, nor the comparison with a half, nor the distance of
neighbouring counts.  Hence equal quotients round to the same number.

A representable count is its own rounding.  Only a quotient of at most one half
rounds to zero.  The sign of a rounded quotient is the sign that it was given,
and nothing else depends on that sign.
-/

namespace PocketCalc

/-! ## Equal quotients -/

theorem roundHalfEven_mul_right
    {factor : Nat}
    (positive : 0 < factor)
    (numerator denominator : Nat) :
    roundHalfEven (numerator * factor) (denominator * factor) =
      roundHalfEven numerator denominator := by
  have doubled :
      2 * (numerator % denominator * factor) =
        2 * (numerator % denominator) * factor :=
    (Nat.mul_assoc _ _ _).symm
  have below :
      2 * (numerator % denominator) * factor < denominator * factor ↔
        2 * (numerator % denominator) < denominator :=
    Nat.mul_lt_mul_right positive
  have above :
      denominator * factor < 2 * (numerator % denominator) * factor ↔
        denominator < 2 * (numerator % denominator) :=
    Nat.mul_lt_mul_right positive
  simp only [roundHalfEven, Nat.mul_div_mul_right _ _ positive,
    Nat.mul_mod_mul_right, doubled, below, above]

theorem roundedCount_mul_right
    {factor : Nat}
    (positive : 0 < factor)
    (numerator denominator : Nat) :
    roundedCount (numerator * factor) (denominator * factor) =
      roundedCount numerator denominator := by
  have step :
      roundingStep (numerator * factor) (denominator * factor) =
        roundingStep numerator denominator := by
    rw [roundingStep, Nat.mul_div_mul_right _ _ positive, roundingStep]
  simp only [roundedCount]
  rw [step, Nat.mul_right_comm, roundHalfEven_mul_right positive]

/-- A representable count is its own rounding. -/
theorem roundedCount_of_representable
    {count : Nat}
    (representable : Representable count) :
    roundedCount count 1 = count := by
  have step : roundingStep count 1 = 2 ^ (count.log2 - 52) := by
    rw [roundingStep, Nat.div_one]
  have positive : 0 < 2 ^ (count.log2 - 52) := Nat.two_pow_pos _
  have divides : 2 ^ (count.log2 - 52) ∣ count := representable.2
  have noRest : count % 2 ^ (count.log2 - 52) = 0 :=
    Nat.mod_eq_zero_of_dvd divides
  have whole :
      roundHalfEven count (2 ^ (count.log2 - 52)) =
        count / 2 ^ (count.log2 - 52) := by
    simp only [roundHalfEven]
    rw [noRest, Nat.mul_zero, if_pos positive]
  simp only [roundedCount]
  rw [step, Nat.one_mul, whole, Nat.div_mul_cancel divides]

/-! ## Rounding to zero -/

theorem roundHalfEven_eq_zero_iff
    (numerator : Nat)
    {denominator : Nat}
    (positive : 0 < denominator) :
    roundHalfEven numerator denominator = 0 ↔ 2 * numerator ≤ denominator := by
  have split := Nat.div_add_mod numerator denominator
  have rest := Nat.mod_lt numerator positive
  simp only [roundHalfEven]
  rcases Nat.eq_zero_or_pos (numerator / denominator) with none | some
  · rw [none, Nat.mul_zero, Nat.zero_add] at split
    rw [none, split]
    split
    · omega
    · split <;> omega
  · have larger : denominator ≤ denominator * (numerator / denominator) :=
      Nat.le_mul_of_pos_right _ some
    split
    · omega
    · split <;> omega

/-- A quotient rounds to zero just if it is at most one half. -/
theorem roundedCount_eq_zero_iff
    (numerator : Nat)
    {denominator : Nat}
    (positive : 0 < denominator) :
    roundedCount numerator denominator = 0 ↔ 2 * numerator ≤ denominator := by
  have stepPositive : 0 < roundingStep numerator denominator :=
    Nat.two_pow_pos _
  simp only [roundedCount]
  rw [Nat.mul_eq_zero, or_iff_left (Nat.ne_of_gt stepPositive),
    roundHalfEven_eq_zero_iff _ (Nat.mul_pos positive stepPositive)]
  constructor
  · intro small
    rcases Nat.lt_or_ge 52 (numerator / denominator).log2 with wide | narrow
    · have count : numerator / denominator ≠ 0 := by
        intro none
        rw [none] at wide
        exact absurd wide (by decide)
      have digits := Nat.log2_self_le count
      have steps :
          2 * roundingStep numerator denominator ≤
            2 ^ (numerator / denominator).log2 := by
        rw [roundingStep, ← Nat.pow_succ']
        exact Nat.pow_le_pow_right (by decide) (by omega)
      have large :
          denominator * (2 * roundingStep numerator denominator) ≤ numerator :=
        Nat.le_trans (Nat.mul_le_mul_left _ (Nat.le_trans steps digits))
          (Nat.mul_div_le _ _)
      have some := Nat.mul_pos positive stepPositive
      rw [Nat.mul_left_comm] at large
      omega
    · have step : roundingStep numerator denominator = 1 := by
        rw [roundingStep, Nat.sub_eq_zero_of_le narrow, Nat.pow_zero]
      rw [step, Nat.mul_one] at small
      exact small
  · intro small
    exact Nat.le_trans small (Nat.le_mul_of_pos_right _ stepPositive)

namespace Binary64

theorem isZero_ofQuotient_iff
    (negative : Bool)
    (numerator : Nat)
    {denominator : Nat}
    (positive : 0 < denominator) :
    (ofQuotient negative numerator denominator).isZero = true ↔
      2 * numerator ≤ denominator := by
  rw [← roundedCount_eq_zero_iff numerator positive, ofQuotient]
  split
  · exact decide_eq_true_iff
  · rename_i outside
    refine iff_of_false Bool.false_ne_true ?_
    intro none
    rw [none] at outside
    exact outside (Nat.two_pow_pos limitExponent)

/-- Equal roundings make equal numbers. -/
theorem ofQuotient_congr
    {numerator denominator numerator' denominator' : Nat}
    (negative : Bool)
    (counts :
      roundedCount numerator denominator =
        roundedCount numerator' denominator') :
    ofQuotient negative numerator denominator =
      ofQuotient negative numerator' denominator' := by
  simp only [ofQuotient, counts]

/-- Equal quotients round to the same number. -/
theorem ofQuotient_eq_of_cross
    {numerator denominator numerator' denominator' : Nat}
    (negative : Bool)
    (positive : 0 < denominator)
    (positive' : 0 < denominator')
    (cross : numerator * denominator' = numerator' * denominator) :
    ofQuotient negative numerator denominator =
      ofQuotient negative numerator' denominator' := by
  apply ofQuotient_congr
  rw [← roundedCount_mul_right positive' numerator denominator, cross,
    Nat.mul_comm denominator denominator',
    roundedCount_mul_right positive]

/-- A quotient that is exactly a magnitude rounds to that magnitude. -/
theorem ofQuotient_magnitude
    (negative : Bool)
    (magnitude : Magnitude)
    {denominator : Nat}
    (positive : 0 < denominator) :
    ofQuotient negative (magnitude.count * denominator) denominator =
      .finite negative magnitude := by
  have counts :
      roundedCount (magnitude.count * denominator) denominator =
        magnitude.count := by
    have scaled := roundedCount_mul_right positive magnitude.count 1
    rw [Nat.one_mul] at scaled
    rw [scaled, roundedCount_of_representable magnitude.representable]
  have inRange :
      roundedCount (magnitude.count * denominator) denominator <
        countLimit := by
    rw [counts]
    exact magnitude.representable.1
  rw [ofQuotient, dif_pos inRange]
  exact congrArg (Binary64.finite negative) (Magnitude.ext_count counts)

theorem ofQuotient_zero
    (negative : Bool)
    {denominator : Nat}
    (positive : 0 < denominator) :
    ofQuotient negative 0 denominator = zero negative := by
  have exact := ofQuotient_magnitude negative .zero positive
  simpa [Magnitude.zero, zero] using exact

/-! ## The sign of a quotient -/

theorem neg_ofQuotient (negative : Bool) (numerator denominator : Nat) :
    (ofQuotient negative numerator denominator).neg =
      ofQuotient (!negative) numerator denominator := by
  simp only [ofQuotient]
  split <;> rfl

end Binary64

end PocketCalc
