/-!
# Binary floating-point numbers of 64 bits

The least positive number is called a *quantum*; it is 2 ^ -1074.  Every finite
number is a whole count of quanta with a sign, and a count is representable
when it has at most 53 significant binary digits and stays below 2 ^ 2098.

Rounding starts from a quotient of natural numbers, so that each operation can
compute its exact result first and round once: to the nearest representable
count, a half to the even neighbour, and beyond the range to infinity.
-/

namespace PocketCalc

/-- Powers are those of the core library, whatever else is imported. -/
scoped instance (priority := 2000) naturalPower : Pow Nat Nat :=
  instPowNat

/-- The binary exponent of the number one, counted in quanta. -/
def unitExponent : Nat := 1074

/-- The number one, counted in quanta. -/
def quantaPerUnit : Nat := 2 ^ unitExponent

/-- The least binary exponent that is too large for a finite number. -/
def limitExponent : Nat := 2098

/-- The first power of two that is too large for a finite number. -/
def countLimit : Nat := 2 ^ limitExponent

/--
A count of quanta is representable when it is below the limit and has no set
binary digit after its 53 leading ones.
-/
def Representable (count : Nat) : Prop :=
  count < countLimit ∧ 2 ^ (count.log2 - 52) ∣ count

instance (count : Nat) : Decidable (Representable count) :=
  inferInstanceAs (Decidable (_ ∧ _))

/-- The size of a finite number, as a representable count of quanta. -/
structure Magnitude where
  count : Nat
  representable : Representable count
deriving DecidableEq

namespace Magnitude

/-- No quanta at all. -/
def zero : Magnitude where
  count := 0
  representable := ⟨Nat.two_pow_pos limitExponent, Nat.dvd_zero _⟩

@[ext]
theorem ext_count
    {left right : Magnitude}
    (counts : left.count = right.count) :
    left = right := by
  cases left
  cases right
  simp_all

end Magnitude

/--
A number: one that is not a number, one of two infinities, or a finite
number with a sign.  Zero has a sign too.
-/
inductive Binary64 where
  | nan
  | infinite (negative : Bool)
  | finite (negative : Bool) (magnitude : Magnitude)
deriving DecidableEq

/-! ## Rounding to the nearest count -/

/--
The whole number nearest to a quotient; a half goes to the even neighbour.
-/
def roundHalfEven (numerator denominator : Nat) : Nat :=
  let whole := numerator / denominator
  let rest := numerator % denominator
  if 2 * rest < denominator then
    whole
  else if denominator < 2 * rest then
    whole + 1
  else
    whole + whole % 2

theorem roundHalfEven_le (numerator denominator : Nat) :
    roundHalfEven numerator denominator ≤ numerator / denominator + 1 := by
  unfold roundHalfEven
  dsimp only
  split
  · omega
  · split <;> omega

/--
The distance between neighbouring counts of 53 binary digits around a
quotient.
-/
def roundingStep (numerator denominator : Nat) : Nat :=
  2 ^ ((numerator / denominator).log2 - 52)

/-- The count of at most 53 significant binary digits nearest to a quotient. -/
def roundedCount (numerator denominator : Nat) : Nat :=
  let step := roundingStep numerator denominator
  roundHalfEven numerator (denominator * step) * step

/-- A multiple of a power of two by at most 2 ^ 53 has 53 significant digits. -/
theorem dvd_mul_two_pow
    {leading shift : Nat}
    (bound : leading ≤ 2 ^ (53 : Nat)) :
    2 ^ ((leading * 2 ^ shift).log2 - 52) ∣ leading * 2 ^ shift := by
  rcases Nat.lt_or_eq_of_le bound with smaller | equal
  · rcases Nat.eq_zero_or_pos leading with rfl | positive
    · simp
    · have nonzero : leading * 2 ^ shift ≠ 0 :=
        Nat.ne_of_gt (Nat.mul_pos positive (Nat.two_pow_pos shift))
      have below : leading * 2 ^ shift < 2 ^ (53 + shift) := by
        rw [Nat.pow_add]
        exact Nat.mul_lt_mul_of_pos_right smaller (Nat.two_pow_pos shift)
      have digits := (Nat.log2_lt nonzero).mpr below
      exact Nat.dvd_trans (Nat.pow_dvd_pow 2 (by omega)) (Nat.dvd_mul_left _ _)
  · subst equal
    rw [← Nat.pow_add, Nat.log2_two_pow]
    exact Nat.pow_dvd_pow 2 (by omega)

theorem quotient_step_lt (numerator denominator : Nat) :
    numerator / (denominator * roundingStep numerator denominator) <
      2 ^ (53 : Nat) := by
  rw [← Nat.div_div_eq_div_mul]
  unfold roundingStep
  generalize numerator / denominator = quotient
  rw [Nat.div_lt_iff_lt_mul (Nat.two_pow_pos _), ← Nat.pow_add]
  exact Nat.lt_of_lt_of_le Nat.lt_log2_self
    (Nat.pow_le_pow_right (by decide) (by omega))

theorem roundedCount_dvd (numerator denominator : Nat) :
    2 ^ ((roundedCount numerator denominator).log2 - 52) ∣
      roundedCount numerator denominator := by
  refine dvd_mul_two_pow ?_
  have nearest := roundHalfEven_le numerator
    (denominator * roundingStep numerator denominator)
  have below := quotient_step_lt numerator denominator
  omega

namespace Binary64

/-- The number nearest to a quotient of quanta, infinite beyond the range. -/
def ofQuotient (negative : Bool) (numerator denominator : Nat) : Binary64 :=
  if inRange : roundedCount numerator denominator < countLimit then
    .finite negative
      ⟨roundedCount numerator denominator,
        inRange, roundedCount_dvd numerator denominator⟩
  else
    .infinite negative

/-- The zero of the given sign. -/
def zero (negative : Bool) : Binary64 :=
  .finite negative .zero

/-- Whether a number is one of the two zeros. -/
def isZero : Binary64 → Bool
  | .finite _ magnitude => magnitude.count = 0
  | _ => false

end Binary64

end PocketCalc
