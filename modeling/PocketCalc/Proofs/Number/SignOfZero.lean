import PocketCalc.Expression.Operator
import PocketCalc.Number.Display
import PocketCalc.Proofs.Number.ReadBack

/-!
# The sign of zero

Numbers are the same value when they are equal or both zero.  A result that is
shown and read again is the same value as before, but a zero may have lost its
sign.  In the left operand of an operation that sign decides at most the sign
of another zero, and the display does not show it.
-/

namespace PocketCalc

namespace Binary64

/-- Equal, or zero both. -/
def SameValue (left right : Binary64) : Prop :=
  left = right ∨ (left.isZero = true ∧ right.isZero = true)

theorem SameValue.refl (number : Binary64) : SameValue number number :=
  Or.inl rfl

theorem unsignedZero_sameValue (number : Binary64) :
    SameValue number.unsignedZero number := by
  cases zero : number.isZero with
  | true =>
      rw [unsignedZero, zero, if_pos rfl]
      exact Or.inr ⟨rfl, zero⟩
  | false =>
      rw [unsignedZero, zero, if_neg Bool.false_ne_true]
      exact SameValue.refl number

/-- There are two zeros. -/
theorem exists_eq_zero
    {number : Binary64}
    (isZero : number.isZero = true) :
    ∃ negative, number = zero negative := by
  cases number with
  | nan => cases isZero
  | infinite negative => cases isZero
  | finite negative magnitude =>
      have nothing : magnitude.count = 0 := of_decide_eq_true isZero
      have magnitudes : magnitude = .zero := Magnitude.ext_count nothing
      exact ⟨negative, by rw [magnitudes, zero]⟩

theorem zero_sameValue (left right : Bool) :
    SameValue (zero left) (zero right) :=
  Or.inr ⟨rfl, rfl⟩

/-- What holds of equal numbers and of any two zeros holds of the same value. -/
theorem SameValue.elim
    {left right : Binary64}
    (property : Binary64 → Binary64 → Prop)
    (same : SameValue left right)
    (equal : ∀ number, property number number)
    (zeros : ∀ leftSign rightSign, property (zero leftSign) (zero rightSign)) :
    property left right := by
  rcases same with rfl | ⟨leftZero, rightZero⟩
  · exact equal left
  · rcases exists_eq_zero leftZero with ⟨leftSign, rfl⟩
    rcases exists_eq_zero rightZero with ⟨rightSign, rfl⟩
    exact zeros leftSign rightSign

/-! ## Operations on a zero -/

theorem add_zero_sameValue (leftSign rightSign : Bool) (operand : Binary64) :
    SameValue ((zero leftSign).add operand) ((zero rightSign).add operand) := by
  cases operand with
  | nan => exact SameValue.refl _
  | infinite negative => exact SameValue.refl _
  | finite negative magnitude =>
      have nothing : ∀ sign, signedCount sign .zero = 0 := by
        intro sign
        cases sign <;> rfl
      simp only [zero, add, nothing, Int.zero_add]
      split
      · exact zero_sameValue _ _
      · exact SameValue.refl _

theorem mul_zero_sameValue (leftSign rightSign : Bool) (operand : Binary64) :
    SameValue ((zero leftSign).mul operand) ((zero rightSign).mul operand) := by
  cases operand with
  | nan => exact SameValue.refl _
  | infinite negative => exact SameValue.refl _
  | finite negative magnitude =>
      have positive : 0 < quantaPerUnit := Nat.two_pow_pos unitExponent
      simp only [zero, mul, Magnitude.zero, Nat.zero_mul,
        ofQuotient_zero _ positive]
      exact zero_sameValue _ _

theorem div_zero_sameValue (leftSign rightSign : Bool) (operand : Binary64) :
    SameValue ((zero leftSign).div operand) ((zero rightSign).div operand) := by
  cases operand with
  | nan => exact SameValue.refl _
  | infinite negative => exact zero_sameValue _ _
  | finite negative magnitude =>
      by_cases nothing : magnitude.count = 0
      · simp only [zero, div, Magnitude.zero, nothing, if_true]
        exact SameValue.refl _
      · simp only [zero, div, Magnitude.zero, nothing, if_false, Nat.zero_mul,
          ofQuotient_zero _ (Nat.pos_of_ne_zero nothing)]
        exact zero_sameValue _ _

theorem remainder_zero_sameValue
    (leftSign rightSign : Bool)
    (operand : Binary64) :
    ∃ left right,
      (zero leftSign).remainder operand = .ok left ∧
        (zero rightSign).remainder operand = .ok right ∧
          SameValue left right := by
  simp only [remainder]
  split
  · exact ⟨_, _, rfl, rfl, SameValue.refl _⟩
  · cases operand with
    | nan => exact ⟨_, _, rfl, rfl, SameValue.refl _⟩
    | infinite negative => exact ⟨_, _, rfl, rfl, zero_sameValue _ _⟩
    | finite negative magnitude =>
        refine ⟨_, _, rfl, rfl, ?_⟩
        simp only [Magnitude.zero, Nat.zero_mod, ofQuotient_zero _ Nat.one_pos]
        exact zero_sameValue _ _

/-! ## The display -/

theorem integer?_zero (negative : Bool) : (zero negative).integer? = some 0 := by
  have small : 0 < integerLimit := Nat.two_pow_pos 63
  cases negative <;>
    simp [zero, integer?, Magnitude.zero, small]

/-- Both zeros are shown as the digit zero. -/
theorem display_of_isZero
    {number : Binary64}
    (isZero : number.isZero = true) :
    number.display = ['0'] := by
  rcases exists_eq_zero isZero with ⟨negative, rfl⟩
  rw [display, integer?_zero]
  rfl

/-- The display shows no sign of a zero. -/
theorem display_eq_of_sameValue
    {left right : Binary64}
    (same : SameValue left right) :
    left.display = right.display := by
  rcases same with rfl | ⟨leftZero, rightZero⟩
  · rfl
  · rw [display_of_isZero leftZero, display_of_isZero rightZero]

end Binary64

end PocketCalc
