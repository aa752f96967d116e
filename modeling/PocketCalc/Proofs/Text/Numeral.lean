import PocketCalc.Number.Decimal

/-!
# Numerals and the values of runs of digits

A numeral consists of digits, and multiplying a positive number by a power of
ten appends that many zeros to its numeral.  The value of a run of digits is
read positionally: the part on the left counts once more for every digit on
the right, so zeros in front are without effect and zeros at the end multiply.
-/

namespace PocketCalc

namespace Text

/-! ## Digits of a numeral -/

theorem isDigit_of_mem_numeral
    {value : Nat}
    {character : Char}
    (member : character ∈ numeral value) :
    character.isDigit = true :=
  Nat.isDigit_of_mem_toDigits (by decide) (by decide) member

theorem length_numeral_pos (value : Nat) :
    0 < (numeral value).length :=
  Nat.length_toDigits_pos

/-- The length of a numeral is the order of size of its number. -/
theorem length_numeral_le_iff
    {value bound : Nat}
    (positive : 0 < bound) :
    (numeral value).length ≤ bound ↔ value < 10 ^ bound :=
  Nat.length_toDigits_le_iff (by decide) positive

/-- The numeral of a positive number begins with no zero. -/
theorem head?_numeral_ne_zero
    {value : Nat}
    (positive : 0 < value) :
    (numeral value).head? ≠ some '0' := by
  induction value using Nat.strongRecOn with
  | ind value ih =>
      rcases Nat.lt_or_ge value 10 with small | large
      · have digits :
            ∀ digit < 10, 0 < digit →
              [Nat.digitChar digit].head? ≠ some '0' := by
          decide
        rw [numeral, Nat.toDigits_of_lt_base small]
        exact digits value small positive
      · have leading := ih (value / 10) (by omega) (by omega)
        rw [numeral, Nat.toDigits_of_base_le (by decide) large, ← numeral]
        cases digits : numeral (value / 10) with
        | nil => exact absurd digits (numeral_ne_nil _)
        | cons first rest =>
            rw [digits] at leading
            exact leading

theorem numeral_mul_ten
    {value : Nat}
    (positive : 0 < value) :
    numeral (value * 10) = numeral value ++ ['0'] := by
  have appended :=
    Nat.toDigits_append_toDigits
      (b := 10) (n := value) (d := 0) (by decide) positive (by decide)
  rw [Nat.toDigits_zero, Nat.add_zero, Nat.mul_comm] at appended
  exact appended.symm

theorem numeral_mul_ten_pow
    {value : Nat}
    (positive : 0 < value)
    (count : Nat) :
    numeral (value * 10 ^ count) =
      numeral value ++ List.replicate count '0' := by
  induction count with
  | zero => simp
  | succ count ih =>
      have larger : 0 < value * 10 ^ count :=
        Nat.mul_pos positive (Nat.pow_pos (by decide))
      rw [Nat.pow_succ, ← Nat.mul_assoc, numeral_mul_ten larger, ih,
        List.append_assoc, ← List.replicate_succ']

theorem length_numeral_mul_ten_pow
    {value : Nat}
    (positive : 0 < value)
    (count : Nat) :
    (numeral (value * 10 ^ count)).length =
      (numeral value).length + count := by
  simp [numeral_mul_ten_pow positive]

/-! ## Values of runs of digits -/

theorem numeralValue_append (left right : Text) :
    numeralValue (left ++ right) =
      numeralValue left * 10 ^ right.length + numeralValue right := by
  simp only [numeralValue]
  rw [Nat.ofDigitChars_append, Nat.ofDigitChars_eq_ofDigitChars_zero,
    Nat.mul_comm]

@[simp]
theorem numeralValue_zeros (count : Nat) :
    numeralValue (List.replicate count '0') = 0 := by
  simp [numeralValue]

theorem numeralValue_zeros_append (count : Nat) (digits : Text) :
    numeralValue (List.replicate count '0' ++ digits) =
      numeralValue digits := by
  rw [numeralValue_append, numeralValue_zeros, Nat.zero_mul, Nat.zero_add]

theorem numeralValue_append_zeros (digits : Text) (count : Nat) :
    numeralValue (digits ++ List.replicate count '0') =
      numeralValue digits * 10 ^ count := by
  rw [numeralValue_append, numeralValue_zeros, Nat.add_zero,
    List.length_replicate]

end Text

end PocketCalc
