import PocketCalc.Proofs.Number.Layout
import PocketCalc.Proofs.Number.SignOfZero

/-!
# The form of displayed numbers

There are two forms of a displayed number.  Whole numbers that a signed word of
64 bits can hold have an integer numeral, and all other finite numbers have a
text with a point or an exponent mark, so no text has both forms.

A text on the display belongs to one value, whichever form it has: finite
numbers are displayed alike exactly if they are equal as numbers, which makes
the two zeros alike.  The names of infinity and of no number are the texts of
no finite number.
-/

namespace PocketCalc

open Literal

/--
The numerals of integers: a zero, or digits of which the first is no zero,
perhaps behind a minus.
-/
inductive IsIntegerNumeral : Text → Prop where
  | zero : IsIntegerNumeral ['0']
  | nonzero
      {digits : Text}
      (negative : Bool)
      (written : digits ≠ [])
      (areDigits : IsDigits digits)
      (leading : digits.head? ≠ some '0') :
      IsIntegerNumeral (Binary64.signed negative digits)

/-- There is no point and no exponent mark in an integer numeral. -/
theorem IsIntegerNumeral.characters
    {text : Text}
    (isNumeral : IsIntegerNumeral text) :
    ∀ character ∈ text, character = '-' ∨ character.isDigit = true := by
  cases isNumeral with
  | zero =>
      intro character member
      rw [List.mem_singleton.mp member]
      exact Or.inr rfl
  | @nonzero digits negative _ areDigits _ =>
      intro character member
      cases negative with
      | false => exact Or.inr (areDigits character member)
      | true =>
          rcases List.mem_cons.mp member with minus | digit
          · exact Or.inl minus
          · exact Or.inr (areDigits character digit)

/-! ## Whole numbers of 64 bits -/

namespace Binary64

/-- A finite number is equal to an integer. -/
def IsInteger (number : Binary64) (integer : Int) : Prop :=
  ∃ negative magnitude,
    number = .finite negative magnitude ∧
      signedCount negative magnitude = integer * quantaPerUnit

/-- A number is equal to an integer that a signed word of 64 bits can hold. -/
def IsInt64 (number : Binary64) : Prop :=
  ∃ integer : Int,
    number.IsInteger integer ∧ -2 ^ 63 ≤ integer ∧ integer < 2 ^ 63

/-- A signed count is that of an integer if it has its size and its sign. -/
theorem signedCount_eq_mul_iff
    {unit : Nat}
    (positive : 0 < unit)
    (negative : Bool)
    (magnitude : Magnitude)
    (integer : Int) :
    signedCount negative magnitude = integer * unit ↔
      magnitude.count = integer.natAbs * unit ∧
        if negative then integer ≤ 0 else 0 ≤ integer := by
  rcases Int.eq_nat_or_neg integer with ⟨size, isSize⟩
  have product : ((size * unit : Nat) : Int) = size * unit :=
    Int.natCast_mul size unit
  have vanishes : size * unit = 0 ↔ size = 0 := by
    rw [Nat.mul_eq_zero, or_iff_left (Nat.ne_of_gt positive)]
  rcases isSize with rfl | rfl
  · rw [Int.natAbs_natCast, ← product]
    generalize size * unit = count at vanishes ⊢
    cases negative with
    | false =>
        simp only [signedCount, Bool.false_eq_true, if_false]
        omega
    | true =>
        simp only [signedCount, if_true]
        omega
  · rw [Int.natAbs_neg, Int.natAbs_natCast, Int.neg_mul, ← product]
    generalize size * unit = count at vanishes ⊢
    cases negative with
    | false =>
        simp only [signedCount, Bool.false_eq_true, if_false]
        omega
    | true =>
        simp only [signedCount, if_true]
        omega

/-- Exactly the integers of 64 bits are shown as integers. -/
theorem integer?_eq_some_iff (number : Binary64) (integer : Int) :
    number.integer? = some integer ↔
      number.IsInteger integer ∧ -2 ^ 63 ≤ integer ∧ integer < 2 ^ 63 := by
  have unit : 0 < quantaPerUnit := Nat.two_pow_pos unitExponent
  cases number with
  | nan => exact iff_of_false nofun (by rintro ⟨⟨_, _, same, _⟩, _⟩; cases same)
  | infinite negative =>
      exact iff_of_false nofun (by rintro ⟨⟨_, _, same, _⟩, _⟩; cases same)
  | finite negative magnitude =>
      have isInteger :
          (Binary64.finite negative magnitude).IsInteger integer ↔
            signedCount negative magnitude = integer * quantaPerUnit := by
        constructor
        · rintro ⟨_, _, same, counted⟩
          cases same
          exact counted
        · intro counted
          exact ⟨negative, magnitude, rfl, counted⟩
      rw [isInteger, signedCount_eq_mul_iff unit, integer?, integerLimit]
      constructor
      · intro whole
        split at whole
        · rename_i fits
          rcases fits with ⟨noRest, bounds⟩
          have exact := Nat.div_mul_cancel (Nat.dvd_of_mod_eq_zero noRest)
          generalize magnitude.count / quantaPerUnit = size
            at exact bounds whole
          have value := Option.some.inj whole
          have sizes : integer.natAbs = size := by
            rw [← value]
            split
            · exact (Int.natAbs_neg _).trans (Int.natAbs_natCast size)
            · exact Int.natAbs_natCast size
          rw [sizes]
          cases negative with
          | false =>
              rw [if_neg Bool.false_ne_true] at value ⊢
              have small : size < 2 ^ 63 :=
                bounds.resolve_right fun limit => Bool.false_ne_true limit.1
              exact ⟨⟨exact.symm, by omega⟩, by omega, by omega⟩
          | true =>
              rw [if_pos rfl] at value ⊢
              have small : size ≤ 2 ^ 63 :=
                bounds.elim Nat.le_of_lt fun limit => Nat.le_of_eq limit.2
              exact ⟨⟨exact.symm, by omega⟩, by omega, by omega⟩
        · cases whole
      · rintro ⟨⟨counted, sign⟩, lower, upper⟩
        rw [counted, Nat.mul_mod_left, Nat.mul_div_cancel _ unit]
        cases negative with
        | false =>
            rw [if_neg Bool.false_ne_true] at sign
            rw [if_pos ⟨rfl, Or.inl (by omega)⟩, if_neg Bool.false_ne_true]
            exact congrArg some (Int.natAbs_of_nonneg sign)
        | true =>
            rw [if_pos rfl] at sign
            have fits :
                integer.natAbs < 2 ^ 63 ∨ integer.natAbs = 2 ^ 63 := by
              omega
            rw [if_pos ⟨rfl, fits.imp_right fun limit => ⟨rfl, limit⟩⟩,
              if_pos rfl]
            exact congrArg some (by omega)

theorem exists_integer?_iff (number : Binary64) :
    (∃ integer, number.integer? = some integer) ↔ number.IsInt64 :=
  exists_congr number.integer?_eq_some_iff

end Binary64

/-! ## The two forms -/

/-- A numeral without a minus is a zero or begins with another digit. -/
theorem isIntegerNumeral_renderInteger (integer : Int) :
    IsIntegerNumeral (Binary64.renderInteger integer) := by
  by_cases zero : integer = 0
  · rw [zero]
    exact .zero
  · exact
      .nonzero _ (Text.numeral_ne_nil _)
        (fun _ member => Text.isDigit_of_mem_numeral member)
        (Text.head?_numeral_ne_zero (Int.natAbs_pos.mpr zero))

/-- A text that is laid out otherwise than as a row of digits shows it. -/
theorem Laid.pointed_or_marked
    {body : Text}
    (laid : Laid body)
    (noNumeral : ¬IsDigits body) :
    '.' ∈ body ∨ 'e' ∈ body := by
  cases laid with
  | positional isMantissa =>
      left
      by_contra noPoint
      apply noNumeral
      intro character member
      refine (isMantissa.1 character member).resolve_right ?_
      rintro rfl
      exact noPoint member
  | scientific => exact Or.inr (by simp)

namespace Binary64

theorem isIntegerNumeral_display_of_isInt64
    {number : Binary64}
    (isInt64 : number.IsInt64) :
    IsIntegerNumeral number.display := by
  rcases number.exists_integer?_iff.mpr isInt64 with ⟨integer, whole⟩
  rw [display, whole]
  exact isIntegerNumeral_renderInteger integer

theorem pointed_or_marked_display
    {negative : Bool}
    {magnitude : Magnitude}
    (other : ¬IsInt64 (.finite negative magnitude)) :
    '.' ∈ display (.finite negative magnitude) ∨
      'e' ∈ display (.finite negative magnitude) := by
  rcases exists_laid_display negative magnitude with
    ⟨shown, body, display, laid, _, digits⟩
  rw [← exists_integer?_iff, ← Option.ne_none_iff_exists', ← digits] at other
  rw [display]
  have inside : body ⊆ signed shown body := by
    cases shown with
    | false => exact List.Subset.refl body
    | true => exact List.subset_cons_self '-' body
  exact
    (laid.pointed_or_marked other).imp
      (fun point => inside point) (fun mark => inside mark)

/-- No text has both forms. -/
theorem not_pointed_or_marked_of_isIntegerNumeral
    {text : Text}
    (isNumeral : IsIntegerNumeral text) :
    ¬('.' ∈ text ∨ 'e' ∈ text) := by
  rintro (point | mark)
  · exact absurd (isNumeral.characters '.' point) (by decide)
  · exact absurd (isNumeral.characters 'e' mark) (by decide)

/-! ## Texts and values -/

theorem natAbs_signedCount (negative : Bool) (magnitude : Magnitude) :
    (signedCount negative magnitude).natAbs = magnitude.count := by
  cases negative with
  | false => exact Int.natAbs_natCast _
  | true => exact (Int.natAbs_neg _).trans (Int.natAbs_natCast _)

/-- Finite numbers are the same value exactly if their signed counts agree. -/
theorem sameValue_finite_iff
    (left right : Bool)
    (leftMagnitude rightMagnitude : Magnitude) :
    SameValue (.finite left leftMagnitude) (.finite right rightMagnitude) ↔
      signedCount left leftMagnitude = signedCount right rightMagnitude := by
  constructor
  · rintro (same | ⟨leftZero, rightZero⟩)
    · cases same
      rfl
    · rw [isZero, decide_eq_true_eq] at leftZero rightZero
      simp only [signedCount, leftZero, rightZero, Int.natCast_zero,
        Int.neg_zero, ite_self]
  · intro counts
    have sizes := congrArg Int.natAbs counts
    rw [natAbs_signedCount, natAbs_signedCount] at sizes
    rcases Nat.eq_zero_or_pos leftMagnitude.count with none | some
    · exact Or.inr ⟨decide_eq_true none, decide_eq_true (sizes.symm.trans none)⟩
    · have magnitudes := Magnitude.ext_count sizes
      subst magnitudes
      have signs : left = right := by
        cases left <;> cases right <;> simp [signedCount] at counts ⊢ <;> omega
      exact Or.inl (congrArg (finite · leftMagnitude) signs)

theorem isZero_unsignedZero (number : Binary64) :
    number.unsignedZero.isZero = number.isZero := by
  rw [unsignedZero]
  split
  · rename_i zero
    exact zero.symm
  · rfl

/-- Finite numbers are displayed alike exactly if they are the same value. -/
theorem display_eq_iff_sameValue
    {left right : Binary64}
    (leftFinite : left.isFinite = true)
    (rightFinite : right.isFinite = true) :
    left.display = right.display ↔ left.SameValue right := by
  constructor
  · intro same
    have read := ofLiteral?_display leftFinite
    rw [same, ofLiteral?_display rightFinite] at read
    have unsigned := Option.some.inj read
    have zeros := congrArg isZero unsigned
    rw [isZero_unsignedZero, isZero_unsignedZero] at zeros
    cases leftZero : left.isZero with
    | true => exact Or.inr ⟨leftZero, zeros.trans leftZero⟩
    | false =>
        rw [unsignedZero, unsignedZero, zeros, leftZero,
          if_neg Bool.false_ne_true, if_neg Bool.false_ne_true] at unsigned
        exact Or.inl unsigned.symm
  · exact display_eq_of_sameValue

/-- The names of the other numbers are no literals. -/
theorem ofLiteral?_display_of_not_finite
    {number : Binary64}
    (notFinite : number.isFinite = false) :
    ofLiteral? number.display = none := by
  cases number with
  | nan => rfl
  | infinite negative => cases negative <;> rfl
  | finite negative magnitude => cases notFinite

/--
The display of a finite number is an integer numeral exactly if the number is
an integer of 64 bits, the least of them included and the power of two above
them not, and otherwise it has a point or an exponent mark.  It is the display
of another finite number exactly if both are equal as numbers, and of no number
that is not finite.
-/
theorem display_has_form_and_value (negative : Bool) (magnitude : Magnitude) :
    let number : Binary64 := .finite negative magnitude
    (IsIntegerNumeral number.display ↔ number.IsInt64) ∧
      (¬number.IsInt64 → '.' ∈ number.display ∨ 'e' ∈ number.display) ∧
      (∀ otherSign otherMagnitude,
        number.display = display (.finite otherSign otherMagnitude) ↔
          signedCount negative magnitude =
            signedCount otherSign otherMagnitude) ∧
      (∀ other : Binary64,
        other.isFinite = false → other.display ≠ number.display) := by
  intro number
  refine ⟨⟨?_, ?_⟩, ?_, ?_, ?_⟩
  · intro isNumeral
    by_contra other
    exact
      not_pointed_or_marked_of_isIntegerNumeral isNumeral
        (pointed_or_marked_display other)
  · exact isIntegerNumeral_display_of_isInt64
  · exact pointed_or_marked_display
  · intro otherSign otherMagnitude
    rw [← sameValue_finite_iff]
    exact display_eq_iff_sameValue rfl rfl
  · intro other notFinite same
    have read := ofLiteral?_display_of_not_finite notFinite
    rw [same, ofLiteral?_display rfl] at read
    cases read

/-- Of the powers of two at the ends of the range the negative one fits. -/
example :
    display (.ofDecimal true ⟨2 ^ 63, 0⟩) = "-9223372036854775808" ∧
      display (.ofDecimal false ⟨2 ^ 63, 0⟩) = "9.223372036854776e+18" := by
  decide +kernel

end Binary64

end PocketCalc
