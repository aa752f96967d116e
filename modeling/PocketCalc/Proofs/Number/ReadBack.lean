import PocketCalc.Number.Display
import PocketCalc.Proofs.Number.DecimalValue
import PocketCalc.Proofs.Number.LiteralGrammar

/-!
# What is shown reads back

The text of a decimal fraction is a literal without sign, whatever the layout:
its digits are those that matter, its point stands at the place of the
fraction, and the zeros that a layout fills in change nothing.  So a finite
number is read back from its text, and also from its text on the display,
where only the sign of zero is lost.
-/

namespace PocketCalc

/-! ## The digits that matter -/

namespace Decimal

theorem numeral_eq_significantDigits_append
    {decimal : Decimal}
    (nonzero : decimal.digits ≠ 0) :
    ∃ count,
      Text.numeral decimal.digits =
        decimal.significantDigits ++ List.replicate count '0' := by
  have cut :
      (Text.numeral decimal.digits).reverse.takeWhile (· = '0') ++
          (Text.numeral decimal.digits).reverse.dropWhile (· = '0') =
        (Text.numeral decimal.digits).reverse :=
    List.takeWhile_append_dropWhile
  have zeros :
      (Text.numeral decimal.digits).reverse.takeWhile (· = '0') =
        List.replicate
          ((Text.numeral decimal.digits).reverse.takeWhile (· = '0')).length
          '0' := by
    apply List.eq_replicate_of_mem
    intro character member
    simpa using List.mem_takeWhile_imp member
  rw [significantDigits, if_neg nonzero]
  refine
    ⟨((Text.numeral decimal.digits).reverse.takeWhile (· = '0')).length, ?_⟩
  rw [← List.reverse_inj, List.reverse_append, List.reverse_reverse,
    List.reverse_replicate, ← zeros, cut]

theorem isDigits_significantDigits (decimal : Decimal) :
    Literal.IsDigits decimal.significantDigits := by
  by_cases zero : decimal.digits = 0
  · rw [significantDigits, if_pos zero]
    intro character member
    rw [List.mem_singleton.mp member]
    rfl
  · rcases numeral_eq_significantDigits_append zero with ⟨count, cut⟩
    intro character member
    have inNumeral : character ∈ Text.numeral decimal.digits := by
      rw [cut]
      exact List.mem_append_left _ member
    exact Text.isDigit_of_mem_numeral inNumeral

theorem significantDigits_ne_nil (decimal : Decimal) :
    decimal.significantDigits ≠ [] := by
  by_cases zero : decimal.digits = 0
  · rw [significantDigits, if_pos zero]
    exact List.cons_ne_nil _ _
  · rcases numeral_eq_significantDigits_append zero with ⟨count, cut⟩
    intro empty
    apply zero
    rw [← Text.numeralValue_numeral decimal.digits, cut, empty,
      List.nil_append, Text.numeralValue_zeros]

/-- The digits that matter, put at the place of the fraction, have its value. -/
theorem ofDecimal_significantDigits (negative : Bool) (decimal : Decimal) :
    Binary64.ofDecimal negative
        ⟨Text.numeralValue decimal.significantDigits,
          decimal.place - decimal.significantDigits.length⟩ =
      Binary64.ofDecimal negative decimal := by
  by_cases zero : decimal.digits = 0
  · have noValue : Text.numeralValue decimal.significantDigits = 0 := by
      rw [significantDigits, if_pos zero]
      rfl
    rw [noValue, Binary64.ofDecimal_zero, Binary64.ofDecimal, if_pos zero]
  · rcases numeral_eq_significantDigits_append zero with ⟨count, cut⟩
    have value :
        Text.numeralValue decimal.significantDigits * 10 ^ count =
          decimal.digits := by
      rw [← Text.numeralValue_append_zeros, ← cut,
        Text.numeralValue_numeral]
    have exponent :
        decimal.place - decimal.significantDigits.length =
          decimal.exponent + count := by
      rw [place, cut, List.length_append, List.length_replicate]
      omega
    rw [exponent, ← Binary64.ofDecimal_mul_ten_pow, value]

end Decimal

/-! ## Layouts -/

namespace DecimalLayout

open Literal

/-- The filled-in zeros of a positional text move into the exponent. -/
theorem decimal?_positional
    {digits : Text}
    (areDigits : IsDigits digits)
    (nonempty : digits ≠ [])
    (place : Int) :
    ∃ count : Nat,
      decimal? (positional digits place) =
        some
          ⟨Text.numeralValue digits * 10 ^ count,
            place - digits.length - count⟩ := by
  have zeros : ∀ count, IsDigits (List.replicate count '0') := by
    intro count character member
    rw [List.eq_of_mem_replicate member]
    decide
  rw [positional]
  split
  · rename_i small
    have read :=
      decimal?_pieces ['0']
        (some (List.replicate (-place).toNat '0' ++ digits))
        (zeros 1)
        ((isDigits_append_iff _ _).mpr ⟨zeros _, areDigits⟩)
        (List.cons_ne_nil _ _)
        exponent?_nil
    refine ⟨0, ?_⟩
    rw [pointed, List.append_nil] at read
    rw [List.append_assoc]
    refine read.trans ?_
    have value :
        Text.numeralValue
            (['0'] ++ (List.replicate (-place).toNat '0' ++ digits)) =
          Text.numeralValue digits := by
      rw [← List.replicate_one, Text.numeralValue_zeros_append,
        Text.numeralValue_zeros_append]
    rw [Option.getD_some, value, List.length_append, List.length_replicate,
      Nat.pow_zero, Nat.mul_one]
    congr 2
    omega
  · split
    · rename_i fits
      have read :=
        decimal?_pieces
          (digits ++ List.replicate (place.toNat - digits.length) '0')
          (some ['0'])
          ((isDigits_append_iff _ _).mpr ⟨areDigits, zeros _⟩)
          (zeros 1)
          (by simp)
          exponent?_nil
      refine ⟨place.toNat - digits.length + 1, ?_⟩
      rw [pointed, List.append_nil] at read
      refine read.trans ?_
      rw [Option.getD_some, List.append_assoc, ← List.replicate_succ',
        Text.numeralValue_append_zeros]
      congr 2
      rw [List.length_singleton]
      omega
    · rename_i longer
      have read :=
        decimal?_pieces
          (digits.take place.toNat)
          (some (digits.drop place.toNat))
          (fun character member =>
            areDigits character (List.mem_of_mem_take member))
          (fun character member =>
            areDigits character (List.mem_of_mem_drop member))
          (by simpa using nonempty)
          exponent?_nil
      refine ⟨0, ?_⟩
      rw [pointed, List.append_nil] at read
      rw [List.append_assoc]
      refine read.trans ?_
      rw [Option.getD_some, List.take_append_drop, List.length_drop,
        Nat.pow_zero, Nat.mul_one]
      congr 2
      omega

/-- A numeral filled up with zeros is a row of digits with the same value. -/
theorem leftpad_numeral (width value : Nat) :
    IsDigits (List.leftpad width '0' (Text.numeral value)) ∧
      List.leftpad width '0' (Text.numeral value) ≠ [] ∧
        Text.numeralValue (List.leftpad width '0' (Text.numeral value)) =
          value := by
  rw [List.leftpad]
  refine ⟨?_, ?_, ?_⟩
  · intro character member
    rcases List.mem_append.mp member with padding | digit
    · rw [List.eq_of_mem_replicate padding]
      decide
    · exact Text.isDigit_of_mem_numeral digit
  · exact List.append_ne_nil_of_right_ne_nil _ (Text.numeral_ne_nil _)
  · rw [Text.numeralValue_zeros_append, Text.numeralValue_numeral]

/-- The written exponent of a scientific text is read as it is. -/
theorem exponent?_leftpad (width : Nat) (exponent : Int) :
    exponent?
        ('e' :: (if exponent < 0 then '-' else '+') ::
          List.leftpad width '0' (Text.numeral exponent.natAbs)) =
      some exponent := by
  rcases leftpad_numeral width exponent.natAbs with
    ⟨areDigits, nonempty, value⟩
  by_cases below : exponent < 0
  · rw [if_pos below, exponent?_signed (by decide) (by decide) nonempty areDigits,
      value, if_pos rfl]
    congr 1
    omega
  · rw [if_neg below, exponent?_signed (by decide) (by decide) nonempty areDigits,
      value, if_neg (by decide)]
    congr 1
    omega

theorem decimal?_scientific
    (layout : DecimalLayout)
    {digits : Text}
    (areDigits : IsDigits digits)
    (nonempty : digits ≠ [])
    (place : Int) :
    decimal? (layout.scientific digits place) =
      some ⟨Text.numeralValue digits, place - digits.length⟩ := by
  have power := exponent?_leftpad layout.exponentWidth (place - 1)
  have laidOut :
      ∃ fraction,
        digits = digits.take 1 ++ fraction.getD [] ∧
          layout.scientific digits place =
            digits.take 1 ++
              (pointed fraction ++
                'e' :: (if place - 1 < 0 then '-' else '+') ::
                  List.leftpad layout.exponentWidth '0'
                    (Text.numeral (place - 1).natAbs)) := by
    match digits with
    | [] => exact absurd rfl nonempty
    | [digit] => exact ⟨none, rfl, rfl⟩
    | first :: second :: rest => exact ⟨some (second :: rest), rfl, rfl⟩
  rcases laidOut with ⟨fraction, cut, text⟩
  have parts : IsDigits (digits.take 1) ∧ IsDigits (fraction.getD []) := by
    rw [← isDigits_append_iff, ← cut]
    exact areDigits
  have counted : digits.length = 1 + (fraction.getD []).length := by
    have lengths := congrArg List.length cut
    have positive := List.length_pos_iff.mpr nonempty
    rw [List.length_append, List.length_take] at lengths
    omega
  rw [text,
    decimal?_pieces _ fraction parts.1 parts.2 (by rwa [← cut]) power,
    ← cut, counted]
  congr 2
  omega

/-- The text of a decimal fraction is a literal of the same value. -/
theorem exists_decimal?_render (layout : DecimalLayout) (decimal : Decimal) :
    ∃ read,
      decimal? (layout.render decimal) = some read ∧
        ∀ negative,
          Binary64.ofDecimal negative read =
            Binary64.ofDecimal negative decimal := by
  have areDigits := decimal.isDigits_significantDigits
  have nonempty := decimal.significantDigits_ne_nil
  rw [render]
  split
  · rcases decimal?_positional areDigits nonempty decimal.place with
      ⟨count, read⟩
    refine ⟨_, read, fun negative => ?_⟩
    rw [Binary64.ofDecimal_mul_ten_pow, Int.sub_add_cancel,
      Decimal.ofDecimal_significantDigits]
  · exact
      ⟨_, decimal?_scientific layout areDigits nonempty decimal.place,
        fun negative => Decimal.ofDecimal_significantDigits negative decimal⟩

end DecimalLayout

/-! ## Numbers -/

namespace Binary64

open Literal

/-- Whether a number is finite. -/
def isFinite : Binary64 → Bool
  | .finite _ _ => true
  | _ => false

/-- The same number, with a positive zero for the negative one. -/
def unsignedZero (number : Binary64) : Binary64 :=
  if number.isZero then zero false else number

/-- A sign and a readable text denote the nearest number with that sign. -/
theorem ofLiteral?_signed
    {text : Text}
    {decimal : Decimal}
    (read : decimal? text = some decimal)
    (negative : Bool) :
    ofLiteral? (signed negative text) = some (ofDecimal negative decimal) := by
  cases negative with
  | false =>
      have unsigned := isUnsigned_of_decimal? read
      rw [signed, if_neg Bool.false_ne_true, ofLiteral?,
        read?_of_isUnsigned unsigned, read]
      rfl
  | true =>
      rw [signed, if_pos rfl, ofLiteral?, read?_minus, read]
      rfl

/-- A literal without sign has one decimal, whatever sign is put before it. -/
theorem exists_ofLiteral?_signed
    {text : Text}
    (isUnsigned : IsUnsigned text) :
    ∃ decimal,
      ∀ negative,
        ofLiteral? (signed negative text) =
          some (ofDecimal negative decimal) := by
  rcases (isUnsigned_iff text).mp isUnsigned with ⟨decimal, read⟩
  exact ⟨decimal, ofLiteral?_signed read⟩

theorem isOperand_signed
    {text : Text}
    (unsigned : IsUnsigned text)
    (negative : Bool) :
    IsOperand (signed negative text) := by
  cases negative with
  | false => exact Or.inl unsigned
  | true => exact Or.inr ⟨text, rfl, unsigned⟩

/-- The text of a finite number reads back as the number. -/
theorem ofLiteral?_render
    {number : Binary64}
    (finite : number.isFinite = true) :
    ofLiteral? number.render = some number := by
  cases number with
  | nan => cases finite
  | infinite negative => cases finite
  | finite negative magnitude =>
      rcases
          DecimalLayout.standard.exists_decimal?_render
            magnitude.shortestDecimal with
        ⟨decimal, read, value⟩
      rw [render, ofLiteral?_signed read negative, value negative,
        Magnitude.ofDecimal_shortestDecimal]

theorem isOperand_render
    {number : Binary64}
    (finite : number.isFinite = true) :
    IsOperand number.render := by
  cases number with
  | nan => cases finite
  | infinite negative => cases finite
  | finite negative magnitude =>
      rcases
          DecimalLayout.standard.exists_decimal?_render
            magnitude.shortestDecimal with
        ⟨decimal, read, _⟩
      exact isOperand_signed (isUnsigned_of_decimal? read) negative

/-! ## Numbers on the display -/

theorem decimal?_numeral (value : Nat) :
    decimal? (Text.numeral value) = some ⟨value, 0⟩ := by
  have read :=
    decimal?_pieces (Text.numeral value) none
      (fun _ member => Text.isDigit_of_mem_numeral member)
      (fun _ member => nomatch member)
      (by simpa using Text.numeral_ne_nil value)
      exponent?_nil
  simpa [pointed] using read

/-- An integer of at most 64 bits is read exactly. -/
theorem ofDecimal_integer
    {value : Nat}
    (positive : 0 < value)
    (small : value ≤ integerLimit)
    (negative : Bool) :
    ofDecimal negative ⟨value, 0⟩ =
      ofQuotient negative (value * quantaPerUnit) 1 := by
  have lengthBound : (Text.numeral value).length ≤ 19 := by
    rw [Text.length_numeral_le_iff (by decide)]
    exact Nat.lt_of_le_of_lt small (by decide)
  have lengthPositive := Text.length_numeral_pos value
  have place : Decimal.place ⟨value, 0⟩ = (Text.numeral value).length :=
    Int.zero_add _
  rw [ofDecimal_of_inRange negative (Nat.ne_of_gt positive)
    (by rw [place, placeAboveRange]; omega)
    (by rw [place, placeBelowRange]; omega)]
  exact congrArg (ofQuotient negative · 1) (Nat.mul_one _)

/-- What it means that a number is shown as an integer. -/
theorem integer?_eq_some
    {number : Binary64}
    {integer : Int}
    (whole : number.integer? = some integer) :
    ∃ negative magnitude,
      number = .finite negative magnitude ∧
        magnitude.count = integer.natAbs * quantaPerUnit ∧
          integer.natAbs ≤ integerLimit ∧
            (integer.natAbs ≠ 0 → negative = decide (integer < 0)) := by
  cases number with
  | nan => cases whole
  | infinite negative => cases whole
  | finite negative magnitude =>
      rw [integer?] at whole
      split at whole
      · rename_i fits
        have exact :
            magnitude.count =
              magnitude.count / quantaPerUnit * quantaPerUnit :=
          (Nat.div_mul_cancel (Nat.dvd_of_mod_eq_zero fits.1)).symm
        have bound : magnitude.count / quantaPerUnit ≤ integerLimit := by
          rcases fits.2 with below | ⟨_, limit⟩
          · exact Nat.le_of_lt below
          · exact Nat.le_of_eq limit
        generalize magnitude.count / quantaPerUnit = size at exact bound whole
        cases Option.some.inj whole
        have sizes :
            (if negative then -(size : Int) else size).natAbs = size := by
          cases negative with
          | false => exact Int.natAbs_natCast size
          | true => exact Int.natAbs_neg size
        rw [sizes]
        refine ⟨negative, magnitude, rfl, exact, bound, ?_⟩
        intro nonzero
        cases negative with
        | false => exact (decide_eq_false (Int.natCast_nonneg size).not_gt).symm
        | true =>
            have below : -(size : Int) < 0 := by omega
            exact (decide_eq_true below).symm
      · cases whole

/--
The display of a finite number reads back as the number, except that the
negative zero comes back as the positive one.
-/
theorem ofLiteral?_display
    {number : Binary64}
    (finite : number.isFinite = true) :
    ofLiteral? number.display = some number.unsignedZero := by
  cases shown : number.integer? with
  | none =>
      have notZero : number.isZero = false := by
        cases number with
        | nan => rfl
        | infinite negative => rfl
        | finite negative magnitude =>
            by_contra zero
            rw [Bool.not_eq_false, isZero, decide_eq_true_eq] at zero
            simp [integer?, zero, integerLimit] at shown
      rw [display, shown, unsignedZero, notZero, if_neg Bool.false_ne_true]
      exact ofLiteral?_render finite
  | some integer =>
      rcases integer?_eq_some shown with
        ⟨negative, magnitude, rfl, counted, small, sign⟩
      rw [display, shown]
      show ofLiteral? (renderInteger integer) = _
      rw [renderInteger, ofLiteral?_signed (decimal?_numeral _)]
      by_cases zero : integer.natAbs = 0
      · have nothing : magnitude.count = 0 := by
          rw [counted, zero, Nat.zero_mul]
        have notNegative : ¬integer < 0 := by omega
        rw [zero, ofDecimal_zero, unsignedZero, isZero,
          if_pos (decide_eq_true nothing), decide_eq_false notNegative]
      · have something : magnitude.count ≠ 0 := by
          rw [counted]
          exact Nat.mul_ne_zero zero (Nat.ne_of_gt (Nat.two_pow_pos _))
        rw [ofDecimal_integer (Nat.pos_of_ne_zero zero) small, ← counted,
          ← sign zero, unsignedZero, isZero,
          if_neg (by rw [decide_eq_true_eq]; exact something)]
        have exact :=
          ofQuotient_magnitude negative magnitude (Nat.one_pos)
        rw [Nat.mul_one] at exact
        rw [exact]

theorem isOperand_display
    {number : Binary64}
    (finite : number.isFinite = true) :
    IsOperand number.display := by
  rw [display]
  split
  · exact
      isOperand_signed (isUnsigned_of_decimal? (decimal?_numeral _)) _
  · exact isOperand_render finite

end Binary64

end PocketCalc
