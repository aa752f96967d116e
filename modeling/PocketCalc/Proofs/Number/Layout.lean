import PocketCalc.Proofs.Number.ReadBack

/-!
# The layouts of displayed numbers

A finite number is displayed as a mantissa, perhaps with an exponent behind it,
and with a minus in front if it is negative.  An exponent is only written where
it is not zero.  Its mark is always the same letter, directly behind a digit,
and a sign follows it.  Without a point and a mark are exactly the displays of
numbers that are shown as integers.
-/

namespace PocketCalc

open Literal

/-- A text as it is laid out for a number without sign. -/
inductive Laid : Text → Prop where
  /-- Digits, perhaps with a point. -/
  | positional
      {body : Text}
      (isMantissa : IsMantissa body) :
      Laid body
  /-- A mantissa that ends in a digit, and an exponent other than zero. -/
  | scientific
      {leading power : Text}
      {sign : Char}
      (isMantissa : IsMantissa leading)
      (ends : leading.getLast?.any Char.isDigit = true)
      (signed : isSign sign = true)
      (written : power ≠ [])
      (areDigits : IsDigits power)
      (nonzero : Text.numeralValue power ≠ 0) :
      Laid (leading ++ 'e' :: sign :: power)

/-- A laid out text is a literal without sign. -/
theorem Laid.isUnsigned {body : Text} (laid : Laid body) : IsUnsigned body := by
  cases laid with
  | positional isMantissa => exact isMantissa.isUnsigned
  | @scientific leading power sign isMantissa ends signed written areDigits _ =>
      refine ⟨leading, 'e' :: sign :: power, rfl, isMantissa, Or.inr ?_⟩
      have signs : [sign] = ['+'] ∨ [sign] = ['-'] := by
        rw [isSign, Bool.or_eq_true, decide_eq_true_eq,
          decide_eq_true_eq] at signed
        rcases signed with rfl | rfl
        · exact Or.inl rfl
        · exact Or.inr rfl
      exact ⟨'e', [sign], power, rfl, rfl, Or.inr signs, written, areDigits⟩

theorem laid_numeral (value : Nat) : Laid (Text.numeral value) :=
  .positional
    (isMantissa_of_isDigits
      (fun _ member => Text.isDigit_of_mem_numeral member)
      (Text.numeral_ne_nil value))

namespace DecimalLayout

/-- A positional text has digits on both sides of a point, or on one. -/
theorem exists_pieces_positional
    {digits : Text}
    (areDigits : IsDigits digits)
    (nonempty : digits ≠ [])
    (place : Int) :
    ∃ whole fraction,
      positional digits place = whole ++ pointed (some fraction) ∧
        IsDigits whole ∧ IsDigits fraction ∧ whole ++ fraction ≠ [] := by
  have zeros : ∀ count, IsDigits (List.replicate count '0') := by
    intro count character member
    rw [List.eq_of_mem_replicate member]
    decide
  rw [positional]
  split
  · refine
      ⟨['0'], List.replicate (-place).toNat '0' ++ digits, ?_, zeros 1,
        (isDigits_append_iff _ _).mpr ⟨zeros _, areDigits⟩,
        List.cons_ne_nil _ _⟩
    rw [List.append_assoc]
    rfl
  · split
    · exact
        ⟨digits ++ List.replicate (place.toNat - digits.length) '0', ['0'],
          rfl, (isDigits_append_iff _ _).mpr ⟨areDigits, zeros _⟩, zeros 1,
          by simp⟩
    · refine
        ⟨digits.take place.toNat, digits.drop place.toNat, ?_, ?_, ?_, ?_⟩
      · rw [List.append_assoc]
        rfl
      · intro character member
        exact areDigits character (List.mem_of_mem_take member)
      · intro character member
        exact areDigits character (List.mem_of_mem_drop member)
      · rw [List.take_append_drop]
        exact nonempty

/-- The digits before the mark of a scientific text end in a digit. -/
theorem exists_leading_scientific
    (layout : DecimalLayout)
    {digits : Text}
    (areDigits : IsDigits digits)
    (nonempty : digits ≠ [])
    (place : Int) :
    ∃ leading,
      layout.scientific digits place =
          leading ++
            'e' :: (if place - 1 < 0 then '-' else '+') ::
              List.leftpad layout.exponentWidth '0'
                (Text.numeral (place - 1).natAbs) ∧
        IsMantissa leading ∧ leading.getLast?.any Char.isDigit = true := by
  match digits with
  | [] => exact absurd rfl nonempty
  | [digit] =>
      have isDigit := areDigits digit List.mem_cons_self
      exact
        ⟨[digit], rfl, isMantissa_of_isDigits areDigits nonempty, isDigit⟩
  | first :: second :: rest =>
      rw [IsDigits, List.forall_mem_cons] at areDigits
      have pieces : IsMantissa ([first] ++ pointed (some (second :: rest))) :=
        isMantissa_pieces
          (by simpa [IsDigits] using areDigits.1) areDigits.2 (by simp)
      refine ⟨first :: '.' :: second :: rest, rfl, pieces, ?_⟩
      have last :
          (first :: '.' :: second :: rest).getLast? =
            some ((second :: rest).getLast (List.cons_ne_nil _ _)) := by
        rw [List.getLast?_cons_cons, List.getLast?_cons_cons,
          List.getLast?_eq_some_getLast]
      rw [last]
      exact areDigits.2 _ (List.getLast_mem _)

/-- The text of a decimal fraction is laid out, and is no numeral. -/
theorem laid_render (decimal : Decimal) :
    Laid (standard.render decimal) ∧ ¬IsDigits (standard.render decimal) := by
  have areDigits := decimal.isDigits_significantDigits
  have nonempty := decimal.significantDigits_ne_nil
  rw [render]
  split
  · rcases exists_pieces_positional areDigits nonempty decimal.place with
      ⟨whole, fraction, text, wholeDigits, fractionDigits, written⟩
    rw [text]
    refine
      ⟨.positional (isMantissa_pieces wholeDigits fractionDigits written), ?_⟩
    intro isNumeral
    exact absurd (isNumeral '.' (by simp [pointed])) (by decide)
  · rename_i outside
    rcases
        exists_leading_scientific standard areDigits nonempty decimal.place with
      ⟨leading, text, isMantissa, ends⟩
    rw [text]
    have exponent : (decimal.place - 1).natAbs ≠ 0 := by
      intro zero
      apply outside
      rw [Int.natAbs_eq_zero.mp zero]
      decide
    rcases
        leftpad_numeral standard.exponentWidth (decimal.place - 1).natAbs with
      ⟨powerDigits, written, value⟩
    rw [← value] at exponent
    refine ⟨.scientific isMantissa ends ?_ written powerDigits exponent, ?_⟩
    · split <;> rfl
    · intro isNumeral
      exact absurd (isNumeral 'e' (by simp)) (by decide)

end DecimalLayout

namespace Binary64

/--
The display of a finite number is laid out, behind a minus if it is negative.
It is a row of digits exactly if the number is shown as an integer.
-/
theorem exists_laid_display (negative : Bool) (magnitude : Magnitude) :
    ∃ shown body,
      display (.finite negative magnitude) = signed shown body ∧
        Laid body ∧
          (magnitude.count ≠ 0 → shown = negative) ∧
            (IsDigits body ↔ integer? (.finite negative magnitude) ≠ none) := by
  cases whole : integer? (.finite negative magnitude) with
  | some integer =>
      rcases integer?_eq_some whole with
        ⟨sign, same, equal, counted, _, signs⟩
      cases equal
      refine
        ⟨decide (integer < 0), Text.numeral integer.natAbs, ?_,
          laid_numeral _, ?_, ?_⟩
      · rw [display, whole]
        rfl
      · intro nonzero
        refine (signs fun zero => nonzero ?_).symm
        rw [counted, zero, Nat.zero_mul]
      · exact
          iff_of_true (fun _ member => Text.isDigit_of_mem_numeral member)
            (Option.some_ne_none integer)
  | none =>
      have laid := DecimalLayout.laid_render magnitude.shortestDecimal
      refine
        ⟨negative, DecimalLayout.standard.render magnitude.shortestDecimal,
          ?_, laid.1, fun _ => rfl, iff_of_false laid.2 (fun some => some rfl)⟩
      rw [display, whole]
      rfl

/-- Behind its minus, a negative number is displayed as the positive one. -/
theorem exists_laid_display_negative
    {magnitude : Magnitude}
    (nonzero : magnitude.count ≠ 0) :
    ∃ body,
      display (.finite true magnitude) = '-' :: body ∧
        Laid body ∧
          ofLiteral? body = some (.finite false magnitude) ∧
            (IsDigits body ↔ integer? (.finite true magnitude) ≠ none) := by
  rcases exists_laid_display true magnitude with
    ⟨shown, body, display, laid, sign, digits⟩
  rw [sign nonzero] at display
  refine ⟨body, display, laid, ?_, digits⟩
  have read : ofLiteral? ('-' :: body) = some (.finite true magnitude) := by
    have back := ofLiteral?_display (rfl : isFinite (.finite true magnitude))
    rw [display, unsignedZero, isZero, decide_eq_false nonzero,
      if_neg Bool.false_ne_true] at back
    exact back
  rcases exists_ofLiteral?_signed laid.isUnsigned with ⟨decimal, denoted⟩
  have value : ofDecimal true decimal = .finite true magnitude :=
    Option.some.inj ((denoted true).symm.trans read)
  have opposite : ofDecimal false decimal = .finite false magnitude := by
    have flipped := neg_ofDecimal true decimal
    rw [value] at flipped
    exact flipped.symm
  rw [← opposite]
  exact denoted false

end Binary64

end PocketCalc
