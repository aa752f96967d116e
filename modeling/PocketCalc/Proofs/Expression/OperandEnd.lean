import PocketCalc.Proofs.Expression.Reading
import PocketCalc.Proofs.Number.ReadBack

/-!
# The digits at the end of an operand

The digits and points at the end of an operand are its whole mantissa or the
digits of its exponent.  In front of them stands a minus or nothing, or a
mantissa with an exponent mark and perhaps a sign.  Zero in the place of a zero
leaves the number as it is, in a mantissa and in an exponent.
-/

namespace PocketCalc

open Literal

namespace Binary64

theorem signed_append (negative : Bool) (front rest : Text) :
    signed negative (front ++ rest) = signed negative front ++ rest := by
  cases negative <;> rfl

theorem signed_append_mark
    (negative : Bool)
    (leading : Text)
    (mark : Char)
    (rest : Text) :
    signed negative (leading ++ [mark]) ++ rest =
      signed negative (leading ++ mark :: rest) := by
  rw [← signed_append, List.append_assoc, List.singleton_append]

/-- Every literal denotes a number. -/
theorem ofLiteral?_ne_nan
    {text : Text}
    {number : Binary64}
    (read : ofLiteral? text = some number) :
    number ≠ .nan := by
  rcases Option.map_eq_some_iff.mp read with ⟨literal, _, rfl⟩
  exact ofDecimal_ne_nan literal.negative literal.decimal

/-- A mantissa has digits and places, whatever sign and exponent it has. -/
theorem exists_ofLiteral?_of_isMantissa
    {mantissa : Text}
    (isMantissa : IsMantissa mantissa) :
    ∃ (digits places : Nat),
      ∀ negative exponent,
        (∀ character ∈ exponent.head?, isExponentMark character = true) →
          ofLiteral? (signed negative (mantissa ++ exponent)) =
            (exponent? exponent).map fun power =>
              ofDecimal negative ⟨digits, power - places⟩ := by
  rcases exists_decimal?_of_isMantissa isMantissa with
    ⟨digits, places, pieces⟩
  refine ⟨digits, places, fun negative exponent marked => ?_⟩
  have read :=
    pieces exponent fun character first =>
      stop_of_isExponentMark (marked character first)
  have opened :
      splitSign (signed negative (mantissa ++ exponent)) =
        (negative, mantissa ++ exponent) := by
    cases negative with
    | false => exact splitSign_of_unsigned (isMantissa.not_isSign_head _)
    | true => rfl
  rw [ofLiteral?, read?_eq, opened, read, Option.map_map, Option.map_map]
  rfl

/-- A mantissa and an exponent are an operand if the exponent can be read. -/
theorem isOperand_signed_iff
    {mantissa exponent : Text}
    (isMantissa : IsMantissa mantissa)
    (marked : ∀ character ∈ exponent.head?, isExponentMark character = true)
    (negative : Bool) :
    IsOperand (signed negative (mantissa ++ exponent)) ↔
      exponent? exponent ≠ none := by
  rcases exists_ofLiteral?_of_isMantissa isMantissa with
    ⟨digits, places, read⟩
  have noPlus : (signed negative (mantissa ++ exponent)).head? ≠ some '+' := by
    cases negative with
    | true => nofun
    | false =>
        intro plus
        exact
          absurd (isMantissa.not_isSign_head exponent '+' plus) (by decide)
  rw [isOperand_iff, read negative exponent marked, and_iff_right noPlus]
  cases exponent? exponent with
  | none => simp
  | some power => simp

/-- Digits are read as a whole number. -/
theorem ofLiteral?_digits
    {digits : Text}
    (areDigits : IsDigits digits)
    (nonempty : digits ≠ []) :
    ofLiteral? digits =
      some (ofDecimal false ⟨Text.numeralValue digits, 0⟩) := by
  have read :=
    decimal?_pieces digits none areDigits (fun _ member => nomatch member)
      (by simpa using nonempty) exponent?_nil
  rw [pointed, List.append_nil, List.append_nil, Option.getD_none,
    List.append_nil] at read
  exact ofLiteral?_signed read false

/-- An operand that is nearest to zero stays so with a negative exponent. -/
theorem exists_ofLiteral?_minus_exponent
    {negative : Bool}
    {leading run body : Text}
    {mark : Char}
    {last : Binary64}
    (isMantissa : IsMantissa leading)
    (marked : isExponentMark mark = true)
    (areDigits : IsDigits run)
    (written : run ≠ [])
    (bodyDigits : IsDigits body)
    (bodyWritten : body ≠ [])
    (read :
      ofLiteral? (signed negative (leading ++ mark :: run)) = some last) :
    ∃ other,
      ofLiteral? (signed negative (leading ++ mark :: '-' :: body)) =
          some other ∧
        (last.isZero = true → other.isZero = true) := by
  rcases exists_ofLiteral?_of_isMantissa isMantissa with
    ⟨digits, places, readAll⟩
  have start := isExponentMark_head marked
  have power :=
    exponent?_parts marked (Or.inl rfl) written areDigits
  rw [List.nil_append, if_neg (by simp)] at power
  rw [readAll negative _ (start _), power, Option.map_some] at read
  refine
    ⟨ofDecimal negative ⟨digits, -(Text.numeralValue body : Int) - places⟩,
      ?_, ?_⟩
  · rw [readAll negative _ (start _),
      exponent?_signed marked (by decide) bodyWritten bodyDigits]
    rfl
  · intro isZero
    rw [← Option.some.inj read] at isZero
    exact isZero_ofDecimal_of_le isZero (by omega)

end Binary64

open Binary64

theorem not_endsInNumber_mark
    {mark : Char}
    (marked : isExponentMark mark = true)
    (text : Text) :
    ¬EndsInNumber (text ++ [mark]) := by
  have stop := stop_of_isExponentMark marked
  rw [endsInNumber_append_iff (List.cons_ne_nil _ _)]
  simp [EndsInNumber, isNumberCharacter, stop.1, stop.2]

/--
The digits and points at the end of an operand, with the part of the operand in
front of them.
-/
inductive OperandEnd (run : Text) : Text → Prop where
  /-- The whole mantissa, perhaps behind a minus. -/
  | mantissa
      (negative : Bool)
      (isMantissa : IsMantissa run) :
      OperandEnd run (signed negative [])
  /-- The digits of an exponent. -/
  | exponent
      (negative : Bool)
      {leading sign : Text}
      {mark : Char}
      (isMantissa : IsMantissa leading)
      (marked : isExponentMark mark = true)
      (signs : sign = [] ∨ sign = ['+'] ∨ sign = ['-'])
      (areDigits : IsDigits run)
      (written : run ≠ []) :
      OperandEnd run (signed negative (leading ++ mark :: sign))

/-- Every operand ends in this way. -/
theorem exists_operandEnd
    {operand : Text}
    (isOperand : IsOperand operand) :
    ∃ front run, operand = front ++ run ∧ OperandEnd run front := by
  have shape :
      ∃ negative unsigned,
        operand = signed negative unsigned ∧ IsUnsigned unsigned := by
    rcases isOperand with isUnsigned | ⟨unsigned, rfl, isUnsigned⟩
    · exact ⟨false, operand, rfl, isUnsigned⟩
    · exact ⟨true, unsigned, rfl, isUnsigned⟩
  rcases shape with ⟨negative, _, rfl, mantissa, _, rfl, isMantissa, exponent⟩
  rcases exponent with
    rfl | ⟨mark, sign, digits, rfl, marked, signs, written, areDigits⟩
  · refine ⟨signed negative [], mantissa, ?_, .mantissa negative isMantissa⟩
    rw [List.append_nil, ← signed_append, List.nil_append]
  · refine
      ⟨signed negative (mantissa ++ mark :: sign), digits, ?_,
        .exponent negative isMantissa marked signs areDigits written⟩
    rw [← signed_append, List.append_assoc, List.cons_append]

namespace OperandEnd

variable
  {run front : Text}
  (ending : OperandEnd run front)

include ending

/-- What ends an operand is what a search from the end finds. -/
theorem isRun :
    run ≠ [] ∧
      (∀ character ∈ run, isNumberCharacter character = true) ∧
        run.count '.' ≤ 1 := by
  cases ending with
  | mantissa negative isMantissa =>
      rcases isMantissa.2.2 with ⟨_, member, _⟩
      exact
        ⟨List.ne_nil_of_mem member, numberCharacters_of_isMantissa isMantissa,
          isMantissa.2.1⟩
  | exponent negative isMantissa marked signs areDigits written =>
      have digits := isMantissa_of_isDigits areDigits written
      exact ⟨written, numberCharacters_of_isMantissa digits, digits.2.1⟩

/-- In front of it stands no digit and no point. -/
theorem not_endsInNumber
    {lead : Text}
    (behind : ¬EndsInNumber lead) :
    ¬EndsInNumber (lead ++ front) := by
  cases ending with
  | mantissa negative isMantissa =>
      cases negative with
      | false => rwa [signed, if_neg Bool.false_ne_true, List.append_nil]
      | true =>
          rw [signed, if_pos rfl, endsInNumber_append_iff (by simp)]
          exact Bool.false_ne_true
  | @exponent negative leading sign mark isMantissa marked signs _ _ =>
      rw [signed_append, ← List.append_assoc]
      rcases signs with rfl | rfl | rfl
      · exact not_endsInNumber_mark marked _
      · rw [endsInNumber_append_iff (List.cons_ne_nil _ _)]
        exact Bool.false_ne_true
      · rw [endsInNumber_append_iff (List.cons_ne_nil _ _)]
        exact Bool.false_ne_true

/-- Any digits can stand in its place. -/
theorem isOperand_digits
    {digits : Text}
    (areDigits : IsDigits digits)
    (written : digits ≠ []) :
    IsOperand (front ++ digits) := by
  cases ending with
  | mantissa negative isMantissa =>
      rw [← signed_append, List.nil_append]
      exact
        isOperand_signed
          (isMantissa_of_isDigits areDigits written).isUnsigned negative
  | exponent negative isMantissa marked signs _ _ =>
      rw [← signed_append, List.append_assoc, List.cons_append,
        isOperand_signed_iff isMantissa (isExponentMark_head marked _),
        exponent?_parts marked signs written areDigits]
      nofun

/-- Zero in the place of a zero makes no other number. -/
theorem ofLiteral?_zero
    {value : Binary64}
    (read : ofLiteral? run = some value)
    (isZero : value.isZero = true) :
    ofLiteral? (front ++ ['0']) = ofLiteral? (front ++ run) := by
  cases ending with
  | mantissa negative isMantissa =>
      rcases exists_ofLiteral?_signed isMantissa.isUnsigned with
        ⟨decimal, denoted⟩
      have zeroRead : decimal? ['0'] = some ⟨0, 0⟩ := decimal?_numeral 0
      rw [Option.some.inj (read.symm.trans (denoted false))] at isZero
      rw [← signed_append, ← signed_append, List.nil_append, List.nil_append,
        ofLiteral?_signed zeroRead, denoted, ofDecimal_zero,
        ofDecimal_eq_zero isZero]
  | @exponent negative leading sign mark isMantissa marked signs areDigits
      written =>
      rcases exists_ofLiteral?_of_isMantissa isMantissa with
        ⟨digits, places, readAll⟩
      have nothing : Text.numeralValue run = 0 := by
        rw [ofLiteral?_digits areDigits written] at read
        rw [← Option.some.inj read] at isZero
        exact (isZero_ofDecimal_whole_iff _ _).mp isZero
      have start (rest : Text) := isExponentMark_head marked (sign ++ rest)
      rw [← signed_append, ← signed_append, List.append_assoc,
        List.append_assoc, List.cons_append, List.cons_append,
        readAll negative _ (start run), readAll negative _ (start ['0']),
        exponent?_parts marked signs written areDigits,
        exponent?_parts marked signs (List.cons_ne_nil _ _)
          isDigits_singleton_zero,
        nothing]
      rfl

end OperandEnd

/-- A minus and a literal behind an exponent mark are read as one operand. -/
theorem joined_exponent_minus
    {leading body : Text}
    {mark : Char}
    (isMantissa : IsMantissa leading)
    (marked : isExponentMark mark = true)
    (isUnsigned : IsUnsigned body)
    (negative : Bool) :
    Joined [] (signed negative (leading ++ mark :: '-' :: body)) ∧
      EndsInNumber (signed negative (leading ++ mark :: '-' :: body)) := by
  rcases joined_of_isOperand
      (isOperand_signed isMantissa.isUnsigned negative) with
    ⟨joined, ends⟩
  rw [signed_append]
  constructor
  · refine joined.append ⟨?_, ?_, ?_⟩
    · rw [EndsInNumber] at ends
      simp [joins, marked, ends]
    · simp [joins, isSign, marked]
    · exact (joined_of_isUnsigned isUnsigned _).1
  · have ends := (joined_of_isUnsigned isUnsigned [mark, '-']).2
    exact (endsInNumber_append_iff ends.ne_nil _).mpr ends

end PocketCalc
