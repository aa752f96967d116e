import PocketCalc.Proofs.Expression.LastOperand
import PocketCalc.Proofs.Expression.OperandEnd
import PocketCalc.Proofs.Keypad.SignChange
import PocketCalc.Proofs.Number.Layout

/-!
# Two changes of sign

A change of sign does not look at what stands in front of the digits that it
replaces.  It writes a minus there whatever the number is, as the digits have no
sign of their own, unless they are a zero.  So the second change finds the minus
of the first one, and writes another one behind it; or it finds the sign of an
exponent that the first one has written, and writes a minus behind that.  Both
are malformed.

The first change is malformed already where a sign stands in front of the
digits, and where the opposite number is too large to be shown as an integer
and has to be an exponent.
-/

namespace PocketCalc

open Literal Binary64

/-! ## The text of the opposite number -/

/-- A literal without sign denotes the number nearest to its fraction. -/
theorem exists_decimal_of_isUnsigned
    {text : Text}
    {value : Binary64}
    (isUnsigned : IsUnsigned text)
    (read : ofLiteral? text = some value) :
    ∃ decimal, value = ofDecimal false decimal := by
  rcases exists_ofLiteral?_signed isUnsigned with ⟨decimal, denoted⟩
  exact ⟨decimal, Option.some.inj (read.symm.trans (denoted false))⟩

/-- The opposite number of a positive one is shown behind a minus. -/
theorem exists_display_neg
    {decimal : Decimal}
    (nonzero : (ofDecimal false decimal).isZero = false) :
    ∃ body,
      (ofDecimal false decimal).neg.display = '-' :: body ∧
        ∃ character ∈ body,
          Operator.isSymbol (plainCharacter character) = false := by
  rcases ofDecimal_cases false decimal with value | ⟨magnitude, value⟩
  · rw [value]
    exact ⟨['i', 'n', 'f'], rfl, 'i', List.mem_cons_self, rfl⟩
  · rw [value] at nonzero ⊢
    rcases exists_laid_display_negative (of_decide_eq_false nonzero) with
      ⟨body, shown, laid, _⟩
    have joined := joined_of_isUnsigned laid.isUnsigned []
    rcases joined.2.exists_not_symbol with ⟨character, member, noSymbol⟩
    refine ⟨body, shown, character, member, ?_⟩
    rw [List.nil_append] at member
    rw [← sanitize_of_joined joined.1] at member
    rw [plainCharacter_of_mem_sanitize member]
    exact noSymbol

theorem exists_operator_of_isSign
    {sign : Char}
    (signed : isSign sign = true) :
    ∃ operator : Operator, plainCharacter sign = operator.symbol := by
  rw [isSign, Bool.or_eq_true, decide_eq_true_eq, decide_eq_true_eq] at signed
  rcases signed with rfl | rfl
  · exact ⟨.add, rfl⟩
  · exact ⟨.subtract, rfl⟩

/-- A minus behind a sign is malformed, unless the sign follows a digit or point. -/
theorem malformed_of_sign_minus
    {front rest : Text}
    {sign : Char}
    {operator : Operator}
    (spelled : plainCharacter sign = operator.symbol)
    (behind : ¬EndsInNumber front)
    (other :
      ∃ character ∈ rest,
        Operator.isSymbol (plainCharacter character) = false) :
    Malformed (front ++ sign :: '-' :: rest) := by
  rw [← endsInNumber_sanitize_iff] at behind
  have plain :
      sanitize (front ++ sign :: '-' :: rest) =
        sanitize front ++ operator.symbol :: '-' :: sanitize rest := by
    rw [sanitize_append, sanitize_cons, sanitize_cons, spelled]
    rfl
  apply malformed_of_stranded behind (by decide) plain
  intro symbols
  rcases other with ⟨character, member, noSymbol⟩
  have inside : character ∈ front ++ sign :: '-' :: rest :=
    List.mem_append_right _
      (List.mem_cons_of_mem _ (List.mem_cons_of_mem _ member))
  rw [symbols _ (List.mem_map_of_mem inside)] at noSymbol
  cases noSymbol

namespace State

theorem EndsIn.of_append
    {state : State}
    {before run : Text}
    {value : Binary64}
    (fresh : state.justEvaluated = false)
    (split : state.expression = before ++ run)
    (isMantissa : IsMantissa run)
    (behind : ¬EndsInNumber before)
    (read : ofLiteral? run = some value) :
    state.EndsIn before run value where
  fresh := fresh
  split := split
  trailing := by
    rcases isMantissa.2.2 with ⟨_, member, _⟩
    rw [split]
    exact
      trailingNumber?_append (List.ne_nil_of_mem member)
        (numberCharacters_of_isMantissa isMantissa) isMantissa.2.1 behind
  read := read

section EndsIn

variable
  {state : State}
  {before run : Text}
  {value : Binary64}
  (ends : state.EndsIn before run value)

include ends

theorem EndsIn.exists_decimal : ∃ decimal, value = ofDecimal false decimal :=
  exists_decimal_of_isUnsigned ends.isUnsigned ends.read

/-! ## A zero at the end -/

/-- A zero is replaced by the digit zero. -/
theorem EndsIn.toggleSign_of_isZero (isZero : value.isZero = true) :
    state.toggleSign.1 = { state with expression := before ++ ['0'] } := by
  have opposite : value.neg.isZero = true := by
    rcases exists_eq_zero isZero with ⟨negative, rfl⟩
    rfl
  rw [ends.toggleSign_eq, display_of_isZero opposite]

/-- A second change of sign leaves the digit zero. -/
theorem EndsIn.toggleSign_toggleSign_of_isZero
    (isZero : value.isZero = true)
    (behind : ¬EndsInNumber before) :
    state.toggleSign.1.toggleSign.1 = state.toggleSign.1 := by
  have written : ['0'] ≠ [] := List.cons_ne_nil _ _
  rw [ends.toggleSign_of_isZero isZero]
  have once :
      EndsIn { state with expression := before ++ ['0'] } before ['0'] _ :=
    .of_append ends.fresh rfl
      (isMantissa_of_isDigits isDigits_singleton_zero written) behind
      (ofLiteral?_digits isDigits_singleton_zero written)
  exact once.toggleSign_of_isZero rfl

/-! ## A number other than zero at the end -/

/-- Behind a sign that follows no digit or point, a change of sign is malformed. -/
theorem EndsIn.malformed_of_sign
    {front : Text}
    {sign : Char}
    {operator : Operator}
    (nonzero : value.isZero = false)
    (signed : before = front ++ [sign])
    (spelled : plainCharacter sign = operator.symbol)
    (behind : ¬EndsInNumber front) :
    Malformed state.toggleSign.1.expression := by
  rcases ends.exists_decimal with ⟨decimal, rfl⟩
  rcases exists_display_neg nonzero with ⟨body, shown, other⟩
  rw [ends.toggleSign_eq, shown, signed]
  dsimp only
  rw [List.append_assoc, List.singleton_append]
  exact malformed_of_sign_minus spelled behind other

/-- Such a finite number is positive, and a minus is written before its text. -/
theorem EndsIn.exists_body
    (finite : value.isFinite = true)
    (nonzero : value.isZero = false) :
    ∃ body,
      value.neg.display = '-' :: body ∧
        Laid body ∧
          ofLiteral? body = some value ∧
            (IsDigits body ↔ value.neg.integer? ≠ none) := by
  rcases ends.exists_decimal with ⟨decimal, rfl⟩
  rcases ofDecimal_cases false decimal with denoted | ⟨magnitude, denoted⟩
  · rw [denoted] at finite
    cases finite
  · rw [denoted] at nonzero ⊢
    exact exists_laid_display_negative (of_decide_eq_false nonzero)

/-- The second change of sign leaves a malformed expression. -/
theorem EndsIn.malformed_twice
    (finite : value.isFinite = true)
    (nonzero : value.isZero = false)
    (behind : ¬EndsInNumber before) :
    Malformed state.toggleSign.1.toggleSign.1.expression := by
  rcases ends.exists_body finite nonzero with ⟨body, shown, laid, read, _⟩
  rw [ends.toggleSign_eq, shown]
  cases laid with
  | positional isMantissa =>
      have minus : plainCharacter '-' = Operator.subtract.symbol := rfl
      have once :
          EndsIn { state with expression := before ++ '-' :: body }
            (before ++ ['-']) body value := by
        refine .of_append ends.fresh (by simp) isMantissa ?_ read
        exact not_endsInNumber_concat minus before
      exact once.malformed_of_sign nonzero rfl minus behind
  | @scientific leading power sign isMantissa _ signed written areDigits
      nonzeroPower =>
      rcases exists_operator_of_isSign signed with ⟨operator, spelled⟩
      have once :
          EndsIn
            { state with
              expression :=
                before ++ '-' :: (leading ++ 'e' :: sign :: power) }
            (before ++ '-' :: (leading ++ ['e']) ++ [sign]) power
            (ofDecimal false ⟨Text.numeralValue power, 0⟩) := by
        exact
          .of_append ends.fresh (by simp)
            (isMantissa_of_isDigits areDigits written)
            (not_endsInNumber_concat spelled _)
            (ofLiteral?_digits areDigits written)
      refine once.malformed_of_sign ?_ rfl spelled ?_
      · rw [← Bool.not_eq_true, isZero_ofDecimal_whole_iff]
        exact nonzeroPower
      · rw [← List.cons_append, ← List.append_assoc,
          endsInNumber_append_iff (List.cons_ne_nil _ _)]
        exact Bool.false_ne_true

/--
A sign that is stranded in front of the digits makes the change of sign
malformed; no operand begins behind it, and it is no exponent mark.
-/
theorem EndsIn.malformed_of_stranded
    {text : Text}
    {operator : Operator}
    (nonzero : value.isZero = false)
    (split : sanitize before = text ++ [operator.symbol])
    (behind : ¬EndsInNumber text) :
    Malformed state.toggleSign.1.expression ∧
      ¬AtOperandStart before ∧
        before.getLast?.any isExponentMark = false := by
  rcases exists_concat_of_sanitize_eq split with
    ⟨front, sign, rfl, rfl, spelled⟩
  rw [endsInNumber_sanitize_iff] at behind
  refine ⟨ends.malformed_of_sign nonzero rfl spelled behind, ?_, ?_⟩
  · rw [atOperandStart_concat_iff]
    rintro ⟨_, number⟩
    exact behind number
  · rw [List.getLast?_concat, Option.any_some, ← isExponentMark_plainCharacter,
      spelled, operator.symbol_plain.2]

end EndsIn

/-! ## The number at the end of an expression that comes to a value -/

/--
The digits and points at the end of an expression that comes to a value: what
opens the last operand, and what of this operand stands in front of them.
-/
structure LastNumber
    (state : State)
    (before run : Text)
    (value number : Binary64)
    (lead front : Text)
    (pending : Option (Binary64 × Operator))
    (last : Binary64) : Prop
    extends state.EndsIn before run value where
  opens : Opens lead pending
  plain : sanitize before = sanitize lead ++ front
  ending : OperandEnd run front
  denoted : ofLiteral? (front ++ run) = some last
  finished : finish pending last = .ok (.value number)

theorem EndsIn.exists_lastNumber
    {state : State}
    {before run : Text}
    {value number : Binary64}
    (ends : state.EndsIn before run value)
    (comes : ComesTo state.expression number) :
    ∃ lead front pending last,
      state.LastNumber before run value number lead front pending last := by
  rcases comes.exists_opens with
    ⟨lead, pending, operand, last, opens, plain, isOperand, denoted, finished⟩
  rcases exists_operandEnd isOperand with ⟨front, digits, rfl, ending⟩
  rcases ending.isRun with ⟨nonempty, characters, points⟩
  have behind : ¬EndsInNumber (sanitize lead ++ front) := by
    apply ending.not_endsInNumber
    rw [endsInNumber_sanitize_iff]
    exact opens.not_endsInNumber
  rw [← List.append_assoc] at plain
  have found := trailingNumber?_append nonempty characters points behind
  rw [← plain, trailingNumber?_sanitize, ends.trailing] at found
  cases found
  rw [ends.sanitize_expression] at plain
  exact
    ⟨lead, front, pending, last,
      { ends with
        opens := opens
        plain := List.append_cancel_right plain
        ending := ending
        denoted := denoted
        finished := finished }⟩

section LastNumber

variable
  {state : State}
  {before run lead front : Text}
  {value number last : Binary64}
  {pending : Option (Binary64 × Operator)}
  (place :
    state.LastNumber before run value number lead front pending last)

include place

theorem LastNumber.not_endsInNumber : ¬EndsInNumber before := by
  rw [← endsInNumber_sanitize_iff, place.plain]
  apply place.ending.not_endsInNumber
  rw [endsInNumber_sanitize_iff]
  exact place.opens.not_endsInNumber

/-- With another operand at its end, the expression goes on from the same value. -/
theorem LastNumber.evaluate_eq
    {text : Text}
    {other : Binary64}
    {outcome : Outcome}
    (noGlyph : sanitize text = text)
    (isOperand : IsOperand (front ++ text))
    (read : ofLiteral? (front ++ text) = some other)
    (finished : finish pending other = .ok outcome) :
    ∃ notices, evaluate (before ++ text) = .ok (outcome, notices) := by
  refine place.opens.evaluate_eq ?_ isOperand read finished
  rw [sanitize_append, place.plain, noGlyph, List.append_assoc]

/-- A zero at the end can lose its digits: the value stays. -/
theorem LastNumber.evaluate_of_isZero (isZero : value.isZero = true) :
    ∃ notices,
      evaluate state.toggleSign.1.expression =
        .ok (.value number, notices) := by
  rw [place.toggleSign_of_isZero isZero]
  apply
    place.evaluate_eq rfl
      (place.ending.isOperand_digits isDigits_singleton_zero (by simp)) ?_
      place.finished
  rw [place.ending.ofLiteral?_zero place.read isZero]
  exact place.denoted

/-- Where an operand begins, the opposite number is one. -/
theorem LastNumber.not_malformed_of_start
    (finite : value.isFinite = true)
    (nonzero : value.isZero = false)
    (start : front = []) :
    AtOperandStart before ∧ ¬Malformed state.toggleSign.1.expression := by
  subst start
  constructor
  · have plain := place.plain
    rw [List.append_nil] at plain
    rw [← atOperandStart_sanitize_iff, plain, atOperandStart_sanitize_iff]
    exact place.opens.atOperandStart
  · have same : value = last :=
      Option.some.inj (place.read.symm.trans place.denoted)
    subst same
    rw [← isFinite_neg] at finite
    have isOperand := isOperand_display finite
    have read := ofLiteral?_display finite
    rw [unsignedZero_neg, nonzero, if_neg Bool.false_ne_true] at read
    rcases
        exists_finish_of_value place.finished (ofLiteral?_ne_nan place.read)
          (fun isZero => absurd (nonzero.symm.trans isZero) (by decide)) with
      ⟨outcome, finished, noMalformed⟩
    rw [place.toggleSign_eq]
    rcases
        place.evaluate_eq
          (sanitize_of_joined (joined_of_isOperand isOperand).1) isOperand read
          finished with
      ⟨notices, evaluated⟩
    exact not_malformed_of_evaluate evaluated noMalformed

/-- Behind an exponent mark, the opposite number has to be shown as an integer. -/
theorem LastNumber.malformed_iff_of_exponent
    {negative : Bool}
    {leading : Text}
    {mark : Char}
    (finite : value.isFinite = true)
    (nonzero : value.isZero = false)
    (isMantissa : IsMantissa leading)
    (marked : isExponentMark mark = true)
    (areDigits : IsDigits run)
    (written : run ≠ [])
    (split : front = signed negative (leading ++ [mark])) :
    Malformed state.toggleSign.1.expression ↔ value.neg.integer? = none := by
  subst split
  rcases place.exists_body finite nonzero with ⟨body, shown, laid, _, digits⟩
  have bodyWritten : body ≠ [] :=
    (joined_of_isUnsigned laid.isUnsigned []).2.ne_nil
  have noGlyph : sanitize ('-' :: body) = '-' :: body :=
    sanitize_of_joined
      (joined_of_isOperand (Or.inr ⟨body, rfl, laid.isUnsigned⟩)).1
  have joinedTail := signed_append_mark negative leading mark
  have isOperand_iff :
      IsOperand (signed negative (leading ++ mark :: '-' :: body)) ↔
        IsDigits body := by
    rw [isOperand_signed_iff isMantissa (isExponentMark_head marked _), Ne,
      exponent?_minus_eq_none_iff marked bodyWritten, not_not]
  rw [place.toggleSign_eq, shown]
  by_cases bodyDigits : IsDigits body
  · refine iff_of_false ?_ (digits.mp bodyDigits)
    have denoted := place.denoted
    rw [joinedTail] at denoted
    rcases
        exists_ofLiteral?_minus_exponent isMantissa marked areDigits written
          bodyDigits bodyWritten denoted with
      ⟨other, read, zero⟩
    rcases
        exists_finish_of_value place.finished (ofLiteral?_ne_nan denoted)
          zero with
      ⟨outcome, finished, noMalformed⟩
    have isOperand := isOperand_iff.mpr bodyDigits
    rw [← joinedTail] at isOperand read
    rcases place.evaluate_eq noGlyph isOperand read finished with
      ⟨notices, evaluated⟩
    exact not_malformed_of_evaluate evaluated noMalformed
  · refine iff_of_true ?_ (not_not.mp fun some => bodyDigits (digits.mpr some))
    rcases joined_exponent_minus isMantissa marked laid.isUnsigned negative with
      ⟨joined, ends⟩
    refine
      place.opens.malformed ?_ joined ends fun isOperand =>
        bodyDigits (isOperand_iff.mp isOperand)
    rw [sanitize_append, place.plain, noGlyph, List.append_assoc, joinedTail]

/-- No operand begins behind an exponent mark. -/
theorem LastNumber.mark_of_exponent
    {negative : Bool}
    {leading : Text}
    {mark : Char}
    (marked : isExponentMark mark = true)
    (split : front = signed negative (leading ++ [mark])) :
    ¬AtOperandStart before ∧
      before.getLast?.any isExponentMark = true := by
  have plain := place.plain
  rw [split, signed_append, ← List.append_assoc] at plain
  rcases exists_concat_of_sanitize_eq plain with
    ⟨text, character, rfl, _, spelled⟩
  rw [← spelled, isExponentMark_plainCharacter] at marked
  constructor
  · rw [atOperandStart_concat_iff]
    rintro ⟨⟨operator, symbol⟩, _⟩
    rw [← isExponentMark_plainCharacter, symbol,
      operator.symbol_plain.2] at marked
    cases marked
  · rw [List.getLast?_concat, Option.any_some]
    exact marked

/--
The first change of sign leaves a malformed expression unless an operand begins
at the digits, or they follow an exponent mark and the opposite number is shown
as an integer.
-/
theorem LastNumber.malformed_once_iff
    (finite : value.isFinite = true)
    (nonzero : value.isZero = false) :
    Malformed state.toggleSign.1.expression ↔
      ¬AtOperandStart before ∧
        ¬(before.getLast?.any isExponentMark = true ∧
          value.neg.integer? ≠ none) := by
  have leadBehind : ¬EndsInNumber (sanitize lead) := by
    rw [endsInNumber_sanitize_iff]
    exact place.opens.not_endsInNumber
  have stranded
      {text : Text}
      (operator : Operator)
      (split : sanitize before = text ++ [operator.symbol])
      (behind : ¬EndsInNumber text) :
      Malformed state.toggleSign.1.expression ↔
        ¬AtOperandStart before ∧
          ¬(before.getLast?.any isExponentMark = true ∧
            value.neg.integer? ≠ none) := by
    rcases place.malformed_of_stranded nonzero split behind with
      ⟨malformed, noStart, noMark⟩
    refine iff_of_true malformed ⟨noStart, ?_⟩
    rintro ⟨mark, _⟩
    rw [noMark] at mark
    cases mark
  have plain := place.plain
  generalize whole : front = part at plain
  have ending := place.ending
  rw [whole] at ending
  cases ending with
  | mantissa negative isMantissa =>
      cases negative with
      | false =>
          rcases place.not_malformed_of_start finite nonzero whole with
            ⟨start, notMalformed⟩
          exact iff_of_false notMalformed fun holds => holds.1 start
      | true => exact stranded .subtract plain leadBehind
  | @exponent negative leading sign mark isMantissa marked signs areDigits
      written =>
      have markBehind :
          ¬EndsInNumber
            (sanitize lead ++ signed negative (leading ++ [mark])) := by
        rw [signed_append, ← List.append_assoc]
        exact not_endsInNumber_mark marked _
      rw [← signed_append_mark, ← List.append_assoc] at plain
      rcases signs with rfl | rfl | rfl
      · rcases place.mark_of_exponent marked whole with ⟨noStart, isMark⟩
        rw [place.malformed_iff_of_exponent finite nonzero isMantissa marked
            areDigits written whole,
          and_iff_right noStart, not_and, not_not]
        exact ⟨fun none _ => none, fun holds => holds isMark⟩
      · exact stranded .add plain markBehind
      · exact stranded .subtract plain markBehind

end LastNumber

end State

/--
A second change of sign takes the first one back for a zero only.  If an
expression holds a number and comes to a value, and the digits and points at its
end are a zero, both changes leave an expression with the same value.  If they
are another finite number, the second change leaves a malformed expression; the
first one does so too, unless an operand begins at the digits, or an exponent
mark stands in front of them and the opposite number is shown as an integer.
-/
theorem second_sign_change_restores_zeros_only
    {state : State}
    {run : Text}
    {stream : TokenStream}
    {value number : Binary64}
    {notices : List Notice}
    (fresh : state.justEvaluated = false)
    (tokenized : tokenize (sanitize state.expression) = .ok stream)
    (someNumber : stream.numbers ≠ [])
    (evaluated : evaluate state.expression = .ok (.value number, notices))
    (trailing : trailingNumber? state.expression = some run)
    (read : ofLiteral? run = some value)
    (finite : value.isFinite = true) :
    let once : State := state.toggleSign.1
    let twice : State := once.toggleSign.1
    ∃ before,
      state.expression = before ++ run ∧
        (value.isZero = true →
          twice = once ∧
            ∃ others,
              evaluate once.expression = .ok (.value number, others)) ∧
          (value.isZero = false →
            Malformed twice.expression ∧
              (Malformed once.expression ↔
                ¬AtOperandStart before ∧
                  ¬(before.getLast?.any isExponentMark = true ∧
                    value.neg.integer? ≠ none))) := by
  intro once twice
  rcases exists_append_of_trailingNumber? trailing with ⟨before, split, _⟩
  have ends : state.EndsIn before run value := ⟨fresh, split, trailing, read⟩
  rcases
      ends.exists_lastNumber
        (comesTo_of_evaluate tokenized someNumber evaluated) with
    ⟨lead, front, pending, last, place⟩
  refine ⟨before, split, ?_, ?_⟩
  · intro isZero
    exact
      ⟨ends.toggleSign_toggleSign_of_isZero isZero place.not_endsInNumber,
        place.evaluate_of_isZero isZero⟩
  · intro nonzero
    exact
      ⟨ends.malformed_twice finite nonzero place.not_endsInNumber,
        place.malformed_once_iff finite nonzero⟩

/-- The sum 12+7 comes to a value, and 12+--7 is malformed. -/
theorem second_sign_change_of_twelve_plus_seven :
    let state : State := { expression := "12+7" }
    let seven : Binary64 := .ofDecimal false ⟨7, 0⟩
    ∃ stream notices,
      tokenize (sanitize state.expression) = .ok stream ∧
        stream.numbers ≠ [] ∧
          evaluate state.expression =
              .ok (.value (.ofDecimal false ⟨19, 0⟩), notices) ∧
            trailingNumber? state.expression = some "7" ∧
              ofLiteral? "7" = some seven ∧
                seven.isFinite = true ∧
                  Malformed state.toggleSign.1.toggleSign.1.expression := by
  intro state seven
  have sum :
      (evaluate state.expression).toOption.map (·.1) =
        some (.value (.ofDecimal false ⟨19, 0⟩)) := by
    decide +kernel
  have numbers :
      (tokenize (sanitize state.expression)).toOption.any
        (!·.numbers.isEmpty) = true := by
    decide +kernel
  have finite : seven.isFinite = true := by decide +kernel
  have nonzero : seven.isZero = false := by decide +kernel
  rcases exists_notices_of_evaluate sum with ⟨notices, evaluated⟩
  rcases exists_numbers_of_tokenize numbers with
    ⟨stream, tokenized, someNumber⟩
  rcases
      second_sign_change_restores_zeros_only rfl tokenized someNumber evaluated
        (rfl : trailingNumber? state.expression = some "7")
        (rfl : ofLiteral? "7" = some seven) finite with
    ⟨before, _, _, others⟩
  exact
    ⟨stream, notices, tokenized, someNumber, evaluated, rfl, rfl, finite,
      (others nonzero).1⟩

/--
Changes of sign spoil expressions that come to a value: 12+7 becomes 12+-7 and
12+--7, and the displayed number 1e-05 becomes 1e--5 at once.
-/
theorem sign_changes_spoil_expressions :
    let sum : State := { expression := "12+7" }
    let small : State := { expression := "1e-05" }
    (∀ state ∈ [sum, small],
        state.justEvaluated = false ∧
          (∃ stream,
            tokenize (sanitize state.expression) = .ok stream ∧
              stream.numbers ≠ []) ∧
            (∃ number notices,
              evaluate state.expression = .ok (.value number, notices)) ∧
              ((trailingNumber? state.expression).bind ofLiteral?).any
                isFinite = true) ∧
      sum.toggleSign.1.toggleSign.1.expression = "12+--7" ∧
        Malformed sum.toggleSign.1.toggleSign.1.expression ∧
          small.toggleSign.1.expression = "1e--5" ∧
            Malformed small.toggleSign.1.expression := by
  intro sum small
  have nineteen :
      (evaluate sum.expression).toOption.map (·.1) =
        some (.value (.ofDecimal false ⟨19, 0⟩)) := by
    decide +kernel
  have same :
      (evaluate small.expression).toOption.map (·.1) =
        some (.value (.ofDecimal false ⟨1, -5⟩)) := by
    decide +kernel
  have numbers :
      ∀ state ∈ [sum, small],
        (tokenize (sanitize state.expression)).toOption.any
          (!·.numbers.isEmpty) = true := by
    decide +kernel
  have finite :
      ∀ state ∈ [sum, small],
        ((trailingNumber? state.expression).bind ofLiteral?).any
          isFinite = true := by
    decide +kernel
  have twice : sum.toggleSign.1.toggleSign.1.expression = "12+--7" := by
    decide +kernel
  have once : small.toggleSign.1.expression = "1e--5" := by decide +kernel
  have malformedSum : Malformed "12+--7" := by decide +kernel
  have malformedSmall : Malformed "1e--5" := by decide +kernel
  refine ⟨?_, twice, ?_, once, ?_⟩
  · intro state member
    have someNumber := exists_numbers_of_tokenize (numbers state member)
    have finiteRun := finite state member
    rw [List.mem_cons, List.mem_singleton] at member
    rcases member with rfl | rfl
    · exact
        ⟨rfl, someNumber, ⟨_, exists_notices_of_evaluate nineteen⟩, finiteRun⟩
    · exact
        ⟨rfl, someNumber, ⟨_, exists_notices_of_evaluate same⟩, finiteRun⟩
  · rw [twice]
    exact malformedSum
  · rw [once]
    exact malformedSmall

end PocketCalc
