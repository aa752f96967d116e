import PocketCalc.Proofs.Expression.Classification
import PocketCalc.Proofs.Number.SignOfZero

/-!
# Expressions that go on

Behind a digit or point an operator symbol is an operator and nothing else, so
cutting a text there gives what cutting its two parts gives.  An expression
that ends in a number and goes on with an operator is therefore read part by
part, and a chain of operations that came to its value goes on from there.

In place of the first part any text can stand that is read as its value, the
sign of a zero aside: whatever follows, the outcomes are alike.
-/

namespace PocketCalc

namespace Reading

/-- A reading, an operator, and another reading after it. -/
def followedBy
    (reading : Reading)
    (operator : Operator)
    (following : Reading) :
    Reading where
  first := reading.first
  rest := reading.rest ++ (operator, following.first) :: following.rest

theorem text_followedBy
    (reading : Reading)
    (operator : Operator)
    (following : Reading) :
    (reading.followedBy operator following).text =
      reading.text ++ operator.symbol :: following.text := by
  simp [followedBy, text]

theorem complete_followedBy_iff
    (reading : Reading)
    (operator : Operator)
    (following : Reading) :
    (reading.followedBy operator following).Complete ↔
      reading.Complete ∧ following.Complete := by
  simp only [Complete, followedBy, operands, List.map_append, List.map_cons,
    List.forall_mem_cons, List.forall_mem_append, and_assoc]

/-- A complete reading ends with its last literal. -/
theorem Complete.endsInNumber
    {reading : Reading}
    (complete : reading.Complete) :
    EndsInNumber reading.text := by
  rcases reading with ⟨first, rest⟩
  induction rest generalizing first with
  | nil =>
      rw [text_single]
      exact (joined_of_isOperand (complete first List.mem_cons_self)).2
  | cons pair rest ih =>
      rcases pair with ⟨operator, operand⟩
      have ends := ih operand ((complete_cons_iff _ _ _ _).mp complete).2
      rw [text_cons, ← List.singleton_append, ← List.append_assoc,
        endsInNumber_append_iff ends.ne_nil]
      exact ends

/-- What a reading and its continuation mean, they mean together. -/
theorem Means.followedBy
    {reading following : Reading}
    {chain later : OperatorChain}
    (means : reading.Means chain)
    (meansLater : following.Means later)
    (operator : Operator) :
    (reading.followedBy operator following).Means
      ⟨chain.first,
        chain.rest ++ (operator, later.first) :: later.rest⟩ := by
  refine ⟨means.1, ?_⟩
  simp only [Reading.followedBy, List.map_append, List.map_cons]
  rw [means.2, meansLater.1, meansLater.2]

end Reading

/-- A text can be cut at an operator behind a digit or point. -/
theorem cut_append_symbol
    {kept before : Text}
    (ends : EndsInNumber (kept ++ before))
    (operator : Operator)
    (after : Text) :
    cut kept (before ++ operator.symbol :: after) =
      (cut kept before).bind fun reading =>
        (cut [] after).map fun following =>
          reading.followedBy operator following := by
  induction before generalizing kept with
  | nil =>
      rw [List.append_nil] at ends
      rw [List.nil_append,
        cut_of_operator (joins_symbol_of_endsInNumber ends operator _)]
      rfl
  | cons character before ih =>
      rw [endsInNumber_append_iff (List.cons_ne_nil _ _)] at ends
      have lastJoins :
          before = [] → ∀ next, joins kept character next = true := by
        rintro rfl next
        have number : isNumberCharacter character = true := ends
        simp [joins, number]
      have heads :
          joins kept character (before ++ operator.symbol :: after).head? =
            joins kept character before.head? := by
        cases before with
        | cons next before => rfl
        | nil => rw [lastJoins rfl, lastJoins rfl]
      rw [List.cons_append]
      cases joined : joins kept character before.head? with
      | true =>
          rw [cut_of_joins (heads.trans joined), cut_of_joins joined]
          apply ih
          rw [List.append_assoc, List.singleton_append]
          exact (endsInNumber_append_iff (List.cons_ne_nil _ _) kept).mpr ends
      | false =>
          have nonempty : before ≠ [] := by
            intro empty
            rw [lastJoins empty] at joined
            cases joined
          have endsRest : EndsInNumber ([] ++ before) :=
            (endsInNumber_append_iff nonempty [character]).mp ends
          rw [cut, heads, joined, if_neg Bool.false_ne_true, cut, joined,
            if_neg Bool.false_ne_true]
          cases named : Operator.ofSymbol? [character] with
          | none => rfl
          | some sign =>
              dsimp only
              rw [ih endsRest]
              cases cut [] before <;> cases cut [] after <;> rfl

/-- What a complete reading goes on with is read by itself. -/
theorem complete_continued_iff
    {reading : Reading}
    (complete : reading.Complete)
    (operator : Operator)
    (after : Text) :
    (∃ whole : Reading,
        whole.Complete ∧
          whole.text = reading.text ++ operator.symbol :: after) ↔
      ∃ following : Reading,
        following.Complete ∧ following.text = after := by
  have ends : EndsInNumber ([] ++ reading.text) := complete.endsInNumber
  have continued := cut_append_symbol ends operator after
  rw [cut_text complete.admitted, Option.bind_some] at continued
  constructor
  · rintro ⟨whole, wholeComplete, wholeText⟩
    have cutWhole := cut_text wholeComplete.admitted
    rw [wholeText, continued, Option.map_eq_some_iff] at cutWhole
    rcases cutWhole with ⟨following, cutAfter, rfl⟩
    refine ⟨following, ?_, text_of_cut cutAfter⟩
    exact ((Reading.complete_followedBy_iff _ _ _).mp wholeComplete).2
  · rintro ⟨following, followingComplete, rfl⟩
    refine
      ⟨reading.followedBy operator following, ?_,
        reading.text_followedBy operator following⟩
    exact
      (Reading.complete_followedBy_iff _ _ _).mpr
        ⟨complete, followingComplete⟩

/-! ## Going on from the same value -/

namespace Operator

open Binary64

/-- Whether an operation stops does not depend on the sign of a left zero. -/
theorem stop?_eq_of_sameValue
    {left right : Binary64}
    (same : SameValue left right)
    (operator : Operator)
    (operand : Binary64) :
    operator.stop? left operand = operator.stop? right operand := by
  apply
    SameValue.elim
      (fun left right =>
        operator.stop? left operand = operator.stop? right operand) same
  · intro number
    rfl
  · intro leftSign rightSign
    cases operator <;> rfl

theorem result_sameValue
    {left right : Binary64}
    (same : SameValue left right)
    (operator : Operator)
    (operand : Binary64) :
    SameValue (operator.result left operand) (operator.result right operand) := by
  apply
    SameValue.elim
      (fun left right =>
        SameValue (operator.result left operand)
          (operator.result right operand)) same
  · intro number
    exact SameValue.refl _
  · intro leftSign rightSign
    cases operator with
    | add => exact add_zero_sameValue leftSign rightSign operand
    | subtract => exact add_zero_sameValue leftSign rightSign operand.neg
    | multiply => exact mul_zero_sameValue leftSign rightSign operand
    | divide => exact div_zero_sameValue leftSign rightSign operand
    | remainder =>
        rcases remainder_zero_sameValue leftSign rightSign operand with
          ⟨left, right, leftResult, rightResult, same⟩
        rw [result, result, apply, apply, leftResult, rightResult]
        exact same

end Operator

/-- Two outcomes with the same value, or failures of the same kind. -/
def Outcome.Alike : Outcome → Outcome → Prop
  | .value left, .value right => left.SameValue right
  | .failure left, .failure right => left.kind = right.kind
  | _, _ => False

/-- The operations after a running value see no sign of its zero. -/
theorem TokenStream.reduceFrom_alike
    {left right : Binary64}
    (same : left.SameValue right)
    (rest : List (Operator × Binary64)) :
    ∃ leftOutcome rightOutcome,
      reduceFrom left (OperatorChain.pairs rest) = .ok leftOutcome ∧
        reduceFrom right (OperatorChain.pairs rest) = .ok rightOutcome ∧
          leftOutcome.Alike rightOutcome := by
  induction rest generalizing left right with
  | nil => exact ⟨.value left, .value right, rfl, rfl, same⟩
  | cons pair rest ih =>
      rcases pair with ⟨operator, operand⟩
      have stops := Operator.stop?_eq_of_sameValue same operator operand
      cases stop : operator.stop? left operand with
      | some kind =>
          rcases reduceFrom_of_stop stop (OperatorChain.pairs rest) with
            ⟨leftCause, leftFailed, leftKind⟩
          rcases
              reduceFrom_of_stop (stops.symm.trans stop)
                (OperatorChain.pairs rest) with
            ⟨rightCause, rightFailed, rightKind⟩
          exact
            ⟨.failure leftCause, .failure rightCause, leftFailed, rightFailed,
              leftKind.trans rightKind.symm⟩
      | none =>
          rcases ih (Operator.result_sameValue same operator operand) with
            ⟨leftOutcome, rightOutcome, leftReduced, rightReduced, alike⟩
          refine ⟨leftOutcome, rightOutcome, ?_, ?_, alike⟩
          · rw [← leftReduced]
            exact reduceFrom_of_free stop (OperatorChain.pairs rest)
          · rw [← rightReduced]
            exact
              reduceFrom_of_free (stops.symm.trans stop)
                (OperatorChain.pairs rest)

/-! ## Replacing an expression by its value -/

/-- An expression is read completely, and its chain has a value. -/
def ComesTo (expression : Text) (number : Binary64) : Prop :=
  ∃ reading : Reading, ∃ chain,
    reading.Complete ∧
      reading.text = sanitize expression ∧
        reading.Means chain ∧
          chain.Unstopped ∧ chain.value = number

theorem ComesTo.ne_nil
    {expression : Text}
    {number : Binary64}
    (comes : ComesTo expression number) :
    expression ≠ [] := by
  rcases comes with ⟨reading, _, complete, text, _⟩
  rintro rfl
  exact complete.endsInNumber.ne_nil text

/-- Symbols alone hold no number. -/
theorem numbers_of_symbols
    {expression : Text}
    {stream : TokenStream}
    (symbols : ∀ character ∈ expression, Operator.isSymbol character = true)
    (tokenized : tokenize expression = .ok stream) :
    stream.numbers = [] := by
  rcases exists_reading_of_tokenize tokenized with
    ⟨reading, admitted, text, denotes, _⟩
  rcases Reading.exists_of_symbols symbols with
    ⟨same, sameAdmitted, sameText, _, none⟩
  rw [Reading.eq_of_text_eq admitted sameAdmitted (text.trans sameText.symm),
    Reading.Denotes, none] at denotes
  exact List.map_eq_nil_iff.mp denotes.symm

/-- An expression that holds a number and has a value comes to this value. -/
theorem comesTo_of_evaluate
    {expression : Text}
    {stream : TokenStream}
    {number : Binary64}
    {notices : List Notice}
    (tokenized : tokenize (sanitize expression) = .ok stream)
    (someNumber : stream.numbers ≠ [])
    (evaluated : evaluate expression = .ok (.value number, notices)) :
    ComesTo expression number := by
  have notSymbols :
      ¬∀ character ∈ sanitize expression,
        Operator.isSymbol character = true := by
    intro symbols
    exact someNumber (numbers_of_symbols symbols tokenized)
  by_cases complete :
      ∃ reading : Reading,
        reading.Complete ∧ reading.text = sanitize expression
  · rcases complete with ⟨reading, complete, text⟩
    rcases complete.exists_means with ⟨chain, means⟩
    rcases chain.unstopped_or_stopsWith with unstopped | ⟨kind, stops⟩
    · have reduced := TokenStream.reduceFrom_of_unstopped unstopped
      rcases evaluate_of_complete complete text means reduced with ⟨_, value⟩
      rw [evaluated] at value
      cases value
      exact ⟨reading, chain, complete, text, means, unstopped, rfl⟩
    · rcases TokenStream.reduceFrom_of_stopsWith stops with ⟨cause, reduced, _⟩
      rcases evaluate_of_complete complete text means reduced with ⟨_, failed⟩
      rw [evaluated] at failed
      cases failed
  · rcases evaluate_of_incomplete notSymbols complete with ⟨_, _, failed, _⟩
    rw [evaluated] at failed
    cases failed

/-- What the display shows of a finite number comes to that number again. -/
theorem comesTo_display
    {number : Binary64}
    (finite : number.isFinite = true) :
    ComesTo number.display number.unsignedZero := by
  have isOperand := Binary64.isOperand_display finite
  refine ⟨⟨number.display, []⟩, ⟨number.unsignedZero, []⟩, ?_, ?_, ?_, ?_, rfl⟩
  · intro operand member
    rw [List.mem_singleton.mp member]
    exact isOperand
  · rw [Reading.text_single]
    exact (sanitize_of_joined (joined_of_isOperand isOperand).1).symm
  · exact ⟨Binary64.ofLiteral?_display finite, rfl⟩
  · exact OperatorChain.unstopped_nil number.unsignedZero

section Continued

variable
  {expression after : Text}
  {number : Binary64}
  {operator : Operator}
  {character : Char}
  (comes : ComesTo expression number)
  (spelled : plainCharacter character = operator.symbol)

include comes spelled

/-- Before a continuation that is not complete the expression is malformed. -/
theorem evaluate_continued_of_incomplete
    (incomplete :
      ¬∃ following : Reading,
        following.Complete ∧ following.text = sanitize after) :
    ∃ cause notices,
      evaluate (expression ++ character :: after) =
          .ok (.failure cause, notices) ∧
        cause.kind = .malformedExpression := by
  rcases comes with ⟨reading, chain, complete, text, _⟩
  have sanitized :
      sanitize (expression ++ character :: after) =
        reading.text ++ operator.symbol :: sanitize after := by
    rw [sanitize_append, sanitize_cons, text, spelled]
  apply evaluate_of_incomplete
  · intro symbols
    rcases complete.endsInNumber.exists_not_symbol with
      ⟨last, member, notSymbol⟩
    rw [sanitized] at symbols
    rw [symbols last (List.mem_append_left _ member)] at notSymbol
    cases notSymbol
  · rw [sanitized, complete_continued_iff complete]
    exact incomplete

/-- A complete continuation goes on from the value of the expression. -/
theorem evaluate_continued_of_complete
    {following : Reading}
    {later : OperatorChain}
    {outcome : Outcome}
    (complete : following.Complete)
    (text : following.text = sanitize after)
    (means : following.Means later)
    (reduced :
      TokenStream.reduceFrom number
          (OperatorChain.pairs ((operator, later.first) :: later.rest)) =
        .ok outcome) :
    ∃ notices,
      evaluate (expression ++ character :: after) = .ok (outcome, notices) := by
  rcases comes with
    ⟨reading, chain, readComplete, readText, readMeans, unstopped, rfl⟩
  apply
    evaluate_of_complete
      ((Reading.complete_followedBy_iff _ _ _).mpr ⟨readComplete, complete⟩)
      ?_ (readMeans.followedBy means operator)
  · rw [← reduced, ← TokenStream.reduceFrom_append unstopped]
    exact congrArg _ List.map_append
  · rw [Reading.text_followedBy, readText, text, sanitize_append,
      sanitize_cons, spelled]

end Continued

/--
Two expressions with the same value have alike outcomes whatever they go on
with after an operator.
-/
theorem evaluate_continued_alike
    {left right : Text}
    {leftNumber rightNumber : Binary64}
    {operator : Operator}
    {character : Char}
    (leftComes : ComesTo left leftNumber)
    (rightComes : ComesTo right rightNumber)
    (same : leftNumber.SameValue rightNumber)
    (spelled : plainCharacter character = operator.symbol)
    (after : Text) :
    ∃ leftOutcome rightOutcome leftNotices rightNotices,
      evaluate (left ++ character :: after) = .ok (leftOutcome, leftNotices) ∧
        evaluate (right ++ character :: after) =
            .ok (rightOutcome, rightNotices) ∧
          leftOutcome.Alike rightOutcome := by
  by_cases complete :
      ∃ following : Reading,
        following.Complete ∧ following.text = sanitize after
  · rcases complete with ⟨following, complete, text⟩
    rcases complete.exists_means with ⟨later, means⟩
    rcases
        TokenStream.reduceFrom_alike same
          ((operator, later.first) :: later.rest) with
      ⟨leftOutcome, rightOutcome, leftReduced, rightReduced, alike⟩
    rcases
        evaluate_continued_of_complete leftComes spelled complete text means
          leftReduced with
      ⟨leftNotices, leftEvaluated⟩
    rcases
        evaluate_continued_of_complete rightComes spelled complete text means
          rightReduced with
      ⟨rightNotices, rightEvaluated⟩
    exact
      ⟨leftOutcome, rightOutcome, leftNotices, rightNotices, leftEvaluated,
        rightEvaluated, alike⟩
  · rcases evaluate_continued_of_incomplete leftComes spelled complete with
      ⟨leftCause, leftNotices, leftEvaluated, leftKind⟩
    rcases evaluate_continued_of_incomplete rightComes spelled complete with
      ⟨rightCause, rightNotices, rightEvaluated, rightKind⟩
    exact
      ⟨.failure leftCause, .failure rightCause, leftNotices, rightNotices,
        leftEvaluated, rightEvaluated, leftKind.trans rightKind.symm⟩

end PocketCalc
