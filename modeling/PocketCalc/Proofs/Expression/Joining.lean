import PocketCalc.Proofs.Expression.Continuation
import PocketCalc.Proofs.Expression.Foreign

/-!
# Expressions that are joined by an operator

An expression that ends in a digit or point can be joined to another one by an
operator.  The joined expression is tokenized exactly if both of its parts are,
and its stream has the numbers and the operators of the first part, the
operator, and those of the second part.  Whether the parts are complete makes
no difference.

In particular, a literal behind such an operator is an operand by itself, and
another literal in its place changes nothing but its number.
-/

namespace PocketCalc

namespace Reading

theorem literals_followedBy
    (reading : Reading)
    (operator : Operator)
    (following : Reading) :
    (reading.followedBy operator following).literals =
      reading.literals ++ following.literals := by
  simp only [literals, operands, followedBy, List.map_append, List.map_cons,
    ← List.filter_append, List.cons_append]

theorem symbols_followedBy
    (reading : Reading)
    (operator : Operator)
    (following : Reading) :
    (reading.followedBy operator following).symbols =
      reading.symbols ++ [operator.symbol] :: following.symbols := by
  simp [symbols, followedBy]

/-- A joined reading denotes the numbers of its parts, one after the other. -/
theorem denotes_followedBy_iff
    {reading following : Reading}
    {numbers : List Binary64}
    (operator : Operator) :
    (reading.followedBy operator following).Denotes numbers ↔
      ∃ before after,
        numbers = before ++ after ∧
          reading.Denotes before ∧ following.Denotes after := by
  simp only [Denotes, literals_followedBy, List.map_append]
  constructor
  · intro denotes
    rcases List.map_eq_append_iff.mp denotes.symm with
      ⟨before, after, rfl, denotesBefore, denotesAfter⟩
    exact ⟨before, after, rfl, denotesBefore.symm, denotesAfter.symm⟩
  · rintro ⟨before, after, rfl, denotesBefore, denotesAfter⟩
    rw [denotesBefore, denotesAfter, List.map_append]

end Reading

/-- A text is tokenized exactly if it is cut into operands that denote numbers. -/
theorem tokenize_eq_ok_iff (expression : Text) (stream : TokenStream) :
    tokenize expression = .ok stream ↔
      ∃ reading,
        cut [] expression = some reading ∧
          reading.Denotes stream.numbers ∧
            stream.operators = reading.symbols := by
  constructor
  · intro tokenized
    rcases exists_reading_of_tokenize tokenized with
      ⟨reading, admitted, rfl, denotes, operators⟩
    exact ⟨reading, cut_text admitted, denotes, operators⟩
  · rintro ⟨reading, wasCut, denotes, operators⟩
    have admitted := Reading.admitted_of_cut wasCut denotes
    rcases tokenize_text admitted denotes with
      ⟨same, tokenized, sameNumbers, sameOperators⟩
    have text : reading.text = expression := text_of_cut wasCut
    rw [← text, tokenized]
    rcases stream with ⟨numbers, symbols, accepted⟩
    rcases same with ⟨others, otherSymbols, otherAccepted⟩
    dsimp only at operators sameNumbers sameOperators
    subst sameNumbers sameOperators operators
    rfl

/-- The stream of a joined expression has what the streams of its parts have. -/
theorem tokenize_joined_iff
    {before : Text}
    (ends : EndsInNumber before)
    (operator : Operator)
    (after : Text)
    (stream : TokenStream) :
    tokenize (before ++ operator.symbol :: after) = .ok stream ↔
      ∃ left right,
        tokenize before = .ok left ∧
          tokenize after = .ok right ∧
            stream.numbers = left.numbers ++ right.numbers ∧
              stream.operators =
                left.operators ++ [operator.symbol] :: right.operators := by
  have seam :
      cut [] (before ++ operator.symbol :: after) =
        (cut [] before).bind fun reading =>
          (cut [] after).map fun following =>
            reading.followedBy operator following := by
    rw [← List.nil_append before] at ends
    exact cut_append_symbol ends operator after
  constructor
  · intro tokenized
    rcases (tokenize_eq_ok_iff _ _).mp tokenized with
      ⟨whole, wasCut, denotes, operators⟩
    rw [seam] at wasCut
    rcases Option.bind_eq_some_iff.mp wasCut with
      ⟨reading, cutBefore, joined⟩
    rcases Option.map_eq_some_iff.mp joined with
      ⟨following, cutAfter, rfl⟩
    rcases (Reading.denotes_followedBy_iff operator).mp denotes with
      ⟨leftNumbers, rightNumbers, numbers, denotesLeft, denotesRight⟩
    have leftAdmitted := Reading.admitted_of_cut cutBefore denotesLeft
    have rightAdmitted := Reading.admitted_of_cut cutAfter denotesRight
    rcases tokenize_text leftAdmitted denotesLeft with
      ⟨left, leftTokenized, rfl, leftOperators⟩
    rcases tokenize_text rightAdmitted denotesRight with
      ⟨right, rightTokenized, rfl, rightOperators⟩
    have leftText : reading.text = before := text_of_cut cutBefore
    have rightText : following.text = after := text_of_cut cutAfter
    rw [leftText] at leftTokenized
    rw [rightText] at rightTokenized
    refine ⟨left, right, leftTokenized, rightTokenized, numbers, ?_⟩
    rw [operators, Reading.symbols_followedBy, leftOperators, rightOperators]
  · rintro ⟨left, right, leftTokenized, rightTokenized, numbers, operators⟩
    rcases (tokenize_eq_ok_iff _ _).mp leftTokenized with
      ⟨reading, cutBefore, denotesLeft, leftOperators⟩
    rcases (tokenize_eq_ok_iff _ _).mp rightTokenized with
      ⟨following, cutAfter, denotesRight, rightOperators⟩
    refine
      (tokenize_eq_ok_iff _ _).mpr
        ⟨reading.followedBy operator following, ?_, ?_, ?_⟩
    · rw [seam, cutBefore, cutAfter]
      rfl
    · exact
        (Reading.denotes_followedBy_iff operator).mpr
          ⟨_, _, numbers, denotesLeft, denotesRight⟩
    · rw [operators, leftOperators, rightOperators,
        Reading.symbols_followedBy]

/-- A literal is tokenized into its number. -/
theorem tokenize_literal_iff
    {literal : Text}
    {number : Binary64}
    (isOperand : Literal.IsOperand literal)
    (read : Binary64.ofLiteral? literal = some number)
    (stream : TokenStream) :
    tokenize literal = .ok stream ↔
      stream.numbers = [number] ∧ stream.operators = [] := by
  have wasCut : cut [] literal = some ⟨literal, []⟩ := by
    have whole := cut_append_of_joined (joined_of_isOperand isOperand).1 []
    rw [List.append_nil] at whole
    exact whole
  have denotes :
      Reading.Denotes ⟨literal, []⟩ stream.numbers ↔
        stream.numbers = [number] := by
    have written : Reading.literals ⟨literal, []⟩ = [literal] := by
      simpa [Reading.literals, Reading.operands] using isOperand.ne_nil
    rw [Reading.Denotes, written, List.map_singleton, read,
      ← List.map_singleton, List.map_inj_right fun _ _ => Option.some.inj]
    exact eq_comm
  rw [tokenize_eq_ok_iff, wasCut]
  constructor
  · rintro ⟨reading, same, isDenoted, operators⟩
    cases same
    exact ⟨denotes.mp isDenoted, operators⟩
  · rintro ⟨numbers, operators⟩
    exact ⟨_, rfl, denotes.mpr numbers, operators⟩

/-! ## Where an operand begins -/

/-- A text is empty, or it ends in an operator directly behind a digit or point. -/
def AtOperandStart (before : Text) : Prop :=
  before = [] ∨
    ∃ front character, ∃ operator : Operator,
      before = front ++ [character] ∧
        plainCharacter character = operator.symbol ∧ EndsInNumber front

theorem atOperandStart_nil : AtOperandStart [] :=
  Or.inl rfl

theorem atOperandStart_concat_iff (front : Text) (character : Char) :
    AtOperandStart (front ++ [character]) ↔
      (∃ operator : Operator, plainCharacter character = operator.symbol) ∧
        EndsInNumber front := by
  constructor
  · rintro (empty | ⟨before, last, operator, split, spelled, ends⟩)
    · exact absurd empty (List.concat_ne_nil _ _)
    · rcases List.append_inj' split rfl with ⟨rfl, same⟩
      cases same
      exact ⟨⟨operator, spelled⟩, ends⟩
  · rintro ⟨⟨operator, spelled⟩, ends⟩
    exact Or.inr ⟨front, character, operator, rfl, spelled, ends⟩

/-- Glyphs make no difference to where an operand begins. -/
theorem atOperandStart_sanitize_iff (before : Text) :
    AtOperandStart (sanitize before) ↔ AtOperandStart before := by
  rcases List.eq_nil_or_concat before with rfl | ⟨front, character, rfl⟩
  · exact Iff.rfl
  · rw [List.concat_eq_append, sanitize_append, sanitize_cons]
    show AtOperandStart (sanitize front ++ [plainCharacter character]) ↔ _
    rw [atOperandStart_concat_iff, atOperandStart_concat_iff,
      plainCharacter_plainCharacter, endsInNumber_sanitize_iff]

/-- Another literal as the last operand changes its number only. -/
theorem exists_tokenize_replaced
    {before literal other : Text}
    {number otherNumber : Binary64}
    {stream : TokenStream}
    (start : AtOperandStart before)
    (isOperand : Literal.IsOperand literal)
    (read : Binary64.ofLiteral? literal = some number)
    (otherIsOperand : Literal.IsOperand other)
    (otherRead : Binary64.ofLiteral? other = some otherNumber)
    (tokenized : tokenize (sanitize before ++ literal) = .ok stream) :
    ∃ others,
      stream.numbers = others ++ [number] ∧
        tokenize (sanitize before ++ other) =
          .ok { stream with numbers := others ++ [otherNumber] } := by
  rcases start with rfl | ⟨front, character, operator, rfl, spelled, ends⟩
  · rcases (tokenize_literal_iff isOperand read _).mp tokenized with
      ⟨numbers, operators⟩
    refine ⟨[], numbers, ?_⟩
    exact
      (tokenize_literal_iff otherIsOperand otherRead _).mpr ⟨rfl, operators⟩
  · have plain (last : Text) :
        sanitize (front ++ [character]) ++ last =
          sanitize front ++ operator.symbol :: last := by
      rw [sanitize_append, sanitize_cons, spelled, List.append_assoc]
      rfl
    have endsPlain := (endsInNumber_sanitize_iff front).mpr ends
    rw [plain, tokenize_joined_iff endsPlain] at tokenized
    rcases tokenized with
      ⟨left, right, leftTokenized, rightTokenized, numbers, operators⟩
    rcases (tokenize_literal_iff isOperand read _).mp rightTokenized with
      ⟨rightNumbers, rightOperators⟩
    rw [rightNumbers] at numbers
    refine ⟨left.numbers, numbers, ?_⟩
    rw [plain, tokenize_joined_iff endsPlain]
    refine
      ⟨left, { right with numbers := [otherNumber] }, leftTokenized, ?_, rfl,
        operators⟩
    exact
      (tokenize_literal_iff otherIsOperand otherRead _).mpr
        ⟨rfl, rightOperators⟩

end PocketCalc
