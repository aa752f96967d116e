import PocketCalc.Proofs.Expression.Reading

/-!
# The scanner accepts the admitted readings

Scanning is cutting and reading numbers at once.  The scanner goes on with an
operand where cutting keeps a character, and it completes the operand where
cutting finds an operator; its flag for an expected operand is set whenever
nothing is pending, so the flag adds nothing to that.  The invariant of the run
relates the scanner to what cutting makes of the rest.

The main theorem gives the language of the tokenizer, the one reading of each
of its texts, and the token stream of that reading.
-/

namespace PocketCalc

theorem Operator.isSymbol_symbol (operator : Operator) :
    Operator.isSymbol operator.symbol = true := by
  cases operator <;> rfl

namespace Scanner

/-- An operand is expected whenever none is pending. -/
def Ready (scanner : Scanner) : Prop :=
  scanner.pending = [] → scanner.operandExpected = true

theorem start_ready : start.Ready :=
  fun _ => rfl

/-! ## One step -/

/-- Where cutting keeps a character, the scanner does. -/
theorem step_of_joins
    {scanner : Scanner}
    {character : Char}
    {next : Option Char}
    (expression : Text)
    (ready : scanner.Ready)
    (joined : joins scanner.pending character next = true) :
    ∃ expected,
      scanner.step expression character next =
        .ok { scanner.keep character with operandExpected := expected } := by
  simp only [step]
  split
  · exact ⟨false, rfl⟩
  · rename_i notNumber
    split
    · exact ⟨scanner.operandExpected, rfl⟩
    · rename_i notMark
      split
      · exact ⟨scanner.operandExpected, rfl⟩
      · rename_i notSign
        have minus :
            character = '-' ∧ scanner.pending = [] ∧
              next.any isNumberCharacter = true := by
          rw [endsWith] at notMark notSign
          simpa [joins, notNumber, notMark, notSign, and_assoc] using joined
        rcases minus with ⟨rfl, nothing, number⟩
        have sign : scanner.takesSign next = true := by
          simp [takesSign, nothing, ready nothing, number]
        rw [if_pos (by decide), if_pos (by simp [sign])]
        exact ⟨scanner.operandExpected, rfl⟩

/-- Where cutting keeps no character, it completes an operand or fails. -/
theorem step_of_apart
    {scanner : Scanner}
    {character : Char}
    {next : Option Char}
    (expression : Text)
    (apart : joins scanner.pending character next = false) :
    scanner.step expression character next =
      if Operator.isSymbol character then
        scanner.complete.map (record · character)
      else
        .error (.unexpectedCharacter character expression) := by
  simp only [joins, Bool.or_eq_false_iff] at apart
  rcases apart with ⟨⟨⟨notNumber, notMark⟩, notSign⟩, notMinus⟩
  have unsigned : (character = '-' && scanner.takesSign next) = false := by
    rw [takesSign]
    by_contra sign
    rw [Bool.not_eq_false, Bool.and_eq_true, Bool.and_eq_true,
      Bool.and_eq_true] at sign
    rw [sign.1, sign.2.1.1, sign.2.2] at notMinus
    cases notMinus
  have noExponent :
      ¬(Literal.isExponentMark character &&
        scanner.endsWith isNumberCharacter) = true :=
    ne_true_of_eq_false notMark
  have noExponentSign :
      ¬(Literal.isSign character &&
        scanner.endsWith Literal.isExponentMark) = true :=
    ne_true_of_eq_false notSign
  rw [step, if_neg (ne_true_of_eq_false notNumber), if_neg noExponent,
    if_neg noExponentSign, if_neg (ne_true_of_eq_false unsigned)]

theorem Ready.keep
    (scanner : Scanner)
    (character : Char)
    (expected : Bool) :
    Ready { scanner.keep character with operandExpected := expected } := by
  intro nothing
  simp [Scanner.keep] at nothing

theorem Ready.record (scanner : Scanner) (character : Char) :
    (scanner.record character).Ready :=
  fun _ => rfl

/-- Completing reads the pending characters as one number, if there are any. -/
theorem complete_eq_ok_iff (scanner finished : Scanner) :
    scanner.complete = .ok finished ↔
      ∃ numbers,
        ([scanner.pending].filter (!·.isEmpty)).map Binary64.ofLiteral? =
            numbers.map some ∧
          finished =
            { scanner with
              numbers := scanner.numbers ++ numbers
              pending := [] } := by
  by_cases nothing : scanner.pending = []
  · have completed : scanner.complete = .ok scanner := by
      simp [complete, nothing]
    have same : { scanner with pending := [] } = scanner := by
      rw [← nothing]
    rw [completed, nothing]
    constructor
    · intro equal
      cases equal
      refine ⟨[], rfl, ?_⟩
      rw [List.append_nil, same]
    · rintro ⟨numbers, denotes, rfl⟩
      cases numbers with
      | nil => rw [List.append_nil, same]
      | cons number numbers => cases denotes
  · have something : scanner.pending.isEmpty = false := by
      simpa using nothing
    have literal : [scanner.pending].filter (!·.isEmpty) = [scanner.pending] := by
      simp [something]
    rw [literal, complete, something, if_neg Bool.false_ne_true]
    cases read : Binary64.ofLiteral? scanner.pending with
    | none =>
        constructor
        · intro equal
          cases equal
        · rintro ⟨numbers, denotes, _⟩
          cases numbers with
          | nil => cases denotes
          | cons number numbers =>
              rw [List.map_singleton, read] at denotes
              cases denotes
    | some number =>
        constructor
        · intro equal
          cases equal
          exact ⟨[number], by rw [List.map_singleton, read]; rfl, rfl⟩
        · rintro ⟨numbers, denotes, rfl⟩
          rw [List.map_singleton, read] at denotes
          cases numbers with
          | nil => cases denotes
          | cons first numbers =>
              cases numbers with
              | nil =>
                  cases denotes
                  rfl
              | cons second numbers => cases denotes

/-! ## A whole run -/

/-- A run over a text that is cut into numbers ends with these numbers. -/
theorem run_of_cut
    {scanner : Scanner}
    {rest : Text}
    {reading : Reading}
    {numbers : List Binary64}
    (expression : Text)
    (ready : scanner.Ready)
    (wasCut : cut scanner.pending rest = some reading)
    (denotes : reading.literals.map Binary64.ofLiteral? = numbers.map some) :
    ∃ finished,
      scanner.run expression rest = .ok finished ∧
        finished.numbers = scanner.numbers ++ numbers ∧
          finished.operators = scanner.operators ++ reading.symbols := by
  induction rest generalizing scanner reading numbers with
  | nil =>
      cases Option.some.inj wasCut
      refine ⟨_, (complete_eq_ok_iff _ _).mpr ⟨numbers, denotes, rfl⟩, rfl, ?_⟩
      simp [Reading.symbols]
  | cons character rest ih =>
      rcases cut_cons_eq_some wasCut with
        ⟨joined, cutRest⟩ | ⟨operator, following, rfl, apart, cutRest, rfl⟩
      · rcases step_of_joins expression ready joined with ⟨expected, stepped⟩
        rw [run, stepped]
        exact ih (Ready.keep scanner character expected) cutRest denotes
      · rw [Reading.literals_cons, List.map_append] at denotes
        rcases List.map_eq_append_iff.mp denotes.symm with
          ⟨before, after, rfl, denotesBefore, denotesAfter⟩
        have completed :=
          (complete_eq_ok_iff scanner _).mpr ⟨before, denotesBefore.symm, rfl⟩
        have recorded :=
          Ready.record
            { scanner with numbers := scanner.numbers ++ before, pending := [] }
            operator.symbol
        rcases ih recorded cutRest denotesAfter.symm with
          ⟨finished, ran, numbersEqual, operatorsEqual⟩
        refine ⟨finished, ?_, ?_, ?_⟩
        · rw [run, step_of_apart expression apart,
            if_pos operator.isSymbol_symbol, completed]
          exact ran
        · rw [numbersEqual]
          exact List.append_assoc _ _ _
        · rw [operatorsEqual]
          exact List.append_assoc _ _ _

/-- A run that succeeds has cut its text into numbers. -/
theorem cut_of_run
    {scanner finished : Scanner}
    {expression rest : Text}
    (ready : scanner.Ready)
    (ran : scanner.run expression rest = .ok finished) :
    ∃ reading, ∃ numbers : List Binary64,
      cut scanner.pending rest = some reading ∧
        reading.literals.map Binary64.ofLiteral? = numbers.map some := by
  induction rest generalizing scanner with
  | nil =>
      rcases (complete_eq_ok_iff _ _).mp ran with ⟨numbers, denotes, _⟩
      exact ⟨⟨scanner.pending, []⟩, numbers, rfl, denotes⟩
  | cons character rest ih =>
      rw [run] at ran
      cases joined : joins scanner.pending character rest.head? with
      | true =>
          rcases step_of_joins expression ready joined with ⟨expected, stepped⟩
          rw [stepped] at ran
          rcases ih (Ready.keep scanner character expected) ran with
            ⟨reading, numbers, wasCut, denotes⟩
          exact ⟨reading, numbers, by rw [cut_of_joins joined]; exact wasCut, denotes⟩
      | false =>
          rw [step_of_apart expression joined] at ran
          cases symbol : Operator.isSymbol character with
          | false =>
              rw [symbol, if_neg Bool.false_ne_true] at ran
              cases ran
          | true =>
              rcases Operator.exists_symbol_eq symbol with ⟨operator, rfl⟩
              rw [symbol, if_pos rfl] at ran
              cases completed : scanner.complete with
              | error fault =>
                  rw [completed] at ran
                  cases ran
              | ok following =>
                  rw [completed] at ran
                  rcases (complete_eq_ok_iff _ _).mp completed with
                    ⟨before, denotesBefore, rfl⟩
                  rcases ih (Ready.record _ operator.symbol) ran with
                    ⟨reading, after, wasCut, denotesAfter⟩
                  change cut [] rest = some reading at wasCut
                  refine
                    ⟨_, before ++ after,
                      by rw [cut_of_operator joined, wasCut, Option.map_some], ?_⟩
                  rw [Reading.literals_cons, List.map_append, denotesBefore,
                    denotesAfter, List.map_append]

/-! ## What one step does -/

/-- The ways in which a step takes one character of an expression. -/
inductive StepEffect
    (expression : Text)
    (scanner : Scanner)
    (character : Char)
    (next : Option Char) :
    Except ScanFault Scanner → Prop where
  /-- The character goes on with the operand under way, or begins one. -/
  | kept
      {expected : Bool}
      (joined : joins scanner.pending character next = true) :
      StepEffect expression scanner character next
        (.ok { scanner.keep character with operandExpected := expected })
  /-- An operator completes the operand under way, if there is one. -/
  | recorded
      {operator : Operator}
      {finished : Scanner}
      (symbol : character = operator.symbol)
      (completed : scanner.complete = .ok finished)
      (nothing : finished.pending = []) :
      StepEffect expression scanner character next
        (.ok (finished.record character))
  /-- An operator completes an operand that is no number. -/
  | refused
      {operator : Operator}
      (symbol : character = operator.symbol)
      (something : scanner.pending ≠ [])
      (noNumber : Binary64.ofLiteral? scanner.pending = none) :
      StepEffect expression scanner character next
        (.error (.invalidNumber scanner.pending))
  /-- The character has no meaning where it stands. -/
  | unexpected
      (apart : joins scanner.pending character next = false)
      (noSymbol : Operator.isSymbol character = false) :
      StepEffect expression scanner character next
        (.error (.unexpectedCharacter character expression))

/-- Completing takes all pending characters, or they are no number. -/
theorem complete_cases (scanner : Scanner) :
    (∃ finished, scanner.complete = .ok finished ∧ finished.pending = []) ∨
      (scanner.complete = .error (.invalidNumber scanner.pending) ∧
        scanner.pending ≠ [] ∧
          Binary64.ofLiteral? scanner.pending = none) := by
  rw [complete]
  split
  · rename_i nothing
    exact .inl ⟨scanner, rfl, List.isEmpty_iff.mp nothing⟩
  · rename_i something
    rw [List.isEmpty_iff] at something
    split
    · exact .inl ⟨_, rfl, rfl⟩
    · rename_i noNumber
      exact .inr ⟨rfl, something, noNumber⟩

theorem Ready.stepEffect
    {scanner : Scanner}
    (ready : scanner.Ready)
    (expression : Text)
    (character : Char)
    (next : Option Char) :
    StepEffect expression scanner character next
      (scanner.step expression character next) := by
  cases joined : joins scanner.pending character next with
  | true =>
      rcases step_of_joins expression ready joined with ⟨expected, stepped⟩
      rw [stepped]
      exact .kept joined
  | false =>
      rw [step_of_apart expression joined]
      cases symbol : Operator.isSymbol character with
      | false =>
          rw [if_neg Bool.false_ne_true]
          exact .unexpected joined symbol
      | true =>
          rw [if_pos rfl]
          rcases Operator.exists_symbol_eq symbol with ⟨operator, spelled⟩
          rcases scanner.complete_cases with
            ⟨finished, completed, nothing⟩ | ⟨failed, something, noNumber⟩
          · rw [completed]
            exact .recorded spelled.symm completed nothing
          · rw [failed]
            exact .refused spelled.symm something noNumber

/-- A step leaves the scanner ready. -/
theorem Ready.step
    {scanner following : Scanner}
    {expression : Text}
    {character : Char}
    {next : Option Char}
    (ready : scanner.Ready)
    (stepped : scanner.step expression character next = .ok following) :
    following.Ready := by
  have effect := ready.stepEffect expression character next
  rw [stepped] at effect
  cases effect with
  | kept joined => exact Ready.keep scanner character _
  | recorded symbol completed nothing => exact Ready.record _ character

/-! ## Faults -/

/-- Completing fails only for characters that are no number. -/
theorem fault_of_complete
    {scanner : Scanner}
    {fault : ScanFault}
    (failed : scanner.complete = .error fault) :
    ∃ characters, fault = .invalidNumber characters := by
  rcases scanner.complete_cases with ⟨_, completed, _⟩ | ⟨refused, _⟩
  · rw [completed] at failed
    cases failed
  · rw [refused] at failed
    cases failed
    exact ⟨_, rfl⟩

theorem fault_of_step
    {scanner : Scanner}
    {expression : Text}
    {character : Char}
    {next : Option Char}
    {fault : ScanFault}
    (ready : scanner.Ready)
    (failed : scanner.step expression character next = .error fault) :
    (∃ characters, fault = .invalidNumber characters) ∨
      fault = .unexpectedCharacter character expression := by
  have effect := ready.stepEffect expression character next
  rw [failed] at effect
  cases effect with
  | refused symbol something noNumber => exact .inl ⟨_, rfl⟩
  | unexpected apart noSymbol => exact .inr rfl

/-- A run fails for a text that is no number or for a character out of place. -/
theorem fault_of_run
    {scanner : Scanner}
    {expression rest : Text}
    {fault : ScanFault}
    (ready : scanner.Ready)
    (failed : scanner.run expression rest = .error fault) :
    (∃ characters, fault = .invalidNumber characters) ∨
      ∃ character, fault = .unexpectedCharacter character expression := by
  induction rest generalizing scanner with
  | nil => exact Or.inl (fault_of_complete failed)
  | cons character rest ih =>
      rw [run] at failed
      cases stepped : scanner.step expression character rest.head? with
      | ok following =>
          rw [stepped] at failed
          exact ih (ready.step stepped) failed
      | error earlier =>
          rw [stepped] at failed
          cases failed
          rcases fault_of_step ready stepped with number | unexpected
          · exact Or.inl number
          · exact Or.inr ⟨character, unexpected⟩

end Scanner

/-! ## Token streams of readings -/

namespace TokenStream

/-- The five symbols make a stream with any numbers. -/
theorem exists_ofParts?
    (numbers : List Binary64)
    {operators : List Text}
    (known : ∀ symbol ∈ operators,
      ∃ operator : Operator, symbol = [operator.symbol]) :
    ∃ stream,
      ofParts? numbers operators = .ok stream ∧
        stream.numbers = numbers ∧ stream.operators = operators := by
  rw [ofParts?]
  split
  · rename_i symbol unknown
    have member := List.mem_of_find?_eq_some unknown
    have refused := List.find?_some unknown
    rcases known symbol member with ⟨operator, rfl⟩
    cases operator <;> exact absurd refused (by decide)
  · exact ⟨_, rfl, rfl, rfl⟩

end TokenStream

namespace Reading

/-- The numbers that the written operands denote, in their order. -/
def Denotes (reading : Reading) (numbers : List Binary64) : Prop :=
  reading.literals.map Binary64.ofLiteral? = numbers.map some

theorem mem_literals_iff
    {reading : Reading}
    {operand : Text} :
    operand ∈ reading.literals ↔ operand ∈ reading.operands ∧ operand ≠ [] := by
  simp [literals]

/-- The operands of an admitted reading denote numbers. -/
theorem Admitted.exists_denotes
    {reading : Reading}
    (admitted : reading.Admitted) :
    ∃ numbers, reading.Denotes numbers := by
  have denoted :
      ∀ literal ∈ reading.literals,
        ∃ number, Binary64.ofLiteral? literal = some number := by
    intro literal member
    rcases mem_literals_iff.mp member with ⟨inside, nonempty⟩
    rcases admitted.1 literal inside with empty | isOperand
    · exact absurd empty nonempty
    · exact ((Literal.isOperand_iff literal).mp isOperand).2
  simp only [Denotes]
  generalize reading.literals = literals at denoted ⊢
  induction literals with
  | nil => exact ⟨[], rfl⟩
  | cons literal literals ih =>
      rw [List.forall_mem_cons] at denoted
      rcases denoted.1 with ⟨number, read⟩
      rcases ih denoted.2 with ⟨numbers, others⟩
      exact ⟨number :: numbers, by rw [List.map_cons, read, others]; rfl⟩

/-- A cut text whose operands denote numbers is an admitted reading. -/
theorem admitted_of_cut
    {expression : Text}
    {reading : Reading}
    {numbers : List Binary64}
    (wasCut : cut [] expression = some reading)
    (denotes : reading.Denotes numbers) :
    reading.Admitted := by
  refine ⟨?_, minusApart_of_cut wasCut⟩
  intro operand member
  by_cases empty : operand = []
  · exact Or.inl empty
  · right
    have isLiteral := mem_literals_iff.mpr ⟨member, empty⟩
    have image : Binary64.ofLiteral? operand ∈ numbers.map some := by
      rw [← denotes]
      exact List.mem_map_of_mem isLiteral
    rcases List.mem_map.mp image with ⟨number, _, read⟩
    rw [Literal.isOperand_iff]
    exact ⟨head_of_cut wasCut (by simp) operand member, number, read.symm⟩

theorem length_operands (reading : Reading) :
    reading.operands.length = reading.symbols.length + 1 := by
  simp [operands, symbols]

theorem Denotes.length_le
    {reading : Reading}
    {numbers : List Binary64}
    (denotes : reading.Denotes numbers) :
    numbers.length ≤ reading.symbols.length + 1 := by
  have lengths := congrArg List.length denotes
  rw [List.length_map, List.length_map] at lengths
  rw [← lengths, ← length_operands]
  exact List.length_filter_le _ _

/-- Every place of an operand is taken exactly if no operand is empty. -/
theorem Denotes.length_eq_iff
    {reading : Reading}
    {numbers : List Binary64}
    (denotes : reading.Denotes numbers) :
    reading.symbols.length + 1 = numbers.length ↔
      ∀ operand ∈ reading.operands, operand ≠ [] := by
  have lengths := congrArg List.length denotes
  rw [List.length_map, List.length_map] at lengths
  rw [← lengths, ← length_operands, eq_comm, literals,
    List.length_filter_eq_length_iff]
  simp

end Reading

/-! ## The language of the tokenizer -/

/-- An admitted reading becomes the stream of its numbers and symbols. -/
theorem tokenize_text
    {reading : Reading}
    {numbers : List Binary64}
    (admitted : reading.Admitted)
    (denotes : reading.Denotes numbers) :
    ∃ stream,
      tokenize reading.text = .ok stream ∧
        stream.numbers = numbers ∧ stream.operators = reading.symbols := by
  rcases
      Scanner.run_of_cut reading.text Scanner.start_ready (cut_text admitted)
        denotes with
    ⟨finished, ran, numbersEqual, operatorsEqual⟩
  have known :
      ∀ symbol ∈ finished.operators,
        ∃ operator : Operator, symbol = [operator.symbol] :=
    Scanner.run_symbolsOnly Scanner.start_symbolsOnly ran
  rcases TokenStream.exists_ofParts? finished.numbers known with
    ⟨stream, made, streamNumbers, streamOperators⟩
  refine ⟨stream, ?_, ?_, ?_⟩
  · rw [tokenize, ran]
    dsimp only
    rw [made]
  · rw [streamNumbers, numbersEqual]
    rfl
  · rw [streamOperators, operatorsEqual]
    rfl

/-- Only admitted readings become streams. -/
theorem exists_reading_of_tokenize
    {expression : Text}
    {stream : TokenStream}
    (tokenized : tokenize expression = .ok stream) :
    ∃ reading : Reading,
      reading.Admitted ∧
        reading.text = expression ∧
          reading.Denotes stream.numbers ∧
            stream.operators = reading.symbols := by
  cases ran : Scanner.start.run expression expression with
  | error fault =>
      rw [tokenize, ran] at tokenized
      cases tokenized
  | ok finished =>
      rcases Scanner.cut_of_run Scanner.start_ready ran with
        ⟨reading, numbers, wasCut, denotes⟩
      have admitted := Reading.admitted_of_cut wasCut denotes
      have text : reading.text = expression := text_of_cut wasCut
      rcases tokenize_text admitted denotes with
        ⟨same, retokenized, numbersEqual, operatorsEqual⟩
      rw [text, tokenized] at retokenized
      cases retokenized
      rw [← numbersEqual] at denotes
      exact ⟨reading, admitted, text, denotes, operatorsEqual⟩

theorem fault_of_tokenize
    {expression : Text}
    {fault : ScanFault}
    (failed : tokenize expression = .error fault) :
    (∃ characters, fault = .invalidNumber characters) ∨
      ∃ character, fault = .unexpectedCharacter character expression := by
  cases ran : Scanner.start.run expression expression with
  | error earlier =>
      rw [tokenize, ran] at failed
      cases failed
      exact Scanner.fault_of_run Scanner.start_ready ran
  | ok finished =>
      rcases
          TokenStream.exists_ofParts? finished.numbers
            (Scanner.run_symbolsOnly Scanner.start_symbolsOnly ran) with
        ⟨stream, made, _⟩
      rw [tokenize, ran] at failed
      dsimp only at failed
      rw [made] at failed
      cases failed

/--
The tokenizer accepts exactly the expressions with an admitted reading, of
which none has two.  The stream has the operators of the reading and the
numbers that its written operands denote; it is balanced exactly if no operand
is empty.  Every other expression is refused, for an operand that is no number
or a character out of place.
-/
theorem tokenize_accepts_admitted_readings (expression : Text) :
    ((∃ stream, tokenize expression = .ok stream) ↔
        ∃ reading : Reading,
          reading.Admitted ∧ reading.text = expression) ∧
      (∀ left right : Reading,
        left.Admitted → left.text = expression →
          right.Admitted → right.text = expression → left = right) ∧
      (∀ reading : Reading,
        reading.Admitted → reading.text = expression →
          ∃ stream,
            tokenize expression = .ok stream ∧
              stream.operators = reading.symbols ∧
              reading.literals.map Binary64.ofLiteral? =
                stream.numbers.map some ∧
              stream.numbers.length ≤ stream.operators.length + 1 ∧
              (stream.isBalanced = true ↔
                ∀ operand ∈ reading.operands, operand ≠ [])) ∧
      ((¬∃ reading : Reading,
          reading.Admitted ∧ reading.text = expression) →
        ∃ fault,
          tokenize expression = .error fault ∧
            ((∃ characters, fault = .invalidNumber characters) ∨
              ∃ character,
                fault = .unexpectedCharacter character expression)) := by
  have accepted :
      (∃ stream, tokenize expression = .ok stream) ↔
        ∃ reading : Reading,
          reading.Admitted ∧ reading.text = expression := by
    constructor
    · rintro ⟨stream, tokenized⟩
      rcases exists_reading_of_tokenize tokenized with
        ⟨reading, admitted, text, _⟩
      exact ⟨reading, admitted, text⟩
    · rintro ⟨reading, admitted, rfl⟩
      rcases admitted.exists_denotes with ⟨numbers, denotes⟩
      rcases tokenize_text admitted denotes with ⟨stream, tokenized, _⟩
      exact ⟨stream, tokenized⟩
  refine ⟨accepted, ?_, ?_, ?_⟩
  · intro left right leftAdmitted leftText rightAdmitted rightText
    exact
      Reading.eq_of_text_eq leftAdmitted rightAdmitted
        (leftText.trans rightText.symm)
  · rintro reading admitted rfl
    rcases admitted.exists_denotes with ⟨numbers, denotes⟩
    rcases tokenize_text admitted denotes with
      ⟨stream, tokenized, numbersEqual, operatorsEqual⟩
    refine ⟨stream, tokenized, operatorsEqual, ?_, ?_, ?_⟩
    · rw [numbersEqual]
      exact denotes
    · rw [numbersEqual, operatorsEqual]
      exact denotes.length_le
    · rw [TokenStream.isBalanced, decide_eq_true_eq, numbersEqual,
        operatorsEqual]
      exact denotes.length_eq_iff
  · intro noReading
    cases tokenized : tokenize expression with
    | ok stream => exact absurd (accepted.mp ⟨stream, tokenized⟩) noReading
    | error fault => exact ⟨fault, rfl, fault_of_tokenize tokenized⟩

end PocketCalc
