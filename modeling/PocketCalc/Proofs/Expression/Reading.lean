import PocketCalc.Expression.Scan
import PocketCalc.Proofs.Number.LiteralGrammar

/-!
# Readings of an expression

A reading takes an expression apart into operand texts, some of them perhaps
empty, and the operators between them.  It is admitted when every operand text
that is not empty is a literal without sign or with a minus, and when no minus
behind an empty operand stands directly before a digit or point; there the
minus belongs to the operand.

Cutting finds the operators of a text by looking at one character, the one
after it and what has been kept so far.  It knows nothing of numbers.  The
results say that cutting loses nothing, that it keeps every literal in one
piece, and that it finds every admitted reading.  Hence an expression has at
most one of them.
-/

namespace PocketCalc

/-- The first operand text, and operators each with the operand text after it. -/
structure Reading where
  first : Text
  rest : List (Operator × Text)
deriving DecidableEq

namespace Reading

/-- The expression that is taken apart. -/
def text (reading : Reading) : Text :=
  reading.first ++
    reading.rest.flatMap fun (operator, operand) => operator.symbol :: operand

/-- The operand texts in their order, with the empty ones. -/
def operands (reading : Reading) : List Text :=
  reading.first :: reading.rest.map Prod.snd

/-- The operator symbols in their order. -/
def symbols (reading : Reading) : List Text :=
  reading.rest.map fun (operator, _) => [operator.symbol]

/-- The operand texts that are not empty, in their order. -/
def literals (reading : Reading) : List Text :=
  reading.operands.filter (!·.isEmpty)

/--
No minus behind an empty operand stands directly before a digit or point.  The
text in front of the operators is the operand before the first of them.
-/
def MinusApart (before : Text) : List (Operator × Text) → Prop
  | [] => True
  | (operator, operand) :: rest =>
      (operator = .subtract → before = [] →
        ∀ character ∈ (text ⟨operand, rest⟩).head?,
          isNumberCharacter character = false) ∧
        MinusApart operand rest

/-- Operands are empty or literals, and each minus is where it belongs. -/
def Admitted (reading : Reading) : Prop :=
  (∀ operand ∈ reading.operands, operand = [] ∨ Literal.IsOperand operand) ∧
    MinusApart reading.first reading.rest

@[simp]
theorem text_single (first : Text) : text ⟨first, []⟩ = first := by
  simp [text]

@[simp]
theorem text_cons
    (first operand : Text)
    (operator : Operator)
    (rest : List (Operator × Text)) :
    text ⟨first, (operator, operand) :: rest⟩ =
      first ++ operator.symbol :: text ⟨operand, rest⟩ := by
  simp [text]

theorem literals_cons
    (first : Text)
    (operator : Operator)
    (following : Reading) :
    literals ⟨first, (operator, following.first) :: following.rest⟩ =
      [first].filter (!·.isEmpty) ++ following.literals := by
  rw [literals, literals, ← List.filter_append]
  rfl

theorem admitted_cons_iff
    (first operand : Text)
    (operator : Operator)
    (rest : List (Operator × Text)) :
    Admitted ⟨first, (operator, operand) :: rest⟩ ↔
      (first = [] ∨ Literal.IsOperand first) ∧
        (operator = .subtract → first = [] →
          ∀ character ∈ (text ⟨operand, rest⟩).head?,
            isNumberCharacter character = false) ∧
          Admitted ⟨operand, rest⟩ := by
  simp only [Admitted, operands, MinusApart, List.map_cons,
    List.forall_mem_cons]
  constructor
  · rintro ⟨⟨isFirst, areOperands⟩, minus, apart⟩
    exact ⟨isFirst, minus, areOperands, apart⟩
  · rintro ⟨isFirst, minus, areOperands, apart⟩
    exact ⟨⟨isFirst, areOperands⟩, minus, apart⟩

end Reading

/-! ## Keeping and cutting -/

/-- Whether a character before `next` goes on with the kept characters. -/
def joins (kept : Text) (character : Char) (next : Option Char) : Bool :=
  isNumberCharacter character ||
    (Literal.isExponentMark character &&
      kept.getLast?.any isNumberCharacter) ||
    (Literal.isSign character &&
      kept.getLast?.any Literal.isExponentMark) ||
    (character = '-' && kept.isEmpty && next.any isNumberCharacter)

/-- Cut a text at its operators; `kept` is what the first operand has so far. -/
def cut (kept : Text) : Text → Option Reading
  | [] => some ⟨kept, []⟩
  | character :: rest =>
      if joins kept character rest.head? then
        cut (kept ++ [character]) rest
      else
        match Operator.ofSymbol? [character] with
        | none => none
        | some operator =>
            (cut [] rest).map fun reading =>
              ⟨kept, (operator, reading.first) :: reading.rest⟩

theorem Operator.eq_symbol_of_ofSymbol?
    {character : Char}
    {operator : Operator}
    (named : Operator.ofSymbol? [character] = some operator) :
    character = operator.symbol := by
  rw [Operator.ofSymbol?.eq_def] at named
  split at named
  all_goals
    first
      | rename_i equal
        cases named
        exact (List.cons.inj equal).1
      | cases named

theorem cut_of_joins
    {kept rest : Text}
    {character : Char}
    (joined : joins kept character rest.head? = true) :
    cut kept (character :: rest) = cut (kept ++ [character]) rest := by
  rw [cut, if_pos joined]

theorem cut_of_operator
    {kept rest : Text}
    {operator : Operator}
    (apart : joins kept operator.symbol rest.head? = false) :
    cut kept (operator.symbol :: rest) =
      (cut [] rest).map fun reading =>
        ⟨kept, (operator, reading.first) :: reading.rest⟩ := by
  rw [cut, apart, if_neg Bool.false_ne_true, Operator.ofSymbol?_symbol]

/--
What one character of a cut text was: it was kept, or it was the first
operator.
-/
theorem cut_cons_eq_some
    {kept rest : Text}
    {character : Char}
    {reading : Reading}
    (wasCut : cut kept (character :: rest) = some reading) :
    (joins kept character rest.head? = true ∧
        cut (kept ++ [character]) rest = some reading) ∨
      ∃ operator following,
        character = operator.symbol ∧
          joins kept operator.symbol rest.head? = false ∧
            cut [] rest = some following ∧
              reading =
                ⟨kept, (operator, following.first) :: following.rest⟩ := by
  rw [cut] at wasCut
  split at wasCut
  · rename_i joined
    exact Or.inl ⟨joined, wasCut⟩
  · rename_i apart
    right
    split at wasCut
    · cases wasCut
    · rename_i operator named
      rcases Option.map_eq_some_iff.mp wasCut with ⟨following, cutRest, equal⟩
      have spelled := Operator.eq_symbol_of_ofSymbol? named
      rw [spelled, Bool.not_eq_true] at apart
      exact ⟨operator, following, spelled, apart, cutRest, equal.symm⟩

/-! ## Cutting loses nothing -/

theorem text_of_cut
    {kept rest : Text}
    {reading : Reading}
    (wasCut : cut kept rest = some reading) :
    reading.text = kept ++ rest := by
  induction rest generalizing kept reading with
  | nil =>
      cases Option.some.inj wasCut
      simp
  | cons character rest ih =>
      rcases cut_cons_eq_some wasCut with
        ⟨_, cutRest⟩ | ⟨operator, following, rfl, _, cutRest, rfl⟩
      · rw [ih cutRest, List.append_assoc, List.singleton_append]
      · rw [Reading.text_cons, ih cutRest, List.nil_append]

/-- The operators of a cut text are not signs of operands. -/
theorem minusApart_of_cut
    {kept rest : Text}
    {reading : Reading}
    (wasCut : cut kept rest = some reading) :
    Reading.MinusApart reading.first reading.rest := by
  induction rest generalizing kept reading with
  | nil =>
      cases Option.some.inj wasCut
      trivial
  | cons character rest ih =>
      rcases cut_cons_eq_some wasCut with
        ⟨_, cutRest⟩ | ⟨operator, following, rfl, apart, cutRest, rfl⟩
      · exact ih cutRest
      · refine ⟨?_, ih cutRest⟩
        rintro rfl rfl character first
        rw [text_of_cut cutRest, List.nil_append, Option.mem_def] at first
        rw [first] at apart
        simp only [joins, Bool.or_eq_false_iff] at apart
        simpa [Operator.symbol] using apart.2

/-- No operand of a cut text starts with a plus. -/
theorem head_of_cut
    {kept rest : Text}
    {reading : Reading}
    (wasCut : cut kept rest = some reading)
    (keptHead : kept.head? ≠ some '+') :
    ∀ operand ∈ reading.operands, operand.head? ≠ some '+' := by
  induction rest generalizing kept reading with
  | nil =>
      cases Option.some.inj wasCut
      simpa [Reading.operands] using keptHead
  | cons character rest ih =>
      rcases cut_cons_eq_some wasCut with
        ⟨joined, cutRest⟩ | ⟨operator, following, rfl, _, cutRest, rfl⟩
      · apply ih cutRest
        cases kept with
        | nil =>
            intro plus
            cases Option.some.inj plus
            exact absurd joined (by simp [joins, isNumberCharacter])
        | cons head kept => exact keptHead
      · intro operand member
        rcases List.mem_cons.mp member with rfl | later
        · exact keptHead
        · exact ih cutRest (by simp) operand later

/-! ## Literals stay in one piece -/

/-- Every character of a text goes on with what was kept before it. -/
def Joined (kept : Text) : Text → Prop
  | [] => True
  | character :: rest =>
      joins kept character rest.head? = true ∧
        Joined (kept ++ [character]) rest

/-- What joins before one character joins also before others behind it. -/
theorem joins_append
    {kept rest : Text}
    {character : Char}
    (joined : joins kept character rest.head? = true)
    (more : Text) :
    joins kept character (rest ++ more).head? = true := by
  cases rest with
  | cons next rest => exact joined
  | nil =>
      simp only [joins, List.head?_nil, Option.any_none, Bool.and_false,
        Bool.or_false] at joined
      simp only [joins, joined, Bool.true_or]

theorem Joined.append
    {kept left right : Text}
    (leftJoined : Joined kept left)
    (rightJoined : Joined (kept ++ left) right) :
    Joined kept (left ++ right) := by
  induction left generalizing kept with
  | nil => simpa using rightJoined
  | cons character left ih =>
      refine ⟨joins_append leftJoined.1 right, ih leftJoined.2 ?_⟩
      rw [List.append_assoc, List.singleton_append]
      exact rightJoined

theorem joined_numberCharacters
    {run : Text}
    (characters : ∀ character ∈ run, isNumberCharacter character = true)
    (kept : Text) :
    Joined kept run := by
  induction run generalizing kept with
  | nil => trivial
  | cons character run ih =>
      rw [List.forall_mem_cons] at characters
      refine ⟨?_, ih characters.2 _⟩
      simp [joins, characters.1]

theorem isNumberCharacter_of_isDigit
    {character : Char}
    (digit : character.isDigit = true) :
    isNumberCharacter character = true := by
  simp [isNumberCharacter, digit]

theorem numberCharacters_of_isMantissa
    {mantissa : Text}
    (isMantissa : Literal.IsMantissa mantissa) :
    ∀ character ∈ mantissa, isNumberCharacter character = true := by
  intro character member
  rcases isMantissa.1 character member with digit | rfl
  · exact isNumberCharacter_of_isDigit digit
  · decide

theorem Operator.symbol_plain (operator : Operator) :
    isNumberCharacter operator.symbol = false ∧
      Literal.isExponentMark operator.symbol = false := by
  cases operator <;> decide

/-- Whether the last character of a text is a digit or point. -/
def EndsInNumber (text : Text) : Prop :=
  text.getLast?.any isNumberCharacter = true

theorem endsInNumber_append
    {run : Text}
    (nonempty : run ≠ [])
    (characters : ∀ character ∈ run, isNumberCharacter character = true)
    (before : Text) :
    EndsInNumber (before ++ run) := by
  have last := List.getLast?_eq_some_getLast nonempty
  rw [EndsInNumber, List.getLast?_append, last, Option.some_or]
  exact characters _ (List.getLast_mem nonempty)

theorem EndsInNumber.ne_nil
    {text : Text}
    (ends : EndsInNumber text) :
    text ≠ [] := by
  rintro rfl
  cases ends

theorem endsInNumber_append_iff
    {after : Text}
    (nonempty : after ≠ [])
    (before : Text) :
    EndsInNumber (before ++ after) ↔ EndsInNumber after := by
  rw [EndsInNumber, EndsInNumber, List.getLast?_append,
    List.getLast?_eq_some_getLast nonempty, Option.some_or]

/-- A digit or point at the end is no operator symbol. -/
theorem EndsInNumber.exists_not_symbol
    {text : Text}
    (ends : EndsInNumber text) :
    ∃ character ∈ text, Operator.isSymbol character = false := by
  have nonempty := ends.ne_nil
  rw [EndsInNumber, List.getLast?_eq_some_getLast nonempty,
    Option.any_some] at ends
  refine ⟨text.getLast nonempty, List.getLast_mem nonempty, ?_⟩
  by_contra symbol
  rw [Bool.not_eq_false] at symbol
  rcases Operator.exists_symbol_eq symbol with ⟨operator, equal⟩
  rw [← equal, operator.symbol_plain.1] at ends
  cases ends

theorem joined_of_isExponent
    {kept exponent : Text}
    (ends : EndsInNumber kept)
    (isExponent : Literal.IsExponent exponent) :
    Joined kept exponent ∧ EndsInNumber (kept ++ exponent) := by
  rcases isExponent with
    ⟨mark, sign, digits, rfl, marked, signs, nonempty, areDigits⟩
  have characters :
      ∀ character ∈ digits, isNumberCharacter character = true :=
    fun character member =>
      isNumberCharacter_of_isDigit (areDigits character member)
  have signJoined : Joined (kept ++ [mark]) sign := by
    rcases signs with rfl | rfl | rfl
    · trivial
    · exact ⟨by simp [joins, Literal.isSign, marked], trivial⟩
    · exact ⟨by simp [joins, Literal.isSign, marked], trivial⟩
  refine ⟨⟨?_, signJoined.append (joined_numberCharacters characters _)⟩, ?_⟩
  · rw [EndsInNumber] at ends
    simp [joins, marked, ends]
  · rw [← List.cons_append, ← List.append_assoc]
    exact endsInNumber_append nonempty characters _

theorem joined_of_isUnsigned
    {unsigned : Text}
    (isUnsigned : Literal.IsUnsigned unsigned)
    (kept : Text) :
    Joined kept unsigned ∧ EndsInNumber (kept ++ unsigned) := by
  rcases isUnsigned with ⟨mantissa, exponent, rfl, isMantissa, isExponent⟩
  have characters := numberCharacters_of_isMantissa isMantissa
  have nonempty : mantissa ≠ [] := by
    rcases isMantissa with ⟨_, _, _, member, _⟩
    exact List.ne_nil_of_mem member
  have ends := endsInNumber_append nonempty characters kept
  have joined := joined_numberCharacters characters kept
  rcases isExponent with rfl | isExponent
  · rw [List.append_nil]
    exact ⟨joined, ends⟩
  · have after := joined_of_isExponent ends isExponent
    rw [← List.append_assoc]
    exact ⟨joined.append after.1, after.2⟩

/-- A literal is kept in one piece and ends in a digit or point. -/
theorem joined_of_isOperand
    {operand : Text}
    (isOperand : Literal.IsOperand operand) :
    Joined [] operand ∧ EndsInNumber operand := by
  rcases isOperand with isUnsigned | ⟨unsigned, rfl, isUnsigned⟩
  · exact joined_of_isUnsigned isUnsigned []
  · rcases Literal.exists_cons_of_isUnsigned isUnsigned with
      ⟨first, rest, rfl, start⟩
    have after := joined_of_isUnsigned isUnsigned ['-']
    refine ⟨⟨?_, after.1⟩, after.2⟩
    have number : isNumberCharacter first = true := by
      rcases start with digit | rfl
      · exact isNumberCharacter_of_isDigit digit
      · decide
    simp [joins, number]

/-! ## Cutting finds every admitted reading -/

theorem cut_append_of_joined
    {kept run : Text}
    (joined : Joined kept run)
    (rest : Text) :
    cut kept (run ++ rest) = cut (kept ++ run) rest := by
  induction run generalizing kept with
  | nil => rw [List.nil_append, List.append_nil]
  | cons character run ih =>
      rw [List.cons_append, cut_of_joins (joins_append joined.1 rest),
        ih joined.2, List.append_assoc, List.singleton_append]

/-- Behind a digit or point every operator symbol is an operator. -/
theorem joins_symbol_of_endsInNumber
    {kept : Text}
    (ends : EndsInNumber kept)
    (operator : Operator)
    (next : Option Char) :
    joins kept operator.symbol next = false := by
  rw [EndsInNumber] at ends
  cases last : kept.getLast? with
  | none => simp [last] at ends
  | some character =>
      have nonempty : kept ≠ [] := by
        rintro rfl
        cases last
      have unmarked : Literal.isExponentMark character = false := by
        rw [last, Option.any_some] at ends
        by_contra marked
        rw [Bool.not_eq_false] at marked
        have stop := Literal.stop_of_isExponentMark marked
        simp [isNumberCharacter, stop.1, stop.2] at ends
      simp [joins, operator.symbol_plain.1, operator.symbol_plain.2, last,
        unmarked, nonempty]

/-- Where an operand is expected, only a minus before a number is no operator. -/
theorem joins_nil_symbol
    {operator : Operator}
    {next : Option Char}
    (minus :
      operator = .subtract →
        ∀ character ∈ next, isNumberCharacter character = false) :
    joins [] operator.symbol next = false := by
  simp only [joins, operator.symbol_plain.1, operator.symbol_plain.2,
    List.getLast?_nil, Option.any_none, Bool.and_false, Bool.or_false,
    List.isEmpty_nil, Bool.and_true]
  by_cases isMinus : operator = .subtract
  · cases next with
    | none => simp
    | some character => simp [minus isMinus character rfl]
  · have other : operator.symbol ≠ '-' := by
      intro equal
      cases operator <;> simp_all [Operator.symbol]
    simp [other]

theorem cut_text
    {reading : Reading}
    (admitted : reading.Admitted) :
    cut [] reading.text = some reading := by
  rcases reading with ⟨first, rest⟩
  induction rest generalizing first with
  | nil =>
      have isFirst := admitted.1 first List.mem_cons_self
      rw [Reading.text_single]
      have joined : Joined [] first := by
        rcases isFirst with rfl | isOperand
        · trivial
        · exact (joined_of_isOperand isOperand).1
      have whole := cut_append_of_joined joined []
      rw [List.append_nil] at whole
      exact whole
  | cons pair rest ih =>
      rcases pair with ⟨operator, operand⟩
      rcases (Reading.admitted_cons_iff _ _ _ _).mp admitted with
        ⟨isFirst, minus, following⟩
      rw [Reading.text_cons]
      rcases isFirst with rfl | isOperand
      · rw [List.nil_append,
          cut_of_operator (joins_nil_symbol fun isMinus => minus isMinus rfl),
          ih operand following]
        rfl
      · have joined := joined_of_isOperand isOperand
        rw [cut_append_of_joined joined.1, List.nil_append,
          cut_of_operator (joins_symbol_of_endsInNumber joined.2 _ _),
          ih operand following]
        rfl

/-- An expression has at most one admitted reading. -/
theorem Reading.eq_of_text_eq
    {left right : Reading}
    (leftAdmitted : left.Admitted)
    (rightAdmitted : right.Admitted)
    (texts : left.text = right.text) :
    left = right := by
  have leftCut := cut_text leftAdmitted
  rw [texts, cut_text rightAdmitted] at leftCut
  exact (Option.some.inj leftCut).symm

/-! ## Complete readings -/

namespace Reading

/-- Every operand is a literal; none is empty. -/
def Complete (reading : Reading) : Prop :=
  ∀ operand ∈ reading.operands, Literal.IsOperand operand

theorem complete_cons_iff
    (first operand : Text)
    (operator : Operator)
    (rest : List (Operator × Text)) :
    Complete ⟨first, (operator, operand) :: rest⟩ ↔
      Literal.IsOperand first ∧ Complete ⟨operand, rest⟩ := by
  simp only [Complete, operands, List.map_cons, List.forall_mem_cons]

/-- Without empty operands no minus can be taken for a sign. -/
theorem Complete.admitted
    {reading : Reading}
    (complete : reading.Complete) :
    reading.Admitted := by
  rcases reading with ⟨first, rest⟩
  induction rest generalizing first with
  | nil =>
      exact ⟨fun operand member => Or.inr (complete operand member), trivial⟩
  | cons pair rest ih =>
      rcases pair with ⟨operator, operand⟩
      rcases (complete_cons_iff _ _ _ _).mp complete with ⟨isOperand, following⟩
      rw [admitted_cons_iff]
      refine ⟨Or.inr isOperand, ?_, ih operand following⟩
      intro _ empty
      exact absurd empty isOperand.ne_nil

theorem Complete.literals_eq
    {reading : Reading}
    (complete : reading.Complete) :
    reading.literals = reading.operands := by
  rw [literals, List.filter_eq_self]
  intro operand member
  simpa using (complete operand member).ne_nil

end Reading

/-! ## Glyphs -/

theorem plainCharacter_of_joins
    {kept : Text}
    {character : Char}
    {next : Option Char}
    (joined : joins kept character next = true) :
    plainCharacter character = character := by
  rw [plainCharacter.eq_def]
  split
  · exact absurd joined (by
      simp [joins, isNumberCharacter, Literal.isExponentMark, Literal.isSign])
  · exact absurd joined (by
      simp [joins, isNumberCharacter, Literal.isExponentMark, Literal.isSign])
  · exact absurd joined (by
      simp [joins, isNumberCharacter, Literal.isExponentMark, Literal.isSign])
  · rfl

/-- There is no glyph in a literal. -/
theorem sanitize_of_joined
    {kept run : Text}
    (joined : Joined kept run) :
    sanitize run = run := by
  induction run generalizing kept with
  | nil => rfl
  | cons character run ih =>
      rw [sanitize, List.map_cons, plainCharacter_of_joins joined.1]
      exact congrArg (character :: ·) (ih joined.2)

theorem sanitize_append (left right : Text) :
    sanitize (left ++ right) = sanitize left ++ sanitize right :=
  List.map_append

theorem sanitize_cons (character : Char) (rest : Text) :
    sanitize (character :: rest) = plainCharacter character :: sanitize rest :=
  rfl

end PocketCalc
