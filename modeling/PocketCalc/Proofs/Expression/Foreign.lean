import PocketCalc.Proofs.Expression.Classification
import PocketCalc.Proofs.Expression.ScanPlaces

/-!
# Foreign characters

A character is foreign where it stands if expressions never have it, or if it
is an exponent mark that does not stand directly behind a digit or point.  A
foreign character is neither kept nor cut at, so an expression with one is
refused whatever stands before and behind it.

Conversely, a scan that stops at an unexpected character has met a foreign one:
the stray characters of an expression without glyphs are its foreign ones.

The beginning of a text up to a foreign character spoils every expression that
begins in the same way.  Evaluating a spoiled expression fails because it
cannot be read.
-/

namespace PocketCalc

/--
Whether an expression can have a character at all: digits, the point, exponent
marks, and operators as symbols or display glyphs.
-/
def isExpressionCharacter (character : Char) : Bool :=
  isNumberCharacter character || Literal.isExponentMark character ||
    Operator.isSymbol (plainCharacter character)

/-- Whether a character behind a text is foreign. -/
def isForeign (before : Text) (character : Char) : Bool :=
  !isExpressionCharacter character ||
    (Literal.isExponentMark character &&
      !before.getLast?.any isNumberCharacter)

/-- Whether a text has a foreign character at a place. -/
def foreignAt (text : Text) (place : Nat) : Bool :=
  text[place]?.any (isForeign (text.take place))

/-- The first foreign character of a text stands at a place. -/
structure FirstForeign (text : Text) (place : Nat) : Prop where
  foreign : foreignAt text place = true
  first : ∀ earlier, earlier < place → foreignAt text earlier = false

/-- A foreign character at the front is the first one. -/
theorem FirstForeign.of_front
    {text : Text}
    (foreign : foreignAt text 0 = true) :
    FirstForeign text 0 where
  foreign := foreign
  first := by
    intro earlier before
    exact absurd before (Nat.not_lt_zero earlier)

/-- An expression begins like a text up to and with the character at a place. -/
def Spoils (text : Text) (place : Nat) (expression : Text) : Prop :=
  text.take (place + 1) <+: expression

/-! ## Foreign characters are neither kept nor cut at -/

section ForeignCharacter

variable
  {before : Text}
  {character : Char}

theorem not_number_of_foreign
    (foreign : isForeign before character = true) :
    isNumberCharacter character = false := by
  rw [← Bool.not_eq_true]
  intro number
  rw [isForeign, isExpressionCharacter, number] at foreign
  simp only [Bool.true_or, Bool.not_true, Bool.false_or,
    Bool.and_eq_true] at foreign
  have stop := Literal.stop_of_isExponentMark foreign.1
  simp [isNumberCharacter, stop.1, stop.2] at number

theorem not_symbol_of_foreign
    (foreign : isForeign before character = true) :
    Operator.isSymbol character = false := by
  rw [← Bool.not_eq_true]
  intro symbol
  rcases Operator.exists_symbol_eq symbol with ⟨operator, rfl⟩
  have known : isExpressionCharacter operator.symbol = true := by
    cases operator <;> rfl
  rw [isForeign, known, operator.symbol_plain.2] at foreign
  cases foreign

theorem not_sign_of_foreign
    (foreign : isForeign before character = true) :
    Literal.isSign character = false := by
  have noSymbol := not_symbol_of_foreign foreign
  rw [← Bool.not_eq_true]
  intro sign
  rw [Literal.isSign, Bool.or_eq_true, decide_eq_true_eq,
    decide_eq_true_eq] at sign
  rcases sign with rfl | rfl
  · cases noSymbol
  · cases noSymbol

/-- Only the end of the text before a character counts. -/
theorem isForeign_of_append
    {front : Text}
    (foreign : isForeign (front ++ before) character = true) :
    isForeign before character = true := by
  rw [isForeign, Bool.or_eq_true] at foreign ⊢
  rcases foreign with unknown | marked
  · exact Or.inl unknown
  · right
    rw [Bool.and_eq_true] at marked ⊢
    refine ⟨marked.1, ?_⟩
    rcases List.eq_nil_or_concat before with rfl | ⟨others, last, rfl⟩
    · rfl
    · rw [List.concat_eq_append, ← List.append_assoc,
        List.getLast?_concat] at marked
      rw [List.concat_eq_append, List.getLast?_concat]
      exact marked.2

/-- Nothing that is kept goes on with a foreign character. -/
theorem joins_of_foreign
    (foreign : isForeign before character = true)
    (next : Option Char) :
    joins before character next = false := by
  have noMark :
      (Literal.isExponentMark character &&
        before.getLast?.any isNumberCharacter) = false := by
    rw [← Bool.not_eq_true]
    intro marked
    rw [Bool.and_eq_true] at marked
    have known : isExpressionCharacter character = true := by
      rw [isExpressionCharacter, marked.1, Bool.or_true, Bool.true_or]
    rw [isForeign, known, marked.1, marked.2] at foreign
    cases foreign
  have noMinus : character ≠ '-' := by
    rintro rfl
    have noSign := not_sign_of_foreign foreign
    cases noSign
  simp [joins, not_number_of_foreign foreign, noMark,
    not_sign_of_foreign foreign, noMinus]

/--
No text is cut across a foreign character.  What is kept at any point ends the
text that has been read, unless nothing is kept and an operator ends it.
-/
theorem cut_append_foreign
    {kept : Text}
    (foreign : isForeign (kept ++ before) character = true)
    (rest : Text) :
    cut kept (before ++ character :: rest) = none := by
  induction before generalizing kept with
  | nil =>
      rw [List.append_nil] at foreign
      have noOperator : Operator.ofSymbol? [character] = none := by
        cases named : Operator.ofSymbol? [character] with
        | none => rfl
        | some operator =>
            have noSymbol := not_symbol_of_foreign foreign
            rw [Operator.eq_symbol_of_ofSymbol? named,
              operator.isSymbol_symbol] at noSymbol
            cases noSymbol
      rw [List.nil_append, cut, joins_of_foreign foreign,
        if_neg Bool.false_ne_true, noOperator]
  | cons first before ih =>
      rw [List.cons_append, cut]
      split
      · apply ih
        rw [List.append_assoc, List.singleton_append]
        exact foreign
      · split
        · rfl
        · have later : isForeign ([] ++ before) character = true := by
            rw [← List.singleton_append, ← List.append_assoc] at foreign
            exact isForeign_of_append foreign
          rw [ih later, Option.map_none]

theorem tokenize_of_foreign
    (foreign : isForeign before character = true)
    (rest : Text) :
    ∃ fault, tokenize (before ++ character :: rest) = .error fault := by
  cases tokenized : tokenize (before ++ character :: rest) with
  | error fault => exact ⟨fault, rfl⟩
  | ok stream =>
      rcases exists_reading_of_tokenize tokenized with
        ⟨reading, admitted, text, _⟩
      have wasCut := cut_text admitted
      rw [← List.nil_append before] at foreign
      have noCut := cut_append_foreign foreign rest
      rw [text, noCut] at wasCut
      cases wasCut

end ForeignCharacter

/-! ## Display glyphs make no difference -/

theorem isNumberCharacter_plainCharacter (character : Char) :
    isNumberCharacter (plainCharacter character) =
      isNumberCharacter character := by
  rw [plainCharacter.eq_def]
  split <;> rfl

/-- A glyph is no digit and no point, and neither is the symbol it stands for. -/
theorem plainCharacter_number (character : Char) :
    plainCharacter character = character ∨
      (isNumberCharacter character = false ∧
        isNumberCharacter (plainCharacter character) = false) := by
  rw [plainCharacter.eq_def]
  split
  · exact Or.inr ⟨rfl, rfl⟩
  · exact Or.inr ⟨rfl, rfl⟩
  · exact Or.inr ⟨rfl, rfl⟩
  · exact Or.inl rfl

theorem isExponentMark_plainCharacter (character : Char) :
    Literal.isExponentMark (plainCharacter character) =
      Literal.isExponentMark character := by
  rw [plainCharacter.eq_def]
  split <;> rfl

theorem plainCharacter_plainCharacter (character : Char) :
    plainCharacter (plainCharacter character) = plainCharacter character := by
  rw [plainCharacter.eq_def character]
  split
  · rfl
  · rfl
  · rfl
  · rename_i noTimes noDivision noMinus
    rw [plainCharacter.eq_def]
    split
    · exact absurd rfl noTimes
    · exact absurd rfl noDivision
    · exact absurd rfl noMinus
    · rfl

theorem Operator.plainCharacter_symbol (operator : Operator) :
    plainCharacter operator.symbol = operator.symbol := by
  cases operator <;> rfl

/-- Without glyphs nothing is left to replace. -/
theorem sanitize_sanitize (text : Text) :
    sanitize (sanitize text) = sanitize text := by
  rw [sanitize, sanitize, List.map_map]
  exact List.map_congr_left fun character _ =>
    plainCharacter_plainCharacter character

theorem sanitize_of_sanitize_eq_append
    {text front rest : Text}
    (split : sanitize text = front ++ rest) :
    sanitize front = front := by
  rcases List.map_eq_append_iff.mp split with ⟨before, _, _, rfl, _⟩
  exact sanitize_sanitize before

/-- A test that does not see glyphs has the same answer at the end of a text. -/
theorem any_getLast?_sanitize
    {test : Char → Bool}
    (blind : ∀ character, test (plainCharacter character) = test character)
    (text : Text) :
    (sanitize text).getLast?.any test = text.getLast?.any test := by
  rw [sanitize, List.getLast?_map, Option.any_map]
  congr 1
  funext last
  exact blind last

/-- Glyphs make no difference to whether a text ends in a digit or point. -/
theorem endsInNumber_sanitize_iff (text : Text) :
    EndsInNumber (sanitize text) ↔ EndsInNumber text := by
  rw [EndsInNumber, any_getLast?_sanitize isNumberCharacter_plainCharacter,
    EndsInNumber]

/-- An operator, as a symbol or as a glyph, is no digit and no point. -/
theorem not_endsInNumber_concat
    {character : Char}
    {operator : Operator}
    (spelled : plainCharacter character = operator.symbol)
    (front : Text) :
    ¬EndsInNumber (front ++ [character]) := by
  rw [EndsInNumber, List.getLast?_concat, Option.any_some,
    ← isNumberCharacter_plainCharacter, spelled, operator.symbol_plain.1]
  exact Bool.false_ne_true

theorem plainCharacter_of_mem_sanitize
    {text : Text}
    {character : Char}
    (member : character ∈ sanitize text) :
    plainCharacter character = character := by
  rcases List.mem_map.mp member with ⟨original, _, rfl⟩
  exact plainCharacter_plainCharacter original

/-- What is last without glyphs stands for a last character. -/
theorem exists_concat_of_sanitize_eq
    {text front : Text}
    {last : Char}
    (split : sanitize text = front ++ [last]) :
    ∃ before character,
      text = before ++ [character] ∧
        front = sanitize before ∧ plainCharacter character = last := by
  rcases List.map_eq_append_iff.mp split with ⟨before, others, rfl, rfl, spelled⟩
  rcases List.map_eq_singleton_iff.mp spelled with ⟨character, rfl, equal⟩
  exact ⟨before, character, rfl, rfl, equal⟩

theorem isForeign_sanitize (before : Text) (character : Char) :
    isForeign (sanitize before) (plainCharacter character) =
      isForeign before character := by
  rw [isForeign, isForeign, isExpressionCharacter, isExpressionCharacter,
    any_getLast?_sanitize isNumberCharacter_plainCharacter,
    isNumberCharacter_plainCharacter, isExponentMark_plainCharacter,
    plainCharacter_plainCharacter]

/-- Expressions that are read alike have the same outcome. -/
theorem evaluate_of_sanitize_eq
    {left right : Text}
    {outcome : Outcome}
    {notices : List Notice}
    (same : sanitize left = sanitize right)
    (evaluated : evaluate left = .ok (outcome, notices)) :
    ∃ others, evaluate right = .ok (outcome, others) := by
  rw [evaluate, same] at evaluated
  rw [evaluate]
  cases tokenized : tokenize (sanitize right) with
  | error fault =>
      rw [tokenized] at evaluated
      cases evaluated
      exact ⟨[], rfl⟩
  | ok stream =>
      rw [tokenized] at evaluated
      dsimp only at evaluated ⊢
      cases reduced : stream.reduce with
      | error unknown =>
          rw [reduced] at evaluated
          cases evaluated
      | ok found =>
          rw [reduced] at evaluated
          cases evaluated
          exact ⟨_, rfl⟩

/-! ## Unexpected characters are foreign -/

/-- A character is foreign if what it is read as is stray. -/
theorem isForeign_eq_isStray (before : Text) (character : Char) :
    isForeign before character = isStray before (plainCharacter character) := by
  rw [isForeign, isExpressionCharacter, isStray,
    isNumberCharacter_plainCharacter, isExponentMark_plainCharacter]

/-- An expression that is refused for an unexpected character has a foreign one. -/
theorem exists_foreign_of_unexpected
    {expression text : Text}
    {character : Char}
    (failed :
      tokenize (sanitize expression) =
        .error (.unexpectedCharacter character text)) :
    ∃ before foreign after,
      expression = before ++ foreign :: after ∧
        isForeign before foreign = true := by
  rcases fault_of_tokenize failed with ⟨_, other⟩ | ⟨_, same⟩
  · cases other
  · cases same
    rcases tokenize_unexpected_iff_exists_firstStray.mp failed with
      ⟨place, ⟨found, stray, _⟩, _⟩
    rw [sanitize, List.getElem?_map] at found
    rcases Option.map_eq_some_iff.mp found with ⟨foreign, original, rfl⟩
    rcases List.getElem?_eq_some_iff.mp original with ⟨inside, rfl⟩
    refine
      ⟨expression.take place, expression[place], expression.drop (place + 1),
        ?_, ?_⟩
    · rw [← List.drop_eq_getElem_cons inside, List.take_append_drop]
    · rw [← isForeign_sanitize, isForeign_eq_isStray,
        plainCharacter_plainCharacter, sanitize, List.map_take]
      exact stray

/-! ## Spoiled expressions -/

section Spoiled

variable
  {text other expression : Text}
  {place : Nat}

/-- A beginning that spoils ends with its foreign character. -/
theorem exists_take_eq_of_foreignAt
    (foreign : foreignAt text place = true) :
    ∃ character,
      text.take (place + 1) = text.take place ++ [character] ∧
        isForeign (text.take place) character = true := by
  rw [foreignAt, Option.any_eq_true] at foreign
  rcases foreign with ⟨character, found, isForeign⟩
  refine ⟨character, ?_, isForeign⟩
  rw [List.take_add_one, found]
  rfl

/-- Texts with a common beginning have the same foreign characters in it. -/
theorem foreignAt_of_begins
    (begins : text <+: other)
    (inside : place < text.length) :
    foreignAt other place = foreignAt text place := by
  rcases begins with ⟨rest, rfl⟩
  rw [foreignAt, foreignAt, List.getElem?_append_left inside,
    List.take_append_of_le_length (Nat.le_of_lt inside)]

theorem Spoils.length_lt
    (foreign : foreignAt text place = true)
    (spoils : Spoils text place expression) :
    place < expression.length := by
  rw [foreignAt, Option.any_eq_true] at foreign
  rcases foreign with ⟨character, found, _⟩
  have inside := (List.getElem?_eq_some_iff.mp found).1
  have shorter := spoils.length_le
  rw [List.length_take] at shorter
  omega

/-- A spoiled expression has the foreign character itself. -/
theorem Spoils.foreignAt_expression
    (foreign : foreignAt text place = true)
    (spoils : Spoils text place expression) :
    foreignAt expression place = true := by
  have inside :=
    Spoils.length_lt foreign (List.prefix_refl (text.take (place + 1)))
  rw [foreignAt_of_begins spoils inside,
    ← foreignAt_of_begins (List.take_prefix _ text) inside]
  exact foreign

theorem Spoils.append
    (spoils : Spoils text place expression)
    (more : Text) :
    Spoils text place (expression ++ more) :=
  spoils.trans (List.prefix_append expression more)

/-- Taking digits and points from the end leaves what spoils. -/
theorem Spoils.of_append_number
    {run : Text}
    (foreign : foreignAt text place = true)
    (spoils : Spoils text place (expression ++ run))
    (characters : ∀ character ∈ run, isNumberCharacter character = true) :
    Spoils text place expression := by
  rcases
      List.prefix_or_prefix_of_prefix spoils
        (List.prefix_append expression run) with
    inside | ⟨front, split⟩
  · exact inside
  · rcases exists_take_eq_of_foreignAt foreign with ⟨character, taken, isForeign⟩
    rcases List.eq_nil_or_concat front with rfl | ⟨others, last, rfl⟩
    · rw [List.append_nil] at split
      exact ⟨[], (List.append_nil _).trans split.symm⟩
    · rw [taken, List.concat_eq_append, ← List.append_assoc] at split
      have same := (List.append_inj' split rfl).2
      rw [Spoils, taken, ← split, List.append_assoc,
        List.prefix_append_right_inj] at spoils
      have number : isNumberCharacter last = true := by
        apply characters
        apply spoils.subset
        exact List.mem_append_right _ (List.mem_singleton_self last)
      rw [(List.cons.inj same).1, not_number_of_foreign isForeign] at number
      cases number

/-- Evaluating a spoiled expression fails because it cannot be read. -/
theorem Spoils.evaluate_unreadable
    (foreign : foreignAt text place = true)
    (spoils : Spoils text place expression) :
    ∃ fault, evaluate expression = .ok (.failure (.unreadable fault), []) := by
  rcases exists_take_eq_of_foreignAt foreign with ⟨character, taken, isForeign⟩
  rcases spoils with ⟨rest, rfl⟩
  have plain :
      sanitize (text.take (place + 1) ++ rest) =
        sanitize (text.take place) ++
          plainCharacter character :: sanitize rest := by
    rw [taken, List.append_assoc, List.singleton_append, sanitize_append,
      sanitize_cons]
  rw [← isForeign_sanitize] at isForeign
  rcases tokenize_of_foreign isForeign (sanitize rest) with ⟨fault, failed⟩
  rw [← plain] at failed
  refine ⟨fault, ?_⟩
  rw [evaluate, failed]

end Spoiled

end PocketCalc
