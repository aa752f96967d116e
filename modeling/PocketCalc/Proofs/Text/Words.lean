import PocketCalc.Text.Basic

/-!
# Words of the pieces of a text

A blank belongs to no word, so cutting a text at a blank cuts its words there.
From this one equation follows that blanks at the ends of a text do not count,
so that lines keep their words when they are stripped, and that words written
with spaces between them are read again.
-/

namespace PocketCalc

namespace Text

section Blanks

variable
  {blanks : Text}
  {character : Char}

@[simp]
theorem words_nil : words [] = [] := by
  rw [words, List.splitOnP_nil]
  rfl

/-- A text is cut at a blank into two texts with its words. -/
theorem words_append_blank
    (blank : isBlank character = true)
    (before after : Text) :
    words (before ++ character :: after) = words before ++ words after := by
  rw [words, List.splitOnP_append_cons before after blank, List.filter_append]
  rfl

theorem words_blank_cons
    (blank : isBlank character = true)
    (text : Text) :
    words (character :: text) = words text :=
  words_append_blank blank [] text

theorem words_blanks_append
    (allBlank : ∀ character ∈ blanks, isBlank character = true)
    (text : Text) :
    words (blanks ++ text) = words text := by
  induction blanks with
  | nil => rfl
  | cons first blanks ih =>
      rcases List.forall_mem_cons.mp allBlank with ⟨firstBlank, othersBlank⟩
      rw [List.cons_append, words_blank_cons firstBlank]
      exact ih othersBlank

theorem words_append_blanks_append
    (nonempty : blanks ≠ [])
    (allBlank : ∀ character ∈ blanks, isBlank character = true)
    (before after : Text) :
    words (before ++ blanks ++ after) = words before ++ words after := by
  cases blanks with
  | nil => exact absurd rfl nonempty
  | cons first blanks =>
      rcases List.forall_mem_cons.mp allBlank with ⟨firstBlank, othersBlank⟩
      rw [List.append_assoc, List.cons_append, words_append_blank firstBlank,
        words_blanks_append othersBlank]

theorem words_append_blanks
    (allBlank : ∀ character ∈ blanks, isBlank character = true)
    (text : Text) :
    words (text ++ blanks) = words text := by
  cases blanks with
  | nil => rw [List.append_nil]
  | cons first blanks =>
      have cut :=
        words_append_blanks_append (List.cons_ne_nil first blanks) allBlank
          text []
      rw [List.append_nil, words_nil, List.append_nil] at cut
      exact cut

end Blanks

/-! ## Single words -/

/-- A word has characters, and none of them is a blank. -/
def IsWord (word : Text) : Prop :=
  word ≠ [] ∧ ∀ character ∈ word, isBlank character = false

theorem isWord_of_any_eq_false
    {word : Text}
    (nonempty : word ≠ [])
    (noBlank : word.any isBlank = false) :
    IsWord word := by
  rw [List.any_eq_false] at noBlank
  refine ⟨nonempty, ?_⟩
  intro character member
  exact eq_false_of_ne_true (noBlank character member)

theorem words_of_isWord
    {word : Text}
    (isWord : IsWord word) :
    words word = [word] := by
  rw [words, List.splitOnP_eq_singleton isWord.2]
  apply List.filter_cons_of_pos
  rw [Bool.not_eq_true', List.isEmpty_eq_false_iff]
  exact isWord.1

theorem words_word_blank_append
    {word : Text}
    {blank : Char}
    (isWord : IsWord word)
    (isBlank : isBlank blank = true)
    (text : Text) :
    words (word ++ blank :: text) = word :: words text := by
  rw [words_append_blank isBlank, words_of_isWord isWord]
  rfl

/-- Cutting at the blanks leaves pieces without blanks. -/
theorem not_isBlank_of_mem_splitOnP
    {text piece : Text}
    (member : piece ∈ text.splitOnP isBlank) :
    ∀ character ∈ piece, isBlank character = false := by
  induction text generalizing piece with
  | nil =>
      rw [List.splitOnP_nil, List.mem_singleton] at member
      rw [member]
      exact List.forall_mem_nil _
  | cons first text ih =>
      cases blank : isBlank first with
      | true =>
          rw [List.splitOnP_cons_eq_if_modifyHead, if_pos blank,
            List.mem_cons] at member
          rcases member with rfl | later
          · exact List.forall_mem_nil _
          · exact ih later
      | false =>
          rw [List.splitOnP_cons_eq_if_modifyHead,
            if_neg (ne_true_of_eq_false blank)] at member
          cases pieces : text.splitOnP isBlank with
          | nil => exact absurd pieces (List.splitOnP_ne_nil _ _)
          | cons head pieces =>
              rw [pieces] at ih
              rw [pieces, List.modifyHead_cons, List.mem_cons] at member
              rcases member with rfl | later
              · rw [List.forall_mem_cons]
                exact ⟨blank, ih List.mem_cons_self⟩
              · exact ih (List.mem_cons_of_mem _ later)

theorem isWord_of_mem_words
    {text word : Text}
    (member : word ∈ words text) :
    IsWord word := by
  rw [words, List.mem_filter, Bool.not_eq_true',
    List.isEmpty_eq_false_iff] at member
  exact ⟨member.2, not_isBlank_of_mem_splitOnP member.1⟩

/-- Words that are written with spaces between them are read again. -/
theorem words_joined
    {parts : List Text}
    (areWords : ∀ part ∈ parts, IsWord part) :
    words (joined [' '] parts) = parts := by
  induction parts with
  | nil => exact words_nil
  | cons first parts ih =>
      rcases List.forall_mem_cons.mp areWords with ⟨firstIsWord, othersAre⟩
      cases parts with
      | nil =>
          rw [joined, List.intercalate_singleton]
          exact words_of_isWord firstIsWord
      | cons second parts =>
          rw [joined, List.intercalate_cons_cons, List.append_assoc,
            List.singleton_append, words_word_blank_append firstIsWord rfl]
          exact congrArg (first :: ·) (ih othersAre)

/-! ## Stripped texts -/

/-- A text is its stripped text between blanks. -/
theorem exists_eq_append_strip (text : Text) :
    ∃ before after,
      text = before ++ strip text ++ after ∧
        (∀ character ∈ before, isBlank character = true) ∧
          ∀ character ∈ after, isBlank character = true := by
  have front :
      text.takeWhile isBlank ++ text.dropWhile isBlank = text :=
    List.takeWhile_append_dropWhile
  have back :
      strip text ++ ((text.dropWhile isBlank).reverse.takeWhile isBlank).reverse =
        text.dropWhile isBlank := by
    rw [strip, ← List.reverse_append, List.takeWhile_append_dropWhile,
      List.reverse_reverse]
  refine
    ⟨text.takeWhile isBlank,
      ((text.dropWhile isBlank).reverse.takeWhile isBlank).reverse,
      ?_, ?_, ?_⟩
  · rw [List.append_assoc, back, front]
  · exact List.all_eq_true.mp List.all_takeWhile
  · intro character member
    rw [List.mem_reverse] at member
    exact List.all_eq_true.mp List.all_takeWhile character member

theorem strip_subset (text : Text) : strip text ⊆ text := by
  rcases exists_eq_append_strip text with ⟨before, after, split, _, _⟩
  intro character member
  rw [split]
  exact List.mem_append_left _ (List.mem_append_right _ member)

@[simp]
theorem words_strip (text : Text) : words (strip text) = words text := by
  rcases exists_eq_append_strip text with ⟨before, after, split, front, back⟩
  calc
    words (strip text) = words (before ++ strip text) :=
      (words_blanks_append front _).symm
    _ = words (before ++ strip text ++ after) :=
      (words_append_blanks back _).symm
    _ = words text := congrArg words split.symm

/-- An empty line has no words. -/
theorem filter_flatMap_words (lines : List Text) :
    (lines.filter (!·.isEmpty)).flatMap words = lines.flatMap words := by
  induction lines with
  | nil => rfl
  | cons line lines ih =>
      rw [List.flatMap_cons, ← ih]
      cases line with
      | nil => rfl
      | cons first rest => rw [List.filter_cons_of_pos rfl, List.flatMap_cons]

/-- Lines keep their words when they are stripped and blank ones left out. -/
theorem stripLines_flatMap_words (lines : List Text) :
    (stripLines lines).flatMap words = lines.flatMap words := by
  rw [stripLines, filter_flatMap_words, List.flatMap_map]
  simp only [words_strip]

end Text

end PocketCalc
