import Mathlib.Logic.Relation
import PocketCalc.Proofs.Script.FileAndKeyboard

/-!
# Grouping keys into lines

What counts of a line are its keys.  They are written in one of three ways, and
keys that are written with spaces between them are read again.  Blanks between
two lines cut their keys like a line end, so lines can be joined with blanks and
cut at blanks, and a replay still ends with the session that has pressed all
keys one by one.

A replay has one step for each line.  The display of a step is that of the
session that has pressed the keys up to the end of the line.
-/

namespace PocketCalc

namespace Script

/-! ## Written keys -/

/-- The ways in which a key can be written on a line. -/
inductive IsWrittenKey : Text → Prop where
  | name (control : Control) :
      IsWrittenKey control.name.toList
  | label (control : Control) :
      IsWrittenKey control.label.toList
  | character
      {character : Char}
      (visible : Text.isBlank character = false) :
      IsWrittenKey [character]

theorem IsWrittenKey.isWord
    {key : Text}
    (written : IsWrittenKey key) :
    Text.IsWord key := by
  cases written with
  | name control =>
      apply Text.isWord_of_any_eq_false <;> cases control <;> decide
  | label control =>
      apply Text.isWord_of_any_eq_false <;> cases control <;> decide
  | character visible =>
      exact ⟨List.cons_ne_nil _ _, List.forall_mem_singleton.mpr visible⟩

/-- A word that means a control is written as its name or its label. -/
theorem isWrittenKey_of_control
    {word : Text}
    (means : (Control.ofToken? word).isSome = true) :
    IsWrittenKey word := by
  rcases Option.isSome_iff_exists.mp means with ⟨control, found⟩
  have spelled := List.find?_some found
  rw [Bool.or_eq_true, decide_eq_true_eq, decide_eq_true_eq] at spelled
  rcases spelled with rfl | rfl
  · exact .name control
  · exact .label control

/-- A written key is not taken apart. -/
theorem keysOfWord_of_isWrittenKey
    {key : Text}
    (written : IsWrittenKey key) :
    keysOfWord key = [key] := by
  cases written with
  | name control => cases control <;> rfl
  | label control => cases control <;> rfl
  | character =>
      rw [keysOfWord]
      split <;> rfl

theorem isWrittenKey_of_mem_keysOfWord
    {word key : Text}
    (isWord : Text.IsWord word)
    (member : key ∈ keysOfWord word) :
    IsWrittenKey key := by
  rw [keysOfWord] at member
  split at member
  · rename_i means
    rw [List.mem_singleton.mp member]
    exact isWrittenKey_of_control means
  · rcases List.mem_map.mp member with ⟨character, inside, rfl⟩
    exact .character (isWord.2 character inside)

theorem isWrittenKey_of_mem_splitKeys
    {line key : Text}
    (member : key ∈ splitKeys line) :
    IsWrittenKey key := by
  rcases List.mem_flatMap.mp member with ⟨word, inside, keyOfWord⟩
  exact
    isWrittenKey_of_mem_keysOfWord (Text.isWord_of_mem_words inside) keyOfWord

/-- A label with another key behind it in the same word is only a character. -/
example :
    splitKeys "12 toggleSign C= clear" =
      [['1'], ['2'], "toggleSign", ['C'], ['='], "clear"] := by
  decide +kernel

theorem flatMap_keysOfWord
    {keys : List Text}
    (written : ∀ key ∈ keys, IsWrittenKey key) :
    keys.flatMap keysOfWord = keys := by
  induction keys with
  | nil => rfl
  | cons key keys ih =>
      rcases List.forall_mem_cons.mp written with ⟨first, others⟩
      rw [List.flatMap_cons, keysOfWord_of_isWrittenKey first, ih others,
        List.singleton_append]

/-- Keys that are written with spaces between them are read again. -/
theorem splitKeys_joined
    {keys : List Text}
    (written : ∀ key ∈ keys, IsWrittenKey key) :
    splitKeys (Text.joined [' '] keys) = keys := by
  have areWords : ∀ key ∈ keys, Text.IsWord key :=
    fun key member => (written key member).isWord
  rw [splitKeys, Text.words_joined areWords, flatMap_keysOfWord written]

/-! ## Joining and cutting lines -/

theorem splitKeys_append_blanks_append
    {blanks : Text}
    (nonempty : blanks ≠ [])
    (allBlank : ∀ character ∈ blanks, Text.isBlank character = true)
    (before after : Text) :
    splitKeys (before ++ blanks ++ after) =
      splitKeys before ++ splitKeys after := by
  rw [splitKeys, Text.words_append_blanks_append nonempty allBlank,
    List.flatMap_append]
  rfl

/-- Two neighbouring lines are joined with blanks between them. -/
inductive Joins : List Text → List Text → Prop where
  | neighbours
      {blanks : Text}
      (nonempty : blanks ≠ [])
      (allBlank : ∀ character ∈ blanks, Text.isBlank character = true)
      (above : List Text)
      (first second : Text)
      (below : List Text) :
      Joins
        (above ++ first :: second :: below)
        (above ++ (first ++ blanks ++ second) :: below)

/--
Lines are regrouped by joining lines with blanks and cutting lines at blanks,
any number of times.
-/
def Regrouped : List Text → List Text → Prop :=
  Relation.EqvGen Joins

theorem Joins.flatMap_splitKeys
    {lines joined : List Text}
    (joins : Joins lines joined) :
    joined.flatMap splitKeys = lines.flatMap splitKeys := by
  rcases joins with ⟨nonempty, allBlank, above, first, second, below⟩
  rw [List.flatMap_append, List.flatMap_append, List.flatMap_cons,
    List.flatMap_cons, List.flatMap_cons,
    splitKeys_append_blanks_append nonempty allBlank, List.append_assoc]

/-- Regrouped lines have the same keys. -/
theorem Regrouped.flatMap_splitKeys
    {lines regrouped : List Text}
    (isRegrouped : Regrouped lines regrouped) :
    regrouped.flatMap splitKeys = lines.flatMap splitKeys := by
  induction isRegrouped with
  | rel _ _ joins => exact joins.flatMap_splitKeys
  | refl => rfl
  | symm _ _ _ ih => exact ih.symm
  | trans _ _ _ _ _ first second => exact second.trans first

end Script

/-! ## One key after the other -/

/-- Pressing keys together is pressing each on what the earlier ones reached. -/
theorem Session.pressAll_eq_foldl (session : Session) (keys : List Text) :
    (session.pressAll keys).1 =
      keys.foldl (fun current key => (current.press key).1) session := by
  induction keys generalizing session with
  | nil => rfl
  | cons key keys ih =>
      rw [List.foldl_cons, ← ih]
      rfl

namespace Script

/-! ## The steps of a replay -/

/-- The second part of the lines is replayed on what the first has reached. -/
theorem replay_append (session : Session) (left right : List Text) :
    (replay session (left ++ right)).2.1 =
      (replay session left).2.1 ++
        (replay (replay session left).1 right).2.1 := by
  induction left generalizing session with
  | nil => rfl
  | cons line left ih =>
      exact congrArg (_ :: ·) (ih (session.pressAll (splitKeys line)).1)

theorem replay_map_line (session : Session) (lines : List Text) :
    (replay session lines).2.1.map Step.line = lines := by
  induction lines generalizing session with
  | nil => rfl
  | cons line rest ih =>
      exact congrArg (line :: ·) (ih (session.pressAll (splitKeys line)).1)

theorem replay_length (session : Session) (lines : List Text) :
    (replay session lines).2.1.length = lines.length := by
  rw [← List.length_map (f := Step.line), replay_map_line]

/-- A step shows what the keys of the lines up to its own have reached. -/
theorem replay_step
    (session : Session)
    (above : List Text)
    (line : Text)
    (below : List Text) :
    (replay session (above ++ line :: below)).2.1[above.length]? =
      some
        ⟨line,
          (session.pressAll
            ((above ++ [line]).flatMap splitKeys)).1.display⟩ := by
  have length := replay_length session above
  rw [replay_append, replay_session,
    List.getElem?_append_right (Nat.le_of_eq length), length, Nat.sub_self,
    List.flatMap_append, session.pressAll_append, List.flatMap_singleton]
  rfl

/--
Keys do not depend on how they are grouped into lines.  Blanks between two lines
separate their keys; a key is the name or label of a control or a single
character that is no blank, and keys with spaces between them are read again.
So replaying lines, replaying them regrouped and pressing their keys one by one
reach the same session.  The replay has one step for each line, which shows what
the keys up to the end of the line have reached.
-/
theorem keys_do_not_depend_on_grouping (session : Session) (lines : List Text) :
    let steps := (replay session lines).2.1
    let pressed (keys : List Text) : Session :=
      keys.foldl (fun current key => (current.press key).1) session
    (∀ before blanks after : Text,
      blanks ≠ [] →
        (∀ character ∈ blanks, Text.isBlank character = true) →
          splitKeys (before ++ blanks ++ after) =
            splitKeys before ++ splitKeys after) ∧
      (∀ line, ∀ key ∈ splitKeys line, IsWrittenKey key) ∧
        (∀ keys,
          (∀ key ∈ keys, IsWrittenKey key) →
            splitKeys (Text.joined [' '] keys) = keys) ∧
          (replay session lines).1 = pressed (lines.flatMap splitKeys) ∧
            (∀ regrouped,
              Regrouped lines regrouped →
                (replay session regrouped).1 = (replay session lines).1) ∧
              steps.length = lines.length ∧
                ∀ above line below,
                  lines = above ++ line :: below →
                    steps[above.length]? =
                      some
                        ⟨line,
                          (pressed
                            ((above ++ [line]).flatMap splitKeys)).display⟩ := by
  intro steps pressed
  refine ⟨?_, ?_, ?_, ?_, ?_, replay_length session lines, ?_⟩
  · intro before blanks after nonempty allBlank
    exact splitKeys_append_blanks_append nonempty allBlank before after
  · intro line key member
    exact isWrittenKey_of_mem_splitKeys member
  · intro keys written
    exact splitKeys_joined written
  · rw [replay_session]
    exact session.pressAll_eq_foldl _
  · intro regrouped isRegrouped
    rw [replay_session, replay_session, isRegrouped.flatMap_splitKeys]
  · rintro above line below rfl
    have step := replay_step session above line below
    rw [session.pressAll_eq_foldl] at step
    exact step

/-- Two lines that are joined with a wide space and cut before the last key. -/
theorem keys_do_not_depend_on_grouping_across_equals :
    let session : Session := {}
    let lines : List Text := ["1 2+3", "= toggleSign"]
    let regrouped : List Text := ["1 2+3\u2003=", "toggleSign"]
    Regrouped lines regrouped ∧
      (replay session regrouped).1 = (replay session lines).1 ∧
        (replay session lines).2.1[1]? = some ⟨"= toggleSign", "15"⟩ := by
  intro session lines regrouped
  have joins : Joins lines ["1 2+3\u2003= toggleSign"] :=
    .neighbours (List.cons_ne_nil '\u2003' [])
      (List.forall_mem_singleton.mpr rfl) [] "1 2+3" "= toggleSign" []
  have joinsRegrouped : Joins regrouped ["1 2+3\u2003= toggleSign"] :=
    .neighbours (List.cons_ne_nil ' ' [])
      (List.forall_mem_singleton.mpr rfl) [] "1 2+3\u2003=" "toggleSign" []
  have isRegrouped : Regrouped lines regrouped :=
    .trans _ _ _ (.rel _ _ joins) (.symm _ _ (.rel _ _ joinsRegrouped))
  rcases keys_do_not_depend_on_grouping session lines with
    ⟨_, _, _, _, sameSession, _, step⟩
  refine ⟨isRegrouped, sameSession regrouped isRegrouped, ?_⟩
  refine (step ["1 2+3"] "= toggleSign" [] rfl).trans ?_
  decide +kernel

end Script

end PocketCalc
