import PocketCalc.Files.Store

/-!
# The names of a path

A text is cut into the names of a path at its slashes.  A plain text, in which
all parts are proper names, gives just these parts.
-/

namespace PocketCalc

namespace Path

/-- The parts of a text between slashes. -/
def parts (text : Text) : List Text :=
  text.splitOnP (· = '/')

/-- A relative text whose parts are neither empty nor single or double dots. -/
def IsPlain (text : Text) : Prop :=
  ∀ part ∈ parts text, part ≠ [] ∧ part ≠ ['.'] ∧ part ≠ Store.back

instance (text : Text) : Decidable (IsPlain text) :=
  inferInstanceAs
    (Decidable
      (∀ part ∈ parts text, part ≠ [] ∧ part ≠ ['.'] ∧ part ≠ Store.back))

section Texts

variable {text : Text}

/-- A slash ends the parts of the text before it. -/
theorem parts_append_slash (before after : Text) :
    parts (before ++ '/' :: after) = parts before ++ parts after :=
  List.splitOnP_append_cons before after rfl

theorem parts_of_noSlash (noSlash : '/' ∉ text) : parts text = [text] := by
  apply List.splitOnP_eq_singleton
  intro character member
  simp only [decide_eq_false_iff_not]
  rintro rfl
  exact noSlash member

theorem anchor_of_other
    {character : Char}
    (other : character ≠ '/')
    (after : Text) :
    (ofText (character :: after)).anchor = .here := by
  simp only [ofText]
  unfold Anchor.ofText
  split <;> simp_all

/-- A plain text is the path of its parts from here. -/
theorem ofText_of_isPlain (plain : IsPlain text) :
    ofText text = ⟨.here, parts text⟩ := by
  have relative : (ofText text).anchor = .here := by
    cases text with
    | nil => rfl
    | cons character after =>
        apply anchor_of_other
        rintro rfl
        have empty : [] ∈ parts ('/' :: after) := by
          rw [← List.nil_append ('/' :: after), parts_append_slash]
          simp [parts]
        exact (plain [] empty).1 rfl
  have names : (ofText text).names = parts text := by
    apply List.filter_eq_self.mpr
    intro part member
    simpa using ⟨(plain part member).1, (plain part member).2.1⟩
  rw [← relative, ← names]

theorem back_notMem_of_isPlain (plain : IsPlain text) :
    Store.back ∉ parts text := by
  intro member
  exact (plain Store.back member).2.2 rfl

/-- Only a path without names has an empty last name. -/
theorem name_ofText_ne_nil {text : Text} (named : (ofText text).names ≠ []) :
    (ofText text).name ≠ [] := by
  rcases List.eq_nil_or_concat (ofText text).names with none | ⟨front, last, split⟩
  · exact absurd none named
  · have member : last ∈ (ofText text).names := by
      simp [split]
    have proper : last ≠ [] := by
      simp only [ofText, List.mem_filter] at member
      simpa using (of_decide_eq_true member.2).1
    rw [name, split]
    simpa using proper

end Texts

end Path

end PocketCalc
