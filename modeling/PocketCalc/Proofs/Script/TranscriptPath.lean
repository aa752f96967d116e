import Mathlib.Order.Monotone.Basic
import PocketCalc.Proofs.Files.Walk
import PocketCalc.Proofs.Files.Names
import PocketCalc.Script.Replay

/-!
# The path of a transcript

The suffixes of a name are its last part, whatever dots stand in front of them.
So the name of a transcript is that of its script with underscores for the dots
of the suffixes, and an ending.  It is longer than the name of the script by
that ending, which is why a transcript never takes the place of its script and
why transcripts of transcripts never come back to an earlier path.

Underscores in the place of dots can be told from dots again as long as there
were no others, so scripts that differ in such suffixes only have different
transcripts.
-/

namespace PocketCalc

namespace Path

/-- The path without its last name. -/
def parent (path : Path) : Path :=
  { path with names := path.names.dropLast }

/-! ## Suffixes -/

/-- A text is its first piece between dots and a suffix for each other piece. -/
theorem exists_pieces (text : Text) :
    ∃ first pieces,
      text.splitOnP (· = '.') = first :: pieces ∧
        text = first ++ (pieces.map ('.' :: ·)).flatten := by
  induction text with
  | nil => exact ⟨[], [], rfl, rfl⟩
  | cons character text ih =>
      rcases ih with ⟨first, pieces, cut, whole⟩
      rw [List.splitOnP_cons_eq_if_modifyHead, cut]
      by_cases dot : character = '.'
      · refine ⟨[], first :: pieces, by simp [dot], ?_⟩
        rw [dot, whole]
        rfl
      · refine ⟨character :: first, pieces, by simp [dot], ?_⟩
        rw [whole]
        rfl

/-- The suffixes of a name are its last part. -/
theorem exists_append_suffixesOf (name : Text) :
    ∃ base, name = base ++ (suffixesOf name).flatten := by
  rw [suffixesOf]
  split
  · exact ⟨name, (List.append_nil name).symm⟩
  · rcases exists_pieces (name.dropWhile (· = '.')) with
      ⟨first, pieces, cut, whole⟩
    refine ⟨name.takeWhile (· = '.') ++ first, ?_⟩
    rw [cut]
    dsimp only
    rw [List.tail_cons, List.append_assoc, ← whole,
      List.takeWhile_append_dropWhile]

/-- A last part without dots behind a dot is the last suffix. -/
theorem suffixOf_append
    {front ending : Text}
    (long : front ≠ [])
    (nonempty : ending ≠ [])
    (noDot : '.' ∉ ending) :
    suffixOf (front ++ '.' :: ending) = '.' :: ending := by
  have kept : ∀ character ∈ ending.reverse, decide (character ≠ '.') = true := by
    intro character member
    rw [List.mem_reverse] at member
    rw [decide_eq_true_eq]
    rintro rfl
    exact noDot member
  have found :
      ((front ++ '.' :: ending).reverse.takeWhile (· ≠ '.')).reverse =
        ending := by
    rw [List.reverse_append, List.reverse_cons, List.append_assoc,
      List.takeWhile_append_of_pos kept]
    simp
  have inside :
      (ending.isEmpty ||
          decide ((front ++ '.' :: ending).length ≤ ending.length + 1)) =
        false := by
    have positive := List.length_pos_iff.mpr long
    rw [Bool.or_eq_false_iff, decide_eq_false_iff_not, List.length_append,
      List.length_cons]
    exact ⟨by simpa using nonempty, by omega⟩
  rw [suffixOf, found, inside]
  exact if_neg Bool.false_ne_true

/-- The names of a path are those on the way and the last one. -/
theorem names_eq_of_name_ne_nil
    {path : Path}
    (named : path.name ≠ []) :
    path.names = path.names.dropLast ++ [path.name] := by
  rw [name] at named ⊢
  rcases List.eq_nil_or_concat path.names with none | ⟨front, last, split⟩
  · rw [none] at named
    exact absurd rfl named
  · simp [split]

end Path

namespace Store

/-- A name does not lead to where another one leads that is no step back. -/
theorem step_ne_concat
    {place : Place}
    {name other : Text}
    (different : name ≠ other) :
    step place name ≠ place ++ [other] := by
  rw [step]
  intro same
  split at same
  · have lengths := congrArg List.length same
    rw [List.length_dropLast, List.length_append, List.length_singleton]
      at lengths
    omega
  · exact different (List.singleton_inj.mp (List.append_cancel_left same))

end Store

namespace Script

/-! ## The name of a transcript -/

/-- An underscore for every dot. -/
def underscored (text : Text) : Text :=
  text.map fun character => if character = '.' then '_' else character

@[simp]
theorem length_underscored (text : Text) :
    (underscored text).length = text.length :=
  List.length_map _

/-- The dots can be put back if there were no other underscores. -/
theorem underscored_injOn
    {left right : Text}
    (leftPlain : '_' ∉ left)
    (rightPlain : '_' ∉ right)
    (same : underscored left = underscored right) :
    left = right := by
  have restored
      {text : Text}
      (plain : '_' ∉ text) :
      (underscored text).map
          (fun character => if character = '_' then '.' else character) =
        text := by
    rw [underscored, List.map_map]
    refine (List.map_congr_left ?_).trans (List.map_id text)
    intro character member
    by_cases dot : character = '.'
    · simp [dot]
    · have other : character ≠ '_' := fun equal => plain (equal ▸ member)
      simp [dot, other]
  rw [← restored leftPlain, same, restored rightPlain]

theorem transcriptName_eq
    {name base : Text}
    (split : name = base ++ (Path.suffixesOf name).flatten) :
    transcriptName name =
      base ++ underscored (Path.suffixesOf name).flatten ++
        transcriptEnding := by
  rw [transcriptName]
  generalize (Path.suffixesOf name).flatten = suffix at split ⊢
  subst split
  simp [underscored]

theorem length_transcriptName (name : Text) :
    (transcriptName name).length = name.length + 12 := by
  rcases Path.exists_append_suffixesOf name with ⟨base, split⟩
  rw [transcriptName_eq split, List.length_append, List.length_append,
    length_underscored, ← List.length_append, ← split]
  rfl

theorem transcriptName_ne_nil (name : Text) : transcriptName name ≠ [] := by
  rw [← List.length_pos_iff, length_transcriptName]
  omega

/-- The name of a transcript is never the name that it is made from. -/
theorem transcriptName_ne (name : Text) : transcriptName name ≠ name := by
  intro same
  have lengths := congrArg List.length same
  rw [length_transcriptName] at lengths
  omega

/-! ## The path of a transcript -/

/-- The path beside a script with the name of its transcript. -/
def beside (path : Path) : Path :=
  { path with names := path.names.dropLast ++ [transcriptName path.name] }

@[simp]
theorem beside_name (path : Path) :
    (beside path).name = transcriptName path.name := by
  simp [beside, Path.name]

@[simp]
theorem beside_parent (path : Path) : (beside path).parent = path.parent := by
  simp [beside, Path.parent]

theorem transcriptPath_of_named
    {path : Path}
    (named : path.name ≠ []) :
    transcriptPath path = .ok (beside path) :=
  if_neg named

theorem transcriptPath_of_nameless
    {path : Path}
    (nameless : path.name = []) :
    transcriptPath path = .error ⟨path⟩ :=
  if_pos nameless

theorem eq_beside_of_transcriptPath
    {path output : Path}
    (made : transcriptPath path = .ok output) :
    output = beside path := by
  by_cases nameless : path.name = []
  · rw [transcriptPath_of_nameless nameless] at made
    cases made
  · rw [transcriptPath_of_named nameless] at made
    cases made
    rfl

theorem iterate_beside_name_ne_nil
    {path : Path}
    (named : path.name ≠ [])
    (times : Nat) :
    (beside^[times] path).name ≠ [] := by
  cases times with
  | zero => exact named
  | succ times =>
      rw [Function.iterate_succ_apply', beside_name]
      exact transcriptName_ne_nil _

/-- Transcripts of transcripts have longer and longer names. -/
theorem strictMono_length_iterate_beside (path : Path) :
    StrictMono fun times => (beside^[times] path).name.length := by
  apply strictMono_nat_of_lt_succ
  intro times
  rw [Function.iterate_succ_apply', beside_name, length_transcriptName]
  omega

/-- A transcript does not stand at the place of its script. -/
theorem locate_beside_ne
    {store : Store}
    {path : Path}
    {place : Place}
    (named : path.name ≠ [])
    (located : store.locate path = .ok place) :
    store.locate (beside path) ≠ .ok place := by
  intro again
  have names := Path.names_eq_of_name_ne_nil named
  have forward : transcriptName path.name ≠ Store.back := by
    intro same
    have lengths := congrArg List.length same
    rw [length_transcriptName] at lengths
    exact absurd lengths (by simp [Store.back])
  have here := Store.follow_of_locate located
  have there := Store.follow_of_locate again
  rw [names, Store.follow_append] at here
  rw [beside, Store.follow_append] at there
  rw [Store.follow_cons, Store.follow_nil] at here there
  rw [Store.step_of_ne_back forward] at there
  exact
    Store.step_ne_concat (transcriptName_ne path.name).symm
      (here.trans there.symm)

/-- The last suffix of a transcript. -/
theorem suffix_beside (path : Path) :
    (beside path).suffix = ".txt".toList := by
  rcases Path.exists_append_suffixesOf path.name with ⟨base, split⟩
  have pieces :
      transcriptName path.name =
        (base ++ underscored (Path.suffixesOf path.name).flatten ++
            "_results".toList) ++ '.' :: "txt".toList := by
    rw [transcriptName_eq split, List.append_assoc _ "_results".toList]
    rfl
  rw [Path.suffix, beside_name, pieces]
  exact Path.suffixOf_append (by simp) (by decide) (by decide)

/-- The name of a transcript is one name again. -/
theorem ofText_transcriptName
    {name : Text}
    (noSlash : '/' ∉ name) :
    Path.ofText (transcriptName name) = ⟨.here, [transcriptName name]⟩ := by
  have noSlashes : '/' ∉ transcriptName name := by
    rcases Path.exists_append_suffixesOf name with ⟨base, split⟩
    rw [transcriptName_eq split]
    generalize (Path.suffixesOf name).flatten = suffix at split ⊢
    subst split
    simp only [List.mem_append, not_or] at noSlash ⊢
    refine ⟨⟨noSlash.1, ?_⟩, by decide⟩
    intro member
    rcases List.mem_map.mp member with ⟨character, inside, spelled⟩
    split at spelled
    · cases spelled
    · cases spelled
      exact noSlash.2 inside
  have whole : Path.parts (transcriptName name) = [transcriptName name] :=
    Path.parts_of_noSlash noSlashes
  have long := length_transcriptName name
  have plain : Path.IsPlain (transcriptName name) := by
    intro part member
    rw [whole, List.mem_singleton] at member
    subst member
    refine ⟨transcriptName_ne_nil name, ?_, ?_⟩
    · intro dot
      rw [dot] at long
      exact absurd long (by simp)
    · intro back
      rw [back] at long
      exact absurd long (by simp [Store.back])
  rw [Path.ofText_of_isPlain plain, whole]

/--
How the path of a transcript comes from that of its script: beside it, with the
dots of the suffixes as underscores and an ending behind them.
-/
structure IsTranscriptPath (path output : Path) : Prop where
  parent : output.parent = path.parent
  name :
    ∃ base,
      path.name = base ++ path.suffixes.flatten ∧
        output.name =
          base ++ underscored path.suffixes.flatten ++ transcriptEnding
  length : output.name.length = path.name.length + 12
  suffix : output.suffix = ".txt".toList
  /-- A name can stand in a path if it is read as the only name of one. -/
  valid : '/' ∉ path.name → Path.ofText output.name = ⟨.here, [output.name]⟩

theorem isTranscriptPath_beside (path : Path) :
    IsTranscriptPath path (beside path) where
  parent := beside_parent path
  name := by
    rcases Path.exists_append_suffixesOf path.name with ⟨base, split⟩
    exact ⟨base, split, (beside_name path).trans (transcriptName_eq split)⟩
  length := by rw [beside_name, length_transcriptName]
  suffix := suffix_beside path
  valid noSlash := by
    rw [beside_name]
    exact ofText_transcriptName noSlash

/-- Names that differ in plain suffixes only have different transcripts. -/
theorem suffixes_eq_of_beside_eq
    {left right : Path}
    {base : Text}
    (leftSplit : left.name = base ++ left.suffixes.flatten)
    (rightSplit : right.name = base ++ right.suffixes.flatten)
    (leftPlain : '_' ∉ left.suffixes.flatten)
    (rightPlain : '_' ∉ right.suffixes.flatten)
    (same : beside left = beside right) :
    left.suffixes = right.suffixes := by
  have names := congrArg Path.name same
  rw [beside_name, beside_name, transcriptName_eq leftSplit,
    transcriptName_eq rightSplit, List.append_assoc, List.append_assoc] at names
  have underscores := List.append_cancel_right (List.append_cancel_left names)
  have suffixes := underscored_injOn leftPlain rightPlain underscores
  rw [Path.suffixes, leftSplit, suffixes, ← rightSplit]
  rfl

/--
A transcript never lands on its script.  Every path with a last name has a path
for its transcript, which is another one and leads elsewhere in every store, and
the transcripts of transcripts never come back to an earlier path; a path without
a last name is refused.  Scripts whose names differ in their suffixes only have
different transcripts, if there is no underscore in these suffixes.
-/
theorem transcript_never_lands_on_script :
    (∀ path : Path,
        path.name ≠ [] →
          ∃ output,
            transcriptPath path = .ok output ∧
              IsTranscriptPath path output ∧
                output ≠ path ∧
                  (∀ (store : Store) place,
                    store.locate path = .ok place →
                      store.locate output ≠ .ok place) ∧
                    ∃ paths : Nat → Path,
                      paths 0 = path ∧
                        (∀ times,
                          transcriptPath (paths times) =
                            .ok (paths (times + 1))) ∧
                          Function.Injective paths) ∧
      (∀ path : Path,
        path.name = [] → transcriptPath path = .error ⟨path⟩) ∧
        ∀ (left right leftOutput rightOutput : Path) (base : Text),
          left.name = base ++ left.suffixes.flatten →
            right.name = base ++ right.suffixes.flatten →
              '_' ∉ left.suffixes.flatten →
                '_' ∉ right.suffixes.flatten →
                  left.suffixes ≠ right.suffixes →
                    transcriptPath left = .ok leftOutput →
                      transcriptPath right = .ok rightOutput →
                        leftOutput ≠ rightOutput := by
  refine ⟨?_, fun _ => transcriptPath_of_nameless, ?_⟩
  · intro path named
    have longer := strictMono_length_iterate_beside path
    refine
      ⟨beside path, transcriptPath_of_named named,
        isTranscriptPath_beside path, ?_,
        fun _ _ => locate_beside_ne named, fun times => beside^[times] path,
        rfl, ?_, ?_⟩
    · intro same
      have names := congrArg Path.name same
      rw [beside_name] at names
      exact transcriptName_ne path.name names
    · intro times
      change transcriptPath (beside^[times] path) = .ok (beside^[times + 1] path)
      rw [Function.iterate_succ_apply']
      exact transcriptPath_of_named (iterate_beside_name_ne_nil named times)
    · intro early late same
      exact longer.injective (congrArg (fun path => path.name.length) same)
  · intro left right leftOutput rightOutput base leftSplit rightSplit leftPlain
      rightPlain different leftMade rightMade same
    rw [eq_beside_of_transcriptPath leftMade,
      eq_beside_of_transcriptPath rightMade] at same
    exact
      different
        (suffixes_eq_of_beside_eq leftSplit rightSplit leftPlain rightPlain same)

/-- Two archives of one name in one folder. -/
theorem transcripts_of_zip_and_tar_differ :
    ∃ zipOutput tarOutput,
      transcriptPath (.ofText "scripts/keys.zip".toList) = .ok zipOutput ∧
        transcriptPath (.ofText "scripts/keys.tar.xz".toList) = .ok tarOutput ∧
          zipOutput ≠ tarOutput := by
  have zip :
      transcriptPath (.ofText "scripts/keys.zip".toList) =
        .ok (.ofText "scripts/keys_zip_results.txt".toList) := by
    decide +kernel
  have tar :
      transcriptPath (.ofText "scripts/keys.tar.xz".toList) =
        .ok (.ofText "scripts/keys_tar_xz_results.txt".toList) := by
    decide +kernel
  refine ⟨_, _, zip, tar, ?_⟩
  exact
    transcript_never_lands_on_script.2.2 _ _ _ _ "keys".toList
      (by decide +kernel) (by decide +kernel) (by decide +kernel)
      (by decide +kernel) (by decide +kernel) zip tar

/-- Dots at either end of a name open no suffix. -/
example :
    transcriptPath (.ofText "scripts/..keys.tar.xz".toList) =
        .ok (.ofText "scripts/..keys_tar_xz_results.txt".toList) ∧
      transcriptPath (.ofText "keys.zip.".toList) =
        .ok (.ofText "keys.zip._results.txt".toList) ∧
      transcriptPath (.ofText "/".toList) = .error ⟨.ofText "/".toList⟩ := by
  decide +kernel

end Script

end PocketCalc
