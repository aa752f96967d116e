import PocketCalc.Proofs.Files.Walk

/-!
# Changes of a store

A file is written at a place that a path leads to and that is no directory.
Such a change makes and removes no directory and touches no other place.  So
paths lead where they led before, and what a whole run has changed can be read
off the places that it wrote to.
-/

namespace PocketCalc

namespace Store

section Insertion

variable
  {store : Store}
  {place other : Place}
  {node : Node}

/-- A node that was put at a place stands there, unless one works below it. -/
theorem find?_insert_self (inside : ¬place <+: store.workingDirectory) :
    (store.insert place node).find? place = some node := by
  have outside : place.isPrefixOf store.workingDirectory = false := by
    rw [← Bool.not_eq_true, List.isPrefixOf_iff_prefix]
    exact inside
  rw [find?, insert]
  simp [outside]

/-- Taking the entries of one place away keeps the first entry of another one. -/
theorem find?_filter_of_ne
    (entries : List (Place × Node))
    (different : other ≠ place) :
    (entries.filter (·.1 ≠ place)).find? (·.1 = other) =
      entries.find? (·.1 = other) := by
  rw [List.find?_filter]
  congr 1
  funext entry
  by_cases here : entry.1 = other
  · simp [here, different]
  · simp [here]

/-- Taking the entries of one place away keeps what lies below a place aside. -/
theorem any_filter_of_aside
    (entries : List (Place × Node))
    (aside : other.isPrefixOf place = false) :
    (entries.filter (·.1 ≠ place)).any (fun entry => other.isPrefixOf entry.1) =
      entries.any fun entry => other.isPrefixOf entry.1 := by
  rw [List.any_filter]
  congr 1
  funext entry
  by_cases removed : entry.1 = place
  · simp [removed, aside]
  · simp [removed]

/-- A node that was put at a place makes directories above it, and that is all. -/
theorem find?_insert_of_ne (different : other ≠ place) :
    (store.insert place node).find? other =
      if other <+: place ∧ store.find? other = none then some .directory
      else store.find? other := by
  have unmoved :
      ((place, node) :: store.entries.filter (·.1 ≠ place)).find?
          (·.1 = other) =
        store.entries.find? (·.1 = other) := by
    rw [List.find?_cons_of_neg (by simpa using Ne.symm different)]
    exact find?_filter_of_ne store.entries different
  rw [find?, find?, insert]
  dsimp only
  rw [unmoved]
  cases working : other.isPrefixOf store.workingDirectory with
  | true => simp
  | false =>
      simp only [Bool.false_eq_true, if_false]
      cases found : store.entries.find? (·.1 = other) with
      | some entry => simp
      | none =>
          simp only [List.any_cons]
          by_cases above : other <+: place
          · simp [above, List.isPrefixOf_iff_prefix.mpr above]
          · have aside : other.isPrefixOf place = false := by
              rw [← Bool.not_eq_true, List.isPrefixOf_iff_prefix]
              exact above
            simp only [any_filter_of_aside store.entries aside, aside,
              Bool.false_or, above, false_and, if_false]

end Insertion

/-! ## Places to write at -/

/-- A file can be written at a place: directories lead there, and it is none. -/
structure Writable (store : Store) (place : Place) : Prop where
  parents :
    ∀ parent, parent <+: place → parent ≠ place →
      store.find? parent = some .directory
  notDirectory : store.find? place ≠ some .directory

section Places

variable
  {store : Store}
  {path : Path}
  {place parent : Place}

theorem target_eq_ok_iff :
    store.target path = .ok place ↔
      store.locate path = .ok place ∧
        store.find? place ≠ some .directory := by
  rw [target]
  cases store.locate path with
  | error fault => simp
  | ok located =>
      dsimp only
      split
      · rename_i occupied
        simp
        rintro rfl
        exact occupied
      · rename_i free
        simp
        rintro rfl
        exact free

theorem writable_of_target (targeted : store.target path = .ok place) :
    store.Writable place := by
  rw [target_eq_ok_iff] at targeted
  exact ⟨fun _ => find?_above_locate targeted.1, targeted.2⟩

theorem Writable.inside (writable : store.Writable place) :
    ¬place <+: store.workingDirectory := by
  intro above
  exact writable.notDirectory (find?_of_isPrefix above)

end Places

/-! ## Stores that are alike but at some places -/

/-- Two stores have the same directories, and the same files but at some places. -/
structure AlikeBut
    (places : List Place)
    (before after : Store) : Prop where
  workingDirectory : after.workingDirectory = before.workingDirectory
  directories :
    ∀ place,
      after.find? place = some .directory ↔
        before.find? place = some .directory
  others : ∀ place, place ∉ places → after.find? place = before.find? place

namespace AlikeBut

variable
  {before between after : Store}
  {places more : List Place}
  {path : Path}
  {place : Place}
  {names : List Text}

theorem refl (places : List Place) (store : Store) :
    AlikeBut places store store :=
  ⟨rfl, fun _ => Iff.rfl, fun _ _ => rfl⟩

theorem trans
    (first : AlikeBut places before between)
    (second : AlikeBut more between after) :
    AlikeBut (places ++ more) before after where
  workingDirectory := second.workingDirectory.trans first.workingDirectory
  directories place :=
    (second.directories place).trans (first.directories place)
  others place outside := by
    rw [List.mem_append, not_or] at outside
    exact (second.others place outside.2).trans (first.others place outside.1)

theorem mono
    (alike : AlikeBut places before after)
    (included : places ⊆ more) :
    AlikeBut more before after where
  workingDirectory := alike.workingDirectory
  directories := alike.directories
  others place outside := alike.others place (fun member => outside (included member))

theorem writable_iff (alike : AlikeBut places before after) :
    after.Writable place ↔ before.Writable place := by
  constructor
  · rintro ⟨parents, free⟩
    simp only [alike.directories, ne_eq] at parents free
    exact ⟨parents, free⟩
  · rintro ⟨parents, free⟩
    simp only [← alike.directories, ne_eq] at parents free
    exact ⟨parents, free⟩

theorem passable_iff (alike : AlikeBut places before after) :
    after.Passable place names ↔ before.Passable place names := by
  simp only [Passable, alike.directories]

theorem start_eq (alike : AlikeBut places before after) (anchor : Anchor) :
    after.start anchor = before.start anchor := by
  cases anchor with
  | here => exact alike.workingDirectory
  | root => rfl
  | doubleRoot => rfl

/-- Paths lead to the same places in both stores. -/
theorem locate_eq_ok_iff (alike : AlikeBut places before after) :
    after.locate path = .ok place ↔ before.locate path = .ok place := by
  rw [Store.locate_eq_ok_iff, Store.locate_eq_ok_iff, alike.start_eq,
    alike.passable_iff]

theorem target_eq_ok_iff (alike : AlikeBut places before after) :
    after.target path = .ok place ↔ before.target path = .ok place := by
  rw [Store.target_eq_ok_iff, Store.target_eq_ok_iff, alike.locate_eq_ok_iff,
    ne_eq, ne_eq, alike.directories]

end AlikeBut

/-! ## Writing a file -/

section Writing

variable
  {store : Store}
  {path : Path}
  {place : Place}
  {bytes : List UInt8}

/-- A file that is put at a writable place changes that place only. -/
theorem insert_alikeBut (writable : store.Writable place) :
    AlikeBut [place] store (store.insert place (.file bytes)) where
  workingDirectory := rfl
  directories other := by
    by_cases here : other = place
    · subst here
      simp [find?_insert_self writable.inside, writable.notDirectory]
    · rw [find?_insert_of_ne here]
      split
      · rename_i made
        simp [writable.parents other made.1 here]
      · rfl
  others other outside := by
    have different : other ≠ place := by
      simpa using outside
    rw [find?_insert_of_ne different]
    split
    · rename_i made
      exact (writable.parents other made.1 different).symm
    · rfl

theorem touch_alikeBut (writable : store.Writable place) :
    AlikeBut [place] store (store.touch place) := by
  rw [touch]
  split
  · exact .refl [place] store
  · exact insert_alikeBut writable

theorem append_alikeBut (writable : store.Writable place) (text : Text) :
    AlikeBut [place] store (store.append place text) := by
  rw [append]
  split
  · exact touch_alikeBut writable
  · exact insert_alikeBut writable

theorem write_alikeBut (writable : store.Writable place) (text : Text) :
    AlikeBut [place] store (store.write place text) :=
  insert_alikeBut writable

/-- A touched store still has the files that it had. -/
theorem find?_touch_of_file
    {other : Place}
    (writable : store.Writable place)
    (found : store.find? other = some (.file bytes)) :
    (store.touch place).find? other = some (.file bytes) := by
  by_cases here : other = place
  · subst here
    rw [touch, found]
    exact found
  · rw [(touch_alikeBut writable).others other (by simpa using here)]
    exact found

/-! ## Reading a file -/

theorem read_eq_ok_iff :
    store.read path = .ok bytes ↔
      ∃ place,
        store.locate path = .ok place ∧
          store.find? place = some (.file bytes) := by
  rw [read]
  cases store.locate path with
  | error fault => simp
  | ok place =>
      dsimp only
      cases standing : store.find? place with
      | none => simp [standing]
      | some node =>
          cases node with
          | directory => simp [standing]
          | file other => simp [standing]

theorem file?_of_read (found : store.read path = .ok bytes) :
    store.file? path = .ok (some bytes) := by
  rw [file?, found]

theorem read_of_file? (found : store.file? path = .ok (some bytes)) :
    store.read path = .ok bytes := by
  rw [file?] at found
  split at found
  · rename_i opened
    cases found
    exact opened
  · cases found
  · cases found

end Writing

end Store

end PocketCalc
