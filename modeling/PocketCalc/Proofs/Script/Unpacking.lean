import PocketCalc.Proofs.Files.Changes
import PocketCalc.Proofs.Files.Names
import PocketCalc.Script.Source

/-!
# Unpacked members

A member is unpacked into a new directory and opened under its name, seen from
there.  A relative name without double dots leads back to the place of its names.

A zip archive puts a member at the place of its names without the double dots.
So the member is found exactly if its name is relative, has no double dots, and
is short enough; any other name leads to what stood in the store before, or to
nothing.
-/

namespace PocketCalc

/-- A path is short enough to be walked along, and so are its names. -/
structure Path.IsShort (path : Path) : Prop where
  whole : Store.exceedsLimit path = false
  names : ∀ name ∈ path.names, Store.isTooLong name = false

instance (path : Path) : Decidable path.IsShort :=
  decidable_of_iff
    (Store.exceedsLimit path = false ∧
      ∀ name ∈ path.names, Store.isTooLong name = false)
    ⟨fun both => ⟨both.1, both.2⟩, fun short => ⟨short.whole, short.names⟩⟩

namespace Store

/--
A new directory can be made at a place: directories lead there, and nothing
stands there or below.
-/
structure Fresh (store : Store) (directory : Place) : Prop where
  forward : back ∉ directory
  parents :
    ∀ parent, parent <+: directory → parent ≠ directory →
      store.find? parent = some .directory
  empty : ∀ inner, store.find? (directory ++ inner) = none

section Directories

variable
  {store : Store}
  {directory place other : Place}
  {node : Node}
  {bytes : List UInt8}

theorem Fresh.ne_nil (fresh : store.Fresh directory) : directory ≠ [] := by
  rintro rfl
  have nothing := fresh.empty []
  rw [List.append_nil, find?_of_isPrefix List.nil_prefix] at nothing
  cases nothing

theorem Fresh.notWorking
    (fresh : store.Fresh directory)
    (inner : Place) :
    ¬directory ++ inner <+: store.workingDirectory := by
  intro above
  have nothing := fresh.empty inner
  rw [find?_of_isPrefix above] at nothing
  cases nothing

/-- Whether a directory is new can be told from the entries of the store. -/
theorem fresh_iff :
    store.Fresh directory ↔
      back ∉ directory ∧
        (∀ length < directory.length,
          store.find? (directory.take length) = some .directory) ∧
          ¬directory <+: store.workingDirectory ∧
            ∀ entry ∈ store.entries, ¬directory <+: entry.1 := by
  constructor
  · intro fresh
    refine ⟨fresh.forward, ?_, ?_, ?_⟩
    · intro length shorter
      apply fresh.parents _ (List.take_prefix length directory)
      intro same
      have lengths := congrArg List.length same
      rw [List.length_take] at lengths
      omega
    · have outside := fresh.notWorking []
      rwa [List.append_nil] at outside
    · rintro entry member ⟨inner, split⟩
      have nothing := fresh.empty inner
      rw [split, find?] at nothing
      split at nothing
      · cases nothing
      · split at nothing
        · cases nothing
        · rename_i missing
          exact List.find?_eq_none.mp missing entry member (decide_eq_true rfl)
  · rintro ⟨forward, parents, outside, aside⟩
    refine ⟨forward, ?_, ?_⟩
    · intro parent above strictly
      rw [List.prefix_iff_eq_take.mp above]
      apply parents
      apply Nat.lt_of_le_of_ne above.length_le
      intro same
      exact strictly (above.eq_of_length same)
    · intro inner
      have missing :
          store.entries.find? (·.1 = directory ++ inner) = none := by
        apply List.find?_eq_none.mpr
        intro entry member same
        exact aside entry member ⟨inner, (of_decide_eq_true same).symm⟩
      have below := List.prefix_append directory inner
      rw [find?, missing]
      dsimp only
      rw [if_neg, if_neg]
      · intro reached
        rcases List.any_eq_true.mp reached with ⟨entry, member, above⟩
        exact
          aside entry member
            (below.trans (List.isPrefixOf_iff_prefix.mp above))
      · intro above
        exact outside (below.trans (List.isPrefixOf_iff_prefix.mp above))

instance (store : Store) (directory : Place) :
    Decidable (store.Fresh directory) :=
  decidable_of_iff _ fresh_iff.symm

/-- What stands in a store with a new directory. -/
theorem Fresh.find?_insert (fresh : store.Fresh directory) :
    (store.insert directory .directory).find? other =
      if other = directory then some .directory else store.find? other := by
  by_cases here : other = directory
  · subst here
    have outside := fresh.notWorking []
    rw [List.append_nil] at outside
    rw [if_pos rfl, find?_insert_self outside]
  · rw [if_neg here, find?_insert_of_ne here]
    split
    · rename_i made
      exact (fresh.parents other made.1 here).symm
    · rfl

/-- What stands in a store with a new directory and one node below it. -/
theorem Fresh.find?_holding (fresh : store.Fresh directory) :
    (store.holding directory [(place, node)]).find? other =
      if other = directory ++ place then some node
      else if directory <+: other then
        if other <+: directory ++ place then some .directory else none
      else store.find? other := by
  rw [holding, List.foldl_cons, List.foldl_nil]
  by_cases here : other = directory ++ place
  · subst here
    rw [if_pos rfl, find?_insert_self]
    exact fresh.notWorking place
  · rw [if_neg here, find?_insert_of_ne here, fresh.find?_insert]
    by_cases below : directory <+: other
    · rw [if_pos below]
      rcases below with ⟨inner, rfl⟩
      cases inner with
      | nil => simp
      | cons first inner => simp [fresh.empty]
    · have elsewhere : other ≠ directory := by
        rintro rfl
        exact below List.prefix_rfl
      rw [if_neg below, if_neg elsewhere]
      split
      · rename_i made
        have above : other <+: directory :=
          (List.prefix_or_prefix_of_prefix made.1
            (List.prefix_append directory place)).resolve_right below
        exact (fresh.parents other above elsewhere).symm
      · rfl

/-- A node below a new directory has directories above it. -/
theorem Fresh.find?_above_holding
    (fresh : store.Fresh directory)
    (above : other <+: directory ++ place)
    (strictly : other ≠ directory ++ place) :
    (store.holding directory [(place, node)]).find? other =
      some .directory := by
  rw [fresh.find?_holding, if_neg strictly, if_pos above]
  split
  · rfl
  · rename_i aside
    have higher : other <+: directory :=
      (List.prefix_or_prefix_of_prefix above
        (List.prefix_append directory place)).resolve_right aside
    apply fresh.parents other higher
    rintro rfl
    exact aside List.prefix_rfl

end Directories

end Store

namespace Script

/-! ## The script of an archive -/

/-- Only tar archives are not unpacked. -/
theorem unpacker?_eq_none_iff
    {libraries : ArchiveLibraries}
    {kind : ArchiveKind} :
    libraries.unpacker? kind = none ↔ kind = .tarXz := by
  cases kind <;> simp [ArchiveLibraries.unpacker?]

/-- A library finds the name of a script in an archive. -/
def Finds (unpacker : Unpacker) (bytes : List UInt8) (script : Text) : Prop :=
  ∃ names,
    unpacker.names bytes = .ok names ∧ names.find? isScriptName = some script

theorem readContent_archive
    {host : Host}
    {store : Store}
    {path : Path}
    {kind : ArchiveKind}
    {bytes : List UInt8}
    (promised : format? path = some (.archive kind)) :
    readContent host store path bytes =
      readArchive host store path.name kind bytes := by
  rw [readContent, promised]

/-- What is unpacked for the script of an archive is opened under its name. -/
theorem readArchive_of_unpacked
    {host : Host}
    {store : Store}
    {archive script : Text}
    {kind : ArchiveKind}
    {unpacker : Unpacker}
    {bytes : List UInt8}
    {nodes : List (Place × Node)}
    (unpacks : host.libraries.unpacker? kind = some unpacker)
    (finds : Finds unpacker bytes script)
    (unpacked : unpacker.unpack bytes script = .ok nodes) :
    readArchive host store archive kind bytes =
      readUnpacked store host.temporary nodes script := by
  rcases finds with ⟨names, named, found⟩
  rw [readArchive, unpacks]
  dsimp only
  rw [readUnpacking, named]
  dsimp only
  rw [found]
  dsimp only
  rw [unpacked]

/-! ## Opening a member under its name -/

section Opening

variable
  {store : Store}
  {directory place : Place}
  {node : Node}
  {name : Text}
  {bytes : List UInt8}

theorem unpackedPath_of_relative
    (relative : (Path.ofText name).anchor = .here) :
    unpackedPath directory name =
      ⟨.root, directory ++ (Path.ofText name).names⟩ := by
  rw [unpackedPath, Path.under, relative]

theorem unpackedPath_of_absolute
    (absolute : (Path.ofText name).anchor ≠ .here) :
    unpackedPath directory name = Path.ofText name := by
  rw [unpackedPath, Path.under]
  split
  · rename_i relative
    exact absurd relative absolute
  · rfl

/--
A name that leads from a directory to a place below it without going back or
starting over.
-/
structure LeadsInto (directory : Place) (name : Text) : Prop where
  relative : (Path.ofText name).anchor = .here
  forward : Store.back ∉ (Path.ofText name).names
  short : (unpackedPath directory name).IsShort

/-- Such a name leads to the place of its names, if a node was put there. -/
theorem LeadsInto.locate
    (leads : LeadsInto directory name)
    (fresh : store.Fresh directory) :
    (store.holding directory [((Path.ofText name).names, node)]).locate
        (unpackedPath directory name) =
      .ok (directory ++ (Path.ofText name).names) := by
  have path :
      unpackedPath directory name =
        ⟨.root, directory ++ (Path.ofText name).names⟩ :=
    unpackedPath_of_relative leads.relative
  have short := leads.short
  rw [path] at short ⊢
  have forward : Store.back ∉ directory ++ (Path.ofText name).names := by
    rw [List.mem_append, not_or]
    exact ⟨fresh.forward, leads.forward⟩
  rw [Store.locate_eq_ok_iff]
  refine ⟨short.whole, Store.follow_of_forward forward, ?_⟩
  intro before part after split _
  dsimp only at split
  have beforeForward : Store.back ∉ before := by
    intro member
    apply forward
    rw [split]
    exact List.mem_append_left _ member
  refine ⟨short.names part (by simp [split]), ?_⟩
  intro more
  dsimp only [Store.start]
  rw [Store.follow_of_forward beforeForward, List.nil_append]
  apply fresh.find?_above_holding
  · rw [split]
    exact ⟨after, by simp⟩
  · rw [split]
    simpa using more

/-- A file is read under a name that leads to where it was put. -/
theorem LeadsInto.readUnpacked
    (leads : LeadsInto directory name)
    (fresh : store.Fresh directory) :
    readUnpacked store directory [((Path.ofText name).names, .file bytes)] name =
      decodeLines bytes := by
  have opened :
      (store.holding directory [((Path.ofText name).names, .file bytes)]).read
          (unpackedPath directory name) =
        .ok bytes := by
    rw [Store.read_eq_ok_iff]
    refine ⟨_, leads.locate fresh, ?_⟩
    rw [fresh.find?_holding, if_pos rfl]
  rw [Script.readUnpacked, opened]

end Opening

/-! ## Members of zip archives -/

section Zip

variable
  {store : Store}
  {directory : Place}
  {node : Node}
  {name : Text}
  {bytes : List UInt8}

theorem zipPlace_of_forward (forward : Store.back ∉ (Path.ofText name).names) :
    ArchiveLibraries.zipPlace name = (Path.ofText name).names := by
  apply List.filter_eq_self.mpr
  intro part inside
  rw [decide_eq_true_eq]
  rintro rfl
  exact forward inside

/-- A name from the root leads less far than below a directory. -/
theorem follow_ne_of_absolute (below : directory ≠ []) :
    Store.follow [] (Path.ofText name).names ≠
      directory ++ ArchiveLibraries.zipPlace name := by
  intro arrives
  have most := Store.length_follow_le [] (Path.ofText name).names
  have positive := List.length_pos_iff.mpr below
  rw [arrives, List.length_append, ArchiveLibraries.zipPlace] at most
  simp only [List.length_nil] at most
  omega

/-- A name with a double dot leads less far than to the place of the others. -/
theorem follow_ne_of_back
    (below : directory ≠ [])
    (goesBack : Store.back ∈ (Path.ofText name).names) :
    Store.follow directory (Path.ofText name).names ≠
      directory ++ ArchiveLibraries.zipPlace name := by
  intro arrives
  have less := Store.length_follow_lt below goesBack
  rw [arrives, List.length_append, ArchiveLibraries.zipPlace] at less
  exact absurd less (Nat.lt_irrefl _)

theorem start_of_absolute
    (absolute : (Path.ofText name).anchor ≠ .here) :
    store.start (Path.ofText name).anchor = [] := by
  cases begins : (Path.ofText name).anchor with
  | here => exact absurd begins absolute
  | root => rfl
  | doubleRoot => rfl

/-- A name leads to where a zip archive puts its member if it leads into there. -/
theorem locate_zip_iff (fresh : store.Fresh directory) :
    (store.holding directory [(ArchiveLibraries.zipPlace name, node)]).locate
          (unpackedPath directory name) =
        .ok (directory ++ ArchiveLibraries.zipPlace name) ↔
      LeadsInto directory name := by
  constructor
  · intro located
    rw [Store.locate_eq_ok_iff] at located
    rcases located with ⟨whole, arrives, passable⟩
    by_cases relative : (Path.ofText name).anchor = .here
    · rw [unpackedPath_of_relative relative] at whole arrives passable
      dsimp only [Store.start] at arrives passable
      rw [Store.follow_append, Store.follow_of_forward fresh.forward,
        List.nil_append] at arrives
      have forward : Store.back ∉ (Path.ofText name).names := fun goesBack =>
        follow_ne_of_back fresh.ne_nil goesBack arrives
      refine ⟨relative, forward, ?_⟩
      rw [unpackedPath_of_relative relative]
      refine ⟨whole, ?_⟩
      intro part member
      rcases List.append_of_mem member with ⟨before, after, split⟩
      apply (passable before part after split _).1
      rintro rfl
      exact (List.mem_append.mp member).elim fresh.forward forward
    · rw [unpackedPath_of_absolute relative, start_of_absolute relative]
        at arrives
      exact absurd arrives (follow_ne_of_absolute fresh.ne_nil)
  · intro leads
    rw [zipPlace_of_forward leads.forward]
    exact leads.locate fresh

/--
What is read under the name of a zip member, if this does not lead to where the
member is, stood in the store before and outside of the new directory.
-/
theorem exists_other_of_read_zip
    (fresh : store.Fresh directory)
    (astray : ¬LeadsInto directory name)
    {read : List UInt8}
    (opened :
      (store.holding directory
            [(ArchiveLibraries.zipPlace name, .file bytes)]).read
          (unpackedPath directory name) =
        .ok read) :
    ∃ place,
      ¬directory <+: place ∧ store.find? place = some (.file read) := by
  rw [Store.read_eq_ok_iff] at opened
  rcases opened with ⟨place, located, file⟩
  have elsewhere : place ≠ directory ++ ArchiveLibraries.zipPlace name := by
    rintro rfl
    exact astray ((locate_zip_iff fresh).mp located)
  refine ⟨place, ?_⟩
  rw [fresh.find?_holding, if_neg elsewhere] at file
  split at file
  · split at file <;> cases file
  · rename_i outside
    exact ⟨outside, file⟩

end Zip

end Script

end PocketCalc
