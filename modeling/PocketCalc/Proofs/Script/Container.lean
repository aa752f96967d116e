import Mathlib.Data.List.Find
import Mathlib.Data.List.Nodup
import PocketCalc.Catalogue
import PocketCalc.Proofs.Script.Unpacking
import PocketCalc.Proofs.Text.Lines
import PocketCalc.Proofs.Text.Utf8

/-!
# The container of a script makes little difference

Regular files with distinct plain names can be packed in an archive of any kind.
The first of them with the name of a script is the script, and its key lines are
those of a plain file with its bytes: only the line ends of the text that is
read can differ, and key lines do not show them.

The libraries are relied upon to give back what was packed.  A tar archive is
read in place.  The script of a zip or 7z archive is unpacked first, so it must
be possible to unpack it, and its path in the temporary directory must be short
enough to be opened.
-/

namespace PocketCalc

namespace Script

/-- Regular files with distinct plain names. -/
structure Packable (members : List Member) : Prop where
  regular : ∀ member ∈ members, member.kind = .regular
  distinct : (members.map Member.name).Nodup
  plain : ∀ member ∈ members, Path.IsPlain member.name

instance (members : List Member) : Decidable (Packable members) :=
  decidable_of_iff
    ((∀ member ∈ members, member.kind = .regular) ∧
      (members.map Member.name).Nodup ∧
        ∀ member ∈ members, Path.IsPlain member.name)
    ⟨fun all => ⟨all.1, all.2.1, all.2.2⟩,
      fun packable => ⟨packable.regular, packable.distinct, packable.plain⟩⟩

/--
An archive of a kind holds members: its library lists them in order, and what it
gives or unpacks for a name is what was packed under it.
-/
def Holds
    (libraries : ArchiveLibraries)
    (kind : ArchiveKind)
    (bytes : List UInt8)
    (members : List Member) :
    Prop :=
  match kind with
  | .zip =>
      libraries.zipNames bytes = .ok (members.map Member.name) ∧
        ∀ name content,
          libraries.zipContent bytes name = .ok content →
            ∃ member ∈ members, member.name = name ∧ content = member.bytes
  | .tarXz =>
      libraries.tarMembers bytes =
        .ok
          (members.map fun member =>
            ⟨member.name, member.kind = .regular, .ok member.bytes⟩)
  | .sevenZip =>
      libraries.sevenZip.names bytes = .ok (members.map Member.name) ∧
        ∀ name nodes,
          libraries.sevenZip.unpack bytes name = .ok nodes →
            ∃ member ∈ members,
              member.name = name ∧
                nodes = [((Path.ofText name).names, member.node)]

/-- A library that unpacks archives of a kind can unpack a name to be opened. -/
def Unpacks
    (host : Host)
    (kind : ArchiveKind)
    (bytes : List UInt8)
    (name : Text) :
    Prop :=
  ∀ unpacker,
    host.libraries.unpacker? kind = some unpacker →
      (∃ nodes, unpacker.unpack bytes name = .ok nodes) ∧
        (unpackedPath host.temporary name).IsShort

/-- The first member with the name of a script. -/
def firstScript? (members : List Member) : Option Member :=
  members.find? fun member => isScriptName member.name

/--
An archive of a kind is read as a plain file with the bytes of the first script
among its members, whatever the paths of the archive and of the file are.
-/
structure ReadsAsPlain
    (host : Host)
    (store : Store)
    (kind : ArchiveKind)
    (bytes : List UInt8)
    (members : List Member) :
    Prop where
  noScript :
    firstScript? members = none →
      ∀ path, format? path = some (.archive kind) →
        readContent host store path bytes = .error (.script (.noScript kind))
  /-- Bytes that are no text are refused with the same fault. -/
  undecodable :
    ∀ first fault,
      firstScript? members = some first →
        Utf8.decode first.bytes = .error fault →
          ∀ path plain,
            format? path = some (.archive kind) →
              format? plain = some .text →
                readContent host store path bytes =
                    .error (.script (.undecodable fault)) ∧
                  readContent host store plain first.bytes =
                    .error (.script (.undecodable fault))
  /-- Texts differ at most by the spelling of their line ends. -/
  text :
    ∀ first text,
      firstScript? members = some first →
        Utf8.decode first.bytes = .ok text →
          ∀ path plain,
            format? path = some (.archive kind) →
              format? plain = some .text →
                ∃ read,
                  readContent host store path bytes = .ok read ∧
                    readContent host store plain first.bytes =
                      .ok (Text.unifyLineEnds read) ∧
                      keyLines read = keyLines text ∧
                        keyLines (Text.unifyLineEnds read) = keyLines text

/-! ## Reading the members -/

section Reading

variable
  {host : Host}
  {store : Store}
  {kind : ArchiveKind}
  {unpacker : Unpacker}
  {members : List Member}
  {first : Member}
  {bytes : List UInt8}

/-- The first script by its name is the first member with such a name. -/
theorem find?_names (members : List Member) :
    (members.map Member.name).find? isScriptName =
      (firstScript? members).map Member.name := by
  rw [List.find?_map]
  rfl

theorem mem_of_firstScript? (found : firstScript? members = some first) :
    first ∈ members :=
  List.mem_of_find?_eq_some found

/-- Of regular files a tar archive has the same first script. -/
theorem Packable.find?_tarMembers (packable : Packable members) :
    (members.map fun member =>
          (⟨member.name, member.kind = .regular, .ok member.bytes⟩ :
            TarMember)).find?
        (fun member => member.isFile && isScriptName member.name) =
      (firstScript? members).map fun member =>
        ⟨member.name, member.kind = .regular, .ok member.bytes⟩ := by
  rw [List.find?_map]
  congr 1
  apply List.find?_congr
  intro member inside
  simp [packable.regular member inside]

/-- Members with distinct names are told by them. -/
theorem Packable.eq_of_name_eq
    (packable : Packable members)
    {left right : Member}
    (leftInside : left ∈ members)
    (rightInside : right ∈ members)
    (same : left.name = right.name) :
    left = right :=
  List.inj_on_of_nodup_map packable.distinct leftInside rightInside same

theorem Packable.names_forward
    (packable : Packable members)
    (inside : first ∈ members) :
    Store.back ∉ (Path.ofText first.name).names := by
  have plain := packable.plain first inside
  rw [Path.ofText_of_isPlain plain]
  exact Path.back_notMem_of_isPlain plain

/-- What an unpacking library holds, in the way in which both kinds do. -/
theorem Holds.of_unpacker
    (packable : Packable members)
    (holds : Holds host.libraries kind bytes members)
    (unpacks : host.libraries.unpacker? kind = some unpacker) :
    unpacker.names bytes = .ok (members.map Member.name) ∧
      ∀ member ∈ members, ∀ nodes,
        unpacker.unpack bytes member.name = .ok nodes →
          nodes = [((Path.ofText member.name).names, .file member.bytes)] := by
  cases kind with
  | tarXz => cases unpacks
  | sevenZip =>
      cases unpacks
      refine ⟨holds.1, ?_⟩
      intro member inside nodes unpacked
      rcases holds.2 member.name nodes unpacked with ⟨other, there, same, rfl⟩
      cases packable.eq_of_name_eq there inside same
      rw [Member.node, packable.regular member inside]
  | zip =>
      cases unpacks
      refine ⟨holds.1, ?_⟩
      intro member inside nodes unpacked
      cases read : host.libraries.zipContent bytes member.name with
      | error fault =>
          simp only [ArchiveLibraries.zip, read] at unpacked
          cases unpacked
      | ok content =>
          simp only [ArchiveLibraries.zip, read] at unpacked
          cases unpacked
          rcases holds.2 member.name content read with ⟨other, there, same, rfl⟩
          cases packable.eq_of_name_eq there inside same
          rw [zipPlace_of_forward (packable.names_forward inside)]

/-- The first script is read, with or without its line ends. -/
theorem readArchive_of_first
    (packable : Packable members)
    (fresh : store.Fresh host.temporary)
    (holds : Holds host.libraries kind bytes members)
    (found : firstScript? members = some first)
    (unpacks : Unpacks host kind bytes first.name)
    (archive : Text) :
    readArchive host store archive kind bytes = decode first.bytes ∨
      readArchive host store archive kind bytes = decodeLines first.bytes := by
  have inside := mem_of_firstScript? found
  cases unpacker : host.libraries.unpacker? kind with
  | some library =>
      right
      rcases holds.of_unpacker packable unpacker with ⟨names, packed⟩
      rcases unpacks library unpacker with ⟨⟨nodes, unpacked⟩, short⟩
      have leads : LeadsInto host.temporary first.name :=
        { relative := by rw [Path.ofText_of_isPlain (packable.plain first inside)]
          forward := packable.names_forward inside
          short := short }
      have finds : Finds library bytes first.name :=
        ⟨_, names, by rw [find?_names, found, Option.map_some]⟩
      rw [readArchive_of_unpacked unpacker finds unpacked,
        packed first inside nodes unpacked]
      exact leads.readUnpacked fresh
  | none =>
      left
      have inPlace := unpacker?_eq_none_iff.mp unpacker
      subst inPlace
      have listed : host.libraries.tarMembers bytes = _ := holds
      rw [readArchive, unpacker]
      dsimp only
      rw [readTar, listed]
      dsimp only
      rw [packable.find?_tarMembers, found]
      rfl

theorem readArchive_of_noScript
    (packable : Packable members)
    (holds : Holds host.libraries kind bytes members)
    (absent : firstScript? members = none)
    (archive : Text) :
    readArchive host store archive kind bytes =
      .error (.script (.noScript kind)) := by
  rw [readArchive]
  cases unpacker : host.libraries.unpacker? kind with
  | some library =>
      dsimp only
      rw [readUnpacking, (holds.of_unpacker packable unpacker).1]
      dsimp only
      rw [find?_names, absent]
      rfl
  | none =>
      have inPlace := unpacker?_eq_none_iff.mp unpacker
      subst inPlace
      have listed : host.libraries.tarMembers bytes = _ := holds
      dsimp only
      rw [readTar, listed]
      dsimp only
      rw [packable.find?_tarMembers, absent]
      rfl

theorem readContent_plain
    {path : Path}
    (promised : format? path = some .text) :
    readContent host store path bytes = decodeLines bytes := by
  rw [readContent, promised]

end Reading

/-! ## Known archives -/

section Catalogues

variable
  {catalogue : Catalogue}
  {kind : ArchiveKind}
  {bytes : List UInt8}
  {members : List Member}

/-- The member of a name is one of the members. -/
theorem mem_of_named
    {name : Text}
    {member : Member}
    (found : Catalogue.named name members = .ok member) :
    member ∈ members ∧ member.name = name := by
  rw [Catalogue.named] at found
  split at found
  · rename_i other first
    cases found
    have same := List.find?_some first
    rw [decide_eq_true_eq] at same
    exact ⟨List.mem_of_find?_eq_some first, same⟩
  · cases found

/-- A catalogue gives back what was packed into a known archive. -/
theorem holds_of_catalogue
    (known : catalogue.members kind bytes = .ok members) :
    Holds catalogue.host.libraries kind bytes members := by
  cases kind with
  | tarXz =>
      change (catalogue.members .tarXz bytes).map _ = _
      rw [known]
      rfl
  | zip =>
      constructor
      · change (catalogue.members .zip bytes).map _ = _
        rw [known]
        rfl
      · intro name content read
        change catalogue.zipContent bytes name = .ok content at read
        rw [Catalogue.zipContent, known] at read
        split at read
        · cases read
        · dsimp only [Except.bind] at read
          cases found : Catalogue.named name members.reverse with
          | error fault =>
              rw [found] at read
              cases read
          | ok member =>
              rw [found] at read
              cases read
              rcases mem_of_named found with ⟨inside, same⟩
              exact ⟨member, List.mem_reverse.mp inside, same, rfl⟩
  | sevenZip =>
      constructor
      · change (catalogue.members .sevenZip bytes).map _ = _
        rw [known]
        rfl
      · intro name nodes unpacked
        change
          ((catalogue.members .sevenZip bytes).bind _).bind _ = .ok nodes
          at unpacked
        rw [known] at unpacked
        dsimp only [Except.bind] at unpacked
        cases found : Catalogue.named name members with
        | error fault =>
            rw [found] at unpacked
            cases unpacked
        | ok member =>
            rw [found] at unpacked
            cases unpacked
            rcases mem_of_named found with ⟨inside, rfl⟩
            exact ⟨member, inside, rfl, rfl⟩

end Catalogues

/--
The container of a script makes no difference, as far as the script can be
unpacked and opened.  Archives of any kind with the same members are read as a
plain file with the bytes of the first script: there is the same fault if these
are no text, and there are the same key lines if they are.
-/
theorem container_makes_no_difference
    {host : Host}
    {store : Store}
    {kind : ArchiveKind}
    {bytes : List UInt8}
    {members : List Member}
    (packable : Packable members)
    (fresh : store.Fresh host.temporary)
    (holds : Holds host.libraries kind bytes members)
    (unpacks :
      ∀ first,
        firstScript? members = some first →
          Unpacks host kind bytes first.name) :
    ReadsAsPlain host store kind bytes members := by
  constructor
  case noScript =>
    intro absent path promised
    rw [readContent_archive promised]
    exact readArchive_of_noScript packable holds absent path.name
  case undecodable =>
    intro first fault found invalid path plain promised plainly
    have refused : decode first.bytes = .error (.script (.undecodable fault)) := by
      rw [decode, invalid]
    have refusedLines :
        decodeLines first.bytes = .error (.script (.undecodable fault)) := by
      rw [decodeLines, refused]
      rfl
    rw [readContent_archive promised, readContent_plain plainly]
    refine ⟨?_, refusedLines⟩
    rcases
        readArchive_of_first packable fresh holds found (unpacks first found)
          path.name with
      inPlace | unpacked
    · rw [inPlace, refused]
    · rw [unpacked, refusedLines]
  case text =>
    intro first text found valid path plain promised plainly
    have decoded : decode first.bytes = .ok text := by
      rw [decode, valid]
    have decodedLines :
        decodeLines first.bytes = .ok (Text.unifyLineEnds text) := by
      rw [decodeLines, decoded]
      rfl
    rw [readContent_archive promised, readContent_plain plainly, decodedLines]
    have sameLines :
        keyLines (Text.unifyLineEnds text) = keyLines text := by
      rw [keyLines, Text.lines_unifyLineEnds, keyLines]
    rcases
        readArchive_of_first packable fresh holds found (unpacks first found)
          path.name with
      inPlace | unpacked
    · exact ⟨text, by rw [inPlace, decoded], rfl, rfl, sameLines⟩
    · refine
        ⟨Text.unifyLineEnds text, by rw [unpacked, decodedLines], ?_,
          sameLines, ?_⟩
      · rw [Text.unifyLineEnds_unifyLineEnds]
      · rw [Text.unifyLineEnds_unifyLineEnds, sameLines]

/-- The first of two scripts is read, whatever the other one holds. -/
theorem container_makes_no_difference_for_two_scripts :
    let bytes := Utf8.encode "9÷2 =\r\n".toList
    let members : List Member :=
      [⟨"notes".toList, .regular, [0xFF]⟩,
        ⟨"a/c.txt".toList, .regular, bytes⟩,
        ⟨"k.txt".toList, .regular, [0xFF]⟩]
    let host := Catalogue.host [⟨.sevenZip, [0x37, 0x7A], members⟩]
    let store : Store := { entries := [(["tmp".toList], .directory)] }
    Packable members ∧
      store.Fresh host.temporary ∧
        Holds host.libraries .sevenZip [0x37, 0x7A] members ∧
          (∀ first,
            firstScript? members = some first →
              Unpacks host .sevenZip [0x37, 0x7A] first.name) ∧
            ReadsAsPlain host store .sevenZip [0x37, 0x7A] members := by
  intro bytes members host store
  have packable : Packable members := by
    decide +kernel
  have fresh : store.Fresh host.temporary := by
    decide +kernel
  have holds : Holds host.libraries .sevenZip [0x37, 0x7A] members :=
    holds_of_catalogue rfl
  have unpacks :
      ∀ first,
        firstScript? members = some first →
          Unpacks host .sevenZip [0x37, 0x7A] first.name := by
    intro first found unpacker unpacks
    cases found
    cases unpacks
    exact ⟨⟨_, rfl⟩, by decide +kernel⟩
  exact
    ⟨packable, fresh, holds, unpacks,
      container_makes_no_difference packable fresh holds unpacks⟩

/-- A script with a name that is too long can be read in place only. -/
theorem container_differs_for_long_name :
    let text : Text := "1+1 =\r\n3"
    let member : Member :=
      ⟨List.replicate 256 'n' ++ ".txt".toList, .regular, Utf8.encode text⟩
    let host :=
      Catalogue.host [⟨.zip, [0x50], [member]⟩, ⟨.tarXz, [0xFD], [member]⟩]
    let store : Store := { entries := [(["tmp".toList], .directory)] }
    Packable [member] ∧
      store.Fresh host.temporary ∧
        (Holds host.libraries .tarXz [0xFD] [member] ∧
            readContent host store (.ofText "s.tar.xz") [0xFD] = .ok text) ∧
          Holds host.libraries .zip [0x50] [member] ∧
            ¬ReadsAsPlain host store .zip [0x50] [member] := by
  intro text member host store
  have packable : Packable [member] := by
    decide +kernel
  have fresh : store.Fresh host.temporary := by
    decide +kernel
  have found : firstScript? [member] = some member := by
    decide +kernel
  have inPlace :
      readContent host store (.ofText "s.tar.xz") [0xFD] = .ok text := by
    decide +kernel
  have refused :
      (readContent host store (.ofText "s.zip") [0x50]).toOption = none := by
    decide +kernel
  refine
    ⟨packable, fresh, ⟨holds_of_catalogue rfl, inPlace⟩, holds_of_catalogue rfl,
      ?_⟩
  intro alike
  rcases
      alike.text member _ found (Utf8.decode_encode _) (.ofText "s.zip")
        (.ofText "k.txt") rfl rfl with
    ⟨read, opened, _⟩
  rw [opened] at refused
  cases refused

end Script

end PocketCalc
