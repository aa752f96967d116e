import PocketCalc.CommandLine.SettingsFile
import PocketCalc.Host

/-!
# Catalogues of archives

A catalogue knows archives in the simplest way: the bytes of some of them, and
the members that were packed into each.  It makes a host for which all other
bytes are damaged archives.

If a name occurs twice in a zip archive, the last member of that name is the one
that is unpacked.  No file is made at a place with a name that is too long.
-/

namespace PocketCalc

/-- What a member of an archive is. -/
inductive MemberKind where
  | regular
  | directory
  | link
deriving DecidableEq

/-- A member as it was packed into an archive. -/
structure Member where
  name : Text
  kind : MemberKind
  bytes : List UInt8
deriving DecidableEq

/-- What a member is when it has been unpacked. -/
def Member.node (member : Member) : Node :=
  match member.kind with
  | .directory => .directory
  | _ => .file member.bytes

/-- An archive by its bytes, and the members that were packed into it. -/
structure KnownArchive where
  kind : ArchiveKind
  bytes : List UInt8
  members : List Member
deriving DecidableEq

/-- The archives that are known. -/
abbrev Catalogue := List KnownArchive

namespace ArchiveKind

/-- How a library words that bytes are no archive of its kind. -/
def refusal : ArchiveKind → Text
  | zip => "File is not a zip file"
  | tarXz => "not an lzma file"
  | sevenZip => "not a 7z file"

end ArchiveKind

namespace Catalogue

/-- The members of a known archive. -/
def members (catalogue : Catalogue) (kind : ArchiveKind) (bytes : List UInt8) :
    Except ArchiveFault (List Member) :=
  match catalogue.find? fun archive =>
      archive.kind = kind ∧ archive.bytes = bytes with
  | some archive => .ok archive.members
  | none => .error (.corrupt kind.refusal)

/-- The names of the members of a known archive. -/
def names (catalogue : Catalogue) (kind : ArchiveKind) (bytes : List UInt8) :
    Except ArchiveFault (List Text) :=
  (catalogue.members kind bytes).map fun members => members.map Member.name

/-- The member of a name among those of an archive. -/
def named (name : Text) (members : List Member) :
    Except ArchiveFault Member :=
  match members.find? (·.name = name) with
  | some member => .ok member
  | none => .error (.foreign ⟨"KeyError", Text.quoted name⟩)

/-- The bytes of the file that a known zip archive unpacks for a name. -/
def zipContent (catalogue : Catalogue) (bytes : List UInt8) (name : Text) :
    Except ArchiveFault (List UInt8) :=
  if (ArchiveLibraries.zipPlace name).any Store.isTooLong then
    .error (.foreign ⟨"OSError", FileFault.nameTooLong.message⟩)
  else
    ((catalogue.members .zip bytes).bind fun members =>
      named name members.reverse).map Member.bytes

/-- The members of a known tar archive. -/
def tarMembers (catalogue : Catalogue) (bytes : List UInt8) :
    Except ArchiveFault (List TarMember) :=
  (catalogue.members .tarXz bytes).map fun members =>
    members.map fun member =>
      { name := member.name
        isFile := member.kind = .regular
        content := .ok member.bytes }

/-- The libraries of a catalogue, with what the one for 7z makes of a member. -/
def libraries
    (catalogue : Catalogue)
    (unpackMember : Member → Except ArchiveFault (List (Place × Node))) :
    ArchiveLibraries where
  zipNames := catalogue.names .zip
  zipContent := catalogue.zipContent
  tarMembers := catalogue.tarMembers
  sevenZip :=
    { names := catalogue.names .sevenZip
      unpack := fun bytes name =>
        ((catalogue.members .sevenZip bytes).bind (named name)).bind
          unpackMember }

/-- A host for which a member is unpacked where its names say. -/
def host (catalogue : Catalogue) : Host where
  libraries :=
    catalogue.libraries fun member =>
      .ok [((Path.ofText member.name).names, member.node)]
  temporary := ["tmp", "unpacked"]
  settingsOf := SettingsFile.read

end Catalogue

end PocketCalc
