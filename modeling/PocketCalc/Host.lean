import PocketCalc.Files.Store
import PocketCalc.Settings

/-!
# What a run relies on

The calculator does not take archives apart itself, does not know the syntax of
its settings file, and is told where a temporary directory is made.  A host
supplies all of this.  Nothing is assumed of a host here: what a result needs of
it is a hypothesis of that result.

Only the place at which a zip archive unpacks a member is known.  It is below
the directory meant for it, because double dots and slashes at the front are
taken out of the name.
-/

namespace PocketCalc

/-- The kinds of archives. -/
inductive ArchiveKind where
  | zip
  | tarXz
  | sevenZip
deriving DecidableEq

/-- A fault from elsewhere, by its kind and its wording. -/
structure ForeignFault where
  kind : String
  message : Text
deriving DecidableEq

/-- Why an archive cannot be taken apart. -/
inductive ArchiveFault where
  /-- The library finds the archive to be damaged, or to be none. -/
  | corrupt (message : Text)
  /-- The library refuses a value in it. -/
  | invalid (message : Text)
  /-- Anything else goes wrong. -/
  | foreign (fault : ForeignFault)
deriving DecidableEq

/-- A library for archives of which one member is unpacked to be read. -/
structure Unpacker where
  /-- The names of the members of an archive, in their order. -/
  names : List UInt8 → Except ArchiveFault (List Text)
  /--
  What unpacking the member of a name puts into an empty directory.  A link is
  there as what it leads to.
  -/
  unpack : List UInt8 → Text → Except ArchiveFault (List (Place × Node))

/-- A member of a tar archive. -/
structure TarMember where
  name : Text
  isFile : Bool
  content : Except ArchiveFault (List UInt8)

/-- The libraries that take archives apart. -/
structure ArchiveLibraries where
  /-- The names of the members of a zip archive, in their order. -/
  zipNames : List UInt8 → Except ArchiveFault (List Text)
  /-- The bytes of the file to which the member of a name is unpacked. -/
  zipContent : List UInt8 → Text → Except ArchiveFault (List UInt8)
  /-- The members of a tar archive, in their order. -/
  tarMembers : List UInt8 → Except ArchiveFault (List TarMember)
  sevenZip : Unpacker

namespace ArchiveLibraries

/-- Where a zip archive unpacks a member: below the names that do not lead back. -/
def zipPlace (name : Text) : Place :=
  (Path.ofText name).names.filter (· ≠ Store.back)

/-- Zip archives unpack a member to one file. -/
def zip (libraries : ArchiveLibraries) : Unpacker where
  names := libraries.zipNames
  unpack bytes name :=
    (libraries.zipContent bytes name).map fun content =>
      [(zipPlace name, .file content)]

/-- The library that unpacks archives of a kind; tar archives are read in place. -/
def unpacker? (libraries : ArchiveLibraries) : ArchiveKind → Option Unpacker
  | .zip => some libraries.zip
  | .tarXz => none
  | .sevenZip => some libraries.sevenZip

end ArchiveLibraries

/-- What a run relies on and does not do itself. -/
structure Host where
  libraries : ArchiveLibraries
  /-- The place of a new directory for what is unpacked. -/
  temporary : Place
  /-- The names and values that the text of a settings file gives. -/
  settingsOf : Settings.Source → Text → Settings.Source

end PocketCalc
