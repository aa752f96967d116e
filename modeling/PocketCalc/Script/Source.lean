import PocketCalc.Host

/-!
# Reading a script

A script is a file of key lines, or an archive with such a file in it.  The
suffix of the path decides how the file is read, whatever it holds.  Of an
archive the first member whose name ends in `.txt` is the script.

The kinds of archives differ in what counts as a member and in how the member
is read.  A member of a tar archive must be a regular file; it is read in place
and its line ends are left alone.

The script of a zip or 7z archive is unpacked alone into a temporary directory.
It is then opened under its full name, seen from that directory, which need not
be where it was unpacked: the name may lead to another file, or to none.

The fault of a script is one that a run reports.  The fault of a file and one
that comes from elsewhere are not: a run ends with them.
-/

namespace PocketCalc

namespace Script

/-- How a script file is read. -/
inductive Format where
  | text
  | archive (kind : ArchiveKind)
deriving DecidableEq

/-- Why a file cannot be read as a script. -/
inductive Fault where
  | unsupported (suffix : Text)
  | corrupt (name reason : Text)
  | noScript (kind : ArchiveKind)
  | invalid (message : Text)
  | undecodable (fault : Utf8.Fault)
deriving DecidableEq

/-- Why reading a script ends without a text. -/
inductive ReadFault where
  /-- The file is not a script. -/
  | script (fault : Fault)
  /-- A file that should be there cannot be opened. -/
  | file (fault : FileFault)
  /-- Taking an archive apart went wrong in a way that no one expects. -/
  | foreign (fault : ForeignFault)
deriving DecidableEq

/-- The name of a kind of archives. -/
def archiveName : ArchiveKind → String
  | .zip => "zip"
  | .tarXz => "tar.xz"
  | .sevenZip => "7z"

namespace Fault

/-- The wording of a fault. -/
def message : Fault → Text
  | unsupported suffix => "📄❌ Unsupported script format: " ++ suffix
  | corrupt name reason => "📄❌ Corrupt archive " ++ name ++ ": " ++ reason
  | noScript kind =>
      "📄❌ No .txt file found in " ++ (archiveName kind).toList ++ " archive"
  | invalid message => message
  | undecodable fault => fault.message

end Fault

/-- What the fault of an archive with the given name is for reading a script. -/
def ReadFault.ofArchive (name : Text) : ArchiveFault → ReadFault
  | .corrupt reason => .script (.corrupt name reason)
  | .invalid message => .script (.invalid message)
  | .foreign fault => .foreign fault

/-- The format that a path promises by its suffixes. -/
def format? (path : Path) : Option Format :=
  if path.suffix = ".txt".toList then
    some .text
  else if path.suffix = ".zip".toList then
    some (.archive .zip)
  else if (path.suffixes.reverse.take 2).reverse =
      [".tar".toList, ".xz".toList] then
    some (.archive .tarXz)
  else if path.suffix = ".7z".toList then
    some (.archive .sevenZip)
  else
    none

/-- Whether a name is that of a script. -/
def isScriptName (name : Text) : Bool :=
  ".txt".toList.isSuffixOf name

/-- The text that bytes encode. -/
def decode (bytes : List UInt8) : Except ReadFault Text :=
  match Utf8.decode bytes with
  | .ok text => .ok text
  | .error fault => .error (.script (.undecodable fault))

/-- The text that bytes encode, every line end being one line feed. -/
def decodeLines (bytes : List UInt8) : Except ReadFault Text :=
  (decode bytes).map Text.unifyLineEnds

/-! ## Archives -/

/-- The path of a member that was unpacked into a directory. -/
def unpackedPath (directory : Place) (name : Text) : Path :=
  .under ⟨.root, directory⟩ (.ofText name)

/-- Put what was unpacked into a directory, and open what a name leads to there. -/
def readUnpacked
    (store : Store)
    (directory : Place)
    (nodes : List (Place × Node))
    (name : Text) :
    Except ReadFault Text :=
  match (store.holding directory nodes).read (unpackedPath directory name) with
  | .error fault => .error (.file fault)
  | .ok bytes => decodeLines bytes

section Archives

variable
  (host : Host)
  (store : Store)
  (archive : Text)

/-- The script in an archive, unpacked by the library for its kind. -/
def readUnpacking
    (kind : ArchiveKind)
    (unpacker : Unpacker)
    (bytes : List UInt8) :
    Except ReadFault Text :=
  match unpacker.names bytes with
  | .error fault => .error (.ofArchive archive fault)
  | .ok names =>
      match names.find? isScriptName with
      | none => .error (.script (.noScript kind))
      | some script =>
          match unpacker.unpack bytes script with
          | .error fault => .error (.ofArchive archive fault)
          | .ok nodes => readUnpacked store host.temporary nodes script

/-- The script in a tar archive. -/
def readTar (bytes : List UInt8) : Except ReadFault Text :=
  match host.libraries.tarMembers bytes with
  | .error fault => .error (.ofArchive archive fault)
  | .ok members =>
      match members.find? fun member =>
          member.isFile && isScriptName member.name with
      | none => .error (.script (.noScript .tarXz))
      | some script =>
          match script.content with
          | .error fault => .error (.ofArchive archive fault)
          | .ok content => decode content

/-- The script in an archive with the given name. -/
def readArchive (kind : ArchiveKind) (bytes : List UInt8) :
    Except ReadFault Text :=
  match host.libraries.unpacker? kind with
  | some unpacker => readUnpacking host store archive kind unpacker bytes
  | none => readTar host archive bytes

end Archives

/-- The text of a script file with the given path and bytes. -/
def readContent
    (host : Host)
    (store : Store)
    (path : Path)
    (bytes : List UInt8) :
    Except ReadFault Text :=
  match format? path with
  | none => .error (.script (.unsupported path.suffix))
  | some .text => decodeLines bytes
  | some (.archive kind) => readArchive host store path.name kind bytes

/-- The key lines of a script text. -/
def keyLines (text : Text) : List Text :=
  Text.stripLines (Text.lines text)

end Script

end PocketCalc
