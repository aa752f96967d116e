import PocketCalc.Files.Path
import PocketCalc.Text.Utf8

/-!
# Files

A store holds files by their places and knows the directory that a program works
in.  A place is the list of names from the root to a file or directory.  The
working directory and those above it are always there, and so is every directory
above something that is there.

Looking up a path walks over directories from the root or from the working
directory.  A double dot goes back to the directory before; at the root it goes
nowhere.  A name of more than 255 bytes is refused wherever it is come to, and a
path of more than 4095 bytes at once.  There are no links.
-/

namespace PocketCalc

/-- What stands at a place. -/
inductive Node where
  | file (bytes : List UInt8)
  | directory
deriving DecidableEq

/-- The names from the root to a file or directory. -/
abbrev Place := List Text

/-- Why a file cannot be opened. -/
inductive FileFault where
  | notFound
  | isDirectory
  | notDirectory
  | nameTooLong
deriving DecidableEq

namespace FileFault

/-- The wording of a fault. -/
def message : FileFault → String
  | notFound => "No such file or directory"
  | isDirectory => "Is a directory"
  | notDirectory => "Not a directory"
  | nameTooLong => "File name too long"

end FileFault

/-- Files and directories, the newest first, and the directory to work in. -/
structure Store where
  entries : List (Place × Node) := []
  workingDirectory : Place := []
deriving DecidableEq

namespace Store

/-- What stands at a place. -/
def find? (store : Store) (place : Place) : Option Node :=
  if place.isPrefixOf store.workingDirectory then
    some .directory
  else
    match store.entries.find? (·.1 = place) with
    | some entry => some entry.2
    | none =>
        if store.entries.any (fun entry => place.isPrefixOf entry.1) then
          some .directory
        else
          none

/-- Put a node at a place, instead of what stands there. -/
def insert (store : Store) (place : Place) (node : Node) : Store :=
  { store with
    entries := (place, node) :: store.entries.filter (·.1 ≠ place) }

/-- Make a directory and put nodes below it, each by its names from there. -/
def holding
    (store : Store)
    (directory : Place)
    (nodes : List (Place × Node)) :
    Store :=
  nodes.foldl
    (fun store entry => store.insert (directory ++ entry.1) entry.2)
    (store.insert directory .directory)

/-! ## From paths to places -/

/-- The name of the directory before. -/
def back : Text := ['.', '.']

/-- The most bytes that the name of a file or directory has. -/
def nameLimit : Nat := 255

/-- Whether no file or directory can have a name. -/
def isTooLong (name : Text) : Bool :=
  nameLimit < (Utf8.encode name).length

/-- The most bytes that a path has. -/
def pathLimit : Nat := 4095

/-- Whether a path is too long to be walked along. -/
def exceedsLimit (path : Path) : Bool :=
  pathLimit < (Utf8.encode path.render).length

/--
Walk from a place along names.  All names but the last one must be those of
directories.
-/
def walk (store : Store) (place : Place) : List Text → Except FileFault Place
  | [] => .ok place
  | name :: rest =>
      if name = back then
        store.walk place.dropLast rest
      else if isTooLong name then
        .error .nameTooLong
      else if rest = [] then
        .ok (place ++ [name])
      else
        match store.find? (place ++ [name]) with
        | some .directory => store.walk (place ++ [name]) rest
        | some (.file _) => .error .notDirectory
        | none => .error .notFound

/-- The place where paths with an anchor begin. -/
def start (store : Store) : Anchor → Place
  | .here => store.workingDirectory
  | _ => []

/-- The place of a path. -/
def locate (store : Store) (path : Path) : Except FileFault Place :=
  if exceedsLimit path then
    .error .nameTooLong
  else
    store.walk (store.start path.anchor) path.names

/--
The path from the root that a path stands for, every double dot taken back
without regard to what the names stand for.
-/
def absolute (store : Store) (path : Path) : Path :=
  (Path.under ⟨.root, store.workingDirectory⟩ path).collapse

/-- Open the file that a path leads to. -/
def read (store : Store) (path : Path) : Except FileFault (List UInt8) :=
  match store.locate path with
  | .error fault => .error fault
  | .ok place =>
      match store.find? place with
      | some (.file bytes) => .ok bytes
      | some .directory => .error .isDirectory
      | none => .error .notFound

/--
The file that a path leads to, if it does lead to one.  Only what is too long is
not taken for the absence of a file.
-/
def file? (store : Store) (path : Path) :
    Except FileFault (Option (List UInt8)) :=
  match store.read path with
  | .ok bytes => .ok (some bytes)
  | .error .nameTooLong => .error .nameTooLong
  | .error _ => .ok none

/-! ## Writing -/

/-- The place of a path at which a file can be written. -/
def target (store : Store) (path : Path) : Except FileFault Place :=
  match store.locate path with
  | .error fault => .error fault
  | .ok place =>
      match store.find? place with
      | some .directory => .error .isDirectory
      | _ => .ok place

/-- The bytes of the file at a place, none if there is no file. -/
def bytesAt (store : Store) (place : Place) : List UInt8 :=
  match store.find? place with
  | some (.file bytes) => bytes
  | _ => []

/-- Make an empty file at a place unless something stands there. -/
def touch (store : Store) (place : Place) : Store :=
  match store.find? place with
  | some _ => store
  | none => store.insert place (.file [])

/-- Let the file at a place hold a text and nothing else. -/
def write (store : Store) (place : Place) (text : Text) : Store :=
  store.insert place (.file (Utf8.encode text))

/-- Write a text at the end of the file at a place. -/
def append (store : Store) (place : Place) (text : Text) : Store :=
  if text = [] then
    store.touch place
  else
    store.insert place (.file (store.bytesAt place ++ Utf8.encode text))

/-- The files of a store that another one does not have, or not so. -/
def changes (before after : Store) : List (Place × List UInt8) :=
  after.entries.filterMap fun entry =>
    match entry.2 with
    | .directory => none
    | .file bytes =>
        if before.find? entry.1 = some (.file bytes) then
          none
        else
          some (entry.1, bytes)

end Store

end PocketCalc
