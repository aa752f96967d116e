import PocketCalc.Text.Quoted

/-!
# Paths

A path is an anchor and the names on the way.  Reading a path drops empty names
and single dots, and keeps double dots; writing it joins the names by slashes.
Exactly two slashes at the front are an anchor of their own, while any other
number of them stands for one.

The last name can end in suffixes, each opened by a dot.  Dots at the front of
a name open no suffix, and a name that ends with a dot has none.
-/

namespace PocketCalc

/-- Where a path begins. -/
inductive Anchor where
  | here
  | root
  | doubleRoot
deriving DecidableEq

namespace Anchor

/-- The slashes that write an anchor. -/
def render : Anchor → Text
  | here => []
  | root => ['/']
  | doubleRoot => ['/', '/']

/-- The anchor at the front of a text. -/
def ofText : Text → Anchor
  | '/' :: '/' :: '/' :: _ => root
  | '/' :: '/' :: _ => doubleRoot
  | '/' :: _ => root
  | _ => here

end Anchor

/-- An anchor and the names on the way. -/
structure Path where
  anchor : Anchor
  names : List Text
deriving DecidableEq

/-- The path of an empty last name, which cannot take another name. -/
structure NamelessPath where
  path : Path
deriving DecidableEq

namespace Path

/-- Read a path. -/
def ofText (text : Text) : Path where
  anchor := .ofText text
  names := (text.splitOnP (· = '/')).filter fun name =>
    name ≠ [] ∧ name ≠ ['.']

/-- Write a path; a single dot stands for the path of no names from here. -/
def render (path : Path) : Text :=
  match path.anchor, path.names with
  | .here, [] => ['.']
  | anchor, names => anchor.render ++ Text.joined ['/'] names

/-- What a path is from a directory: only a path from here goes on from there. -/
def under (directory path : Path) : Path :=
  match path.anchor with
  | .here => { directory with names := directory.names ++ path.names }
  | _ => path

/-- One more step along a path whose double dots are taken back at once. -/
def collapseStep (anchor : Anchor) (names : List Text) (name : Text) :
    List Text :=
  if name ≠ ['.', '.'] then
    names ++ [name]
  else if names.getLast?.any (· ≠ ['.', '.']) then
    names.dropLast
  else if anchor = .here then
    names ++ [name]
  else
    names

/--
The path in which every double dot has taken back the name before it, without
regard to what the names stand for.
-/
def collapse (path : Path) : Path :=
  { path with names := path.names.foldl (collapseStep path.anchor) [] }

/-- The last name, empty if there is none. -/
def name (path : Path) : Text :=
  path.names.getLast?.getD []

/-- The suffixes of a name, each with its dot. -/
def suffixesOf (name : Text) : List Text :=
  if name.getLast? = some '.' then
    []
  else
    let pieces := (name.dropWhile (· = '.')).splitOnP (· = '.')
    pieces.tail.map ('.' :: ·)

/-- The suffixes of the last name. -/
def suffixes (path : Path) : List Text :=
  suffixesOf path.name

/--
The last suffix of a name: the text from its last dot on, unless that dot
stands at either end of the name.
-/
def suffixOf (name : Text) : Text :=
  let ending := (name.reverse.takeWhile (· ≠ '.')).reverse
  if ending.isEmpty || name.length ≤ ending.length + 1 then
    []
  else
    '.' :: ending

/-- The last suffix of the last name, empty if it has none. -/
def suffix (path : Path) : Text :=
  suffixOf path.name

/-- The path with another last name. -/
def withName (path : Path) (name : Text) : Except NamelessPath Path :=
  if path.name = [] then
    .error ⟨path⟩
  else
    .ok { path with names := path.names.dropLast ++ [name] }

end Path

namespace NamelessPath

/-- The wording of the refusal. -/
def message (nameless : NamelessPath) : Text :=
  "PosixPath(" ++ Text.quoted nameless.path.render ++
    ") has an empty name"

end NamelessPath

end PocketCalc
