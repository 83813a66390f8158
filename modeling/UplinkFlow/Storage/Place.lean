import UplinkFlow.Text.Parts

/-!
# Places of files

A `Place` is the path of a file: its text, the names of the folders on the way and the last name.

* `Place.ofText` — the place that a path denotes.
* `Place.location` — where the file stands once every `..` has been resolved.
* `Place.withSuffix` — the place of a neighbour whose name has a suffix.
* `Place.folderText` — the path of the folder, which is empty for a single name.
-/

set_option autoImplicit false

namespace UplinkFlow

/-- The names from the outermost folder down to an entry.  A location that does not begin at the
root of all files begins at the working folder. -/
abbrev Location := List String

namespace Location

/-- The name that stands for the root of all files. -/
def rootName : String := "/"

/-- The name of the folder outside. -/
def outerName : String := ".."

/-- Whether a location is a folder that always exists: the root, the working folder or one around
it. -/
def isFixed (l : Location) : Bool := l == [rootName] || l.all (· == outerName)

/-- A location with its depth, by which most others are told from it at once. -/
def key (l : Location) : Nat × Location := (l.length, l)

/-- The folder around a folder. -/
def outer (l : Location) : Location :=
  if l = [rootName] then l else if l.isFixed then l ++ [outerName] else l.dropLast

/-- Goes from a folder to a name in it. -/
def enter (l : Location) (name : String) : Location :=
  if name = "" ∨ name = "." then l
  else if name = outerName then l.outer
  else l ++ [name]

end Location

/-- The path of a file. -/
structure Place where
  text : String
  start : Location
  folders : List String
  name : String
deriving DecidableEq, Repr

namespace Place

/-- The place that a path denotes. -/
def ofText (text : String) : Place :=
  let parts := (Text.partsAt '/' text.toList).map String.ofList
  let start : Location := if text.toList.head? = some '/' then [Location.rootName] else []
  ⟨text, start, parts.dropLast.filter fun name => name != "" && name != ".", parts.getLastD ""⟩

/-- The location of the file. -/
def location (p : Place) : Location := (p.folders.foldl Location.enter p.start).enter p.name

/-- The folders on the way and the file itself, each with its path. -/
def steps (p : Place) : List (Location × String) :=
  let names := (p.folders ++ [p.name]).filter (· != "")
  let root := if p.start.isEmpty then "" else Location.rootName
  (List.range names.length).map fun i =>
    let way := names.take (i + 1)
    (way.foldl Location.enter p.start, root ++ String.intercalate "/" way)

/-- The place of a neighbour. -/
def withSuffix (p : Place) (suffix : String) : Place :=
  { p with text := p.text ++ suffix, name := p.name ++ suffix }

/-- Drops the slashes and the steps to the same folder behind a path; the path is in reverse. -/
def dropSteps : List Char → List Char
  | '/' :: rest => dropSteps rest
  | '.' :: '/' :: rest => dropSteps ('/' :: rest)
  | cs => cs

/-- The path of the folder. -/
def folderText (p : Place) : String :=
  let before := dropSteps (p.text.toList.reverse.dropWhile (· != '/'))
  if before.isEmpty && p.text.toList.head? == some '/' then "/"
  else String.ofList before.reverse

end Place

end UplinkFlow
