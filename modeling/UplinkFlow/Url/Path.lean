import UplinkFlow.Text.Percent
import UplinkFlow.Url.Characters

/-!
# Paths

A `Path` is the list of its segments, the last one first; `text` writes a slash before each.

* `Path.parse` — reads the segments of a text and resolves those that name the same or the outer
  folder.
* `Path.asFolder` — the path with an empty last segment.
* `Path.add` — the path with one more segment, which is encoded so that it stays one.
-/

set_option autoImplicit false

namespace UplinkFlow.Url

/-- The segments of a path, the last one first. -/
structure Path where
  last : List Char
  outer : List (List Char)
deriving DecidableEq, Repr

namespace Path

/-- The path of a root. -/
def root : Path := ⟨[], []⟩

def chars (p : Path) : List Char := ((p.last :: p.outer).reverse).flatMap ('/' :: ·)

def text (p : Path) : String := String.ofList p.chars

/-- The segment with its encoded dots in the clear. -/
def undot : List Char → List Char
  | '%' :: '2' :: e :: rest =>
    if e = 'e' ∨ e = 'E' then '.' :: undot rest else '%' :: '2' :: e :: rest
  | c :: rest => c :: undot rest
  | [] => []

/-- Whether a segment names the folder that it is in. -/
def isSame (segment : List Char) : Bool := undot segment == ['.']

/-- Whether a segment names the folder outside. -/
def isOuter (segment : List Char) : Bool := undot segment == ['.', '.']

/-- Whether a segment is a drive letter, which is never left. -/
def isDrive : List Char → Bool
  | [letter, mark] => letter.isAlpha && (mark == ':' || mark == '|')
  | _ => false

/-- The path with an empty segment in place of the last one and of the one before it. -/
def leave (p : Path) : Path :=
  match p.outer with
  | [] => root
  | before :: rest => if isDrive before then ⟨[], p.outer⟩ else ⟨[], rest⟩

/-- Ends the last segment; a further one follows if `more` holds. -/
def finish (p : Path) (more : Bool) : Path :=
  if isOuter p.last then p.leave
  else if isSame p.last then ⟨[], p.outer⟩
  else if more then ⟨[], p.last :: p.outer⟩
  else p

/-- The segments of a text, divided at slashes. -/
def segments : List Char → List (List Char)
  | [] => [[]]
  | c :: cs =>
    if isSlash c then [] :: segments cs
    else
      match segments cs with
      | [] => [[c]]
      | segment :: rest => (c :: segment) :: rest

/-- Reads segments behind a path that ends with a slash. -/
def enter (p : Path) : List (List Char) → Path
  | [] => p
  | segment :: rest =>
    let path : Path := ⟨Text.percentEncode keepsInPath segment, p.outer⟩
    enter (path.finish !rest.isEmpty) rest

/-- Reads the segments of a text, which may begin with a slash.  Characters that URLs ignore do not
count. -/
def parse (cs : List Char) : Path :=
  let cs := cs.filter (!isIgnored ·)
  enter root (segments (if cs.head?.any isSlash then cs.drop 1 else cs))

/-- The path that ends with a slash. -/
def asFolder (p : Path) : Path := if p.last.isEmpty then p else ⟨[], p.last :: p.outer⟩

/-- The path without an empty last segment, unless that is its only one. -/
def dropEmpty (p : Path) : Path :=
  match p.last, p.outer with
  | [], before :: rest => ⟨before, rest⟩
  | _, _ => p

/-- Adds a segment.  One that names the same or the outer folder is left out, and characters that
URLs ignore are dropped from it. -/
def add (p : Path) (segment : String) : Path :=
  if segment = "." ∨ segment = ".." then p
  else
    let opened := if p = root then p else ⟨[], p.last :: p.outer⟩
    let encoded := Text.percentEncode keepsInSegment (segment.toList.filter (!isIgnored ·))
    ({ opened with last := opened.last ++ encoded } : Path).finish false

/-- Adds segments behind a path that may end with a slash. -/
def addAll (p : Path) (segments : List String) : Path := segments.foldl add p.dropEmpty

end Path

end UplinkFlow.Url
