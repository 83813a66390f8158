import UplinkFlow.Json.Basic
import UplinkFlow.NodeId.Pattern

/-!
# Shifting the identifiers in a document

* `Json.mapStrings` — applies a partial function to every string value of a document and counts
  where it is defined; keys and all other values stay.
* `Json.shiftNodeIds` — shifts every identifier among the string values.
-/

set_option autoImplicit false

namespace UplinkFlow

namespace Json

mutual
/-- Replaces the string values on which `f` is defined, and counts them. -/
def mapStrings (f : String → Option String) : Json → Json × Nat
  | .null => (.null, 0)
  | .bool b => (.bool b, 0)
  | .num n => (.num n, 0)
  | .str s =>
    match f s with
    | some t => (.str t, 1)
    | none => (.str s, 0)
  | .arr items =>
    let (items, count) := mapStringItems f items
    (.arr items, count)
  | .obj members =>
    let (members, count) := mapStringMembers f members
    (.obj members, count)
def mapStringItems (f : String → Option String) : List Json → List Json × Nat
  | [] => ([], 0)
  | x :: xs =>
    let (x, first) := mapStrings f x
    let (xs, others) := mapStringItems f xs
    (x :: xs, first + others)
def mapStringMembers (f : String → Option String) :
    List (String × Json) → List (String × Json) × Nat
  | [] => ([], 0)
  | (k, v) :: ms =>
    let (v, first) := mapStrings f v
    let (ms, others) := mapStringMembers f ms
    ((k, v) :: ms, first + others)
end

/-- Shifts the identifiers in a document and counts them. -/
def shiftNodeIds (p : NodeIdPattern) (offset : Nat) (document : Json) : Json × Nat :=
  document.mapStrings (p.shift? offset)

end Json

end UplinkFlow
