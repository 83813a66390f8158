import UplinkFlow.Binary64.Shortest
import UplinkFlow.Json.Basic
import UplinkFlow.Json.Literal

/-!
# Writing documents

* `compact` — a document without any blank.
* `pretty` — a document with one element or member a line, indented by two spaces a level; an
  empty array or object stays on its line.
-/

set_option autoImplicit false

namespace UplinkFlow

def Number.chars : Number → List Char
  | .whole n _ => if n < 0 then '-' :: Text.digits n.natAbs else Text.digits n.natAbs
  | .real x _ => x.render

namespace Json

/-- The word for a truth value. -/
def boolChars (b : Bool) : List Char := if b then "true".toList else "false".toList

mutual
/-- The characters of a document. -/
def compactChars : Json → List Char
  | .null => "null".toList
  | .bool b => boolChars b
  | .num n => n.chars
  | .str s => literal s
  | .arr [] => ['[', ']']
  | .arr (x :: xs) => '[' :: (compactChars x ++ compactItems xs)
  | .obj [] => ['\x7b', '\x7d']
  | .obj ((k, v) :: ms) => '\x7b' :: (literal k ++ ':' :: (compactChars v ++ compactMembers ms))
/-- The elements after the first, and the closing bracket. -/
def compactItems : List Json → List Char
  | [] => [']']
  | x :: xs => ',' :: (compactChars x ++ compactItems xs)
/-- The members after the first, and the closing brace. -/
def compactMembers : List (String × Json) → List Char
  | [] => ['\x7d']
  | (k, v) :: ms => ',' :: (literal k ++ ':' :: (compactChars v ++ compactMembers ms))
end

/-- A line end and the indentation of a level. -/
def newline (level : Nat) : List Char := '\n' :: List.replicate (2 * level) ' '

mutual
/-- The characters of a document whose first line is already indented to `level`. -/
def prettyChars (level : Nat) : Json → List Char
  | .null => "null".toList
  | .bool b => boolChars b
  | .num n => n.chars
  | .str s => literal s
  | .arr [] => ['[', ']']
  | .arr (x :: xs) =>
    '[' :: (newline (level + 1) ++ prettyChars (level + 1) x ++ prettyItems level xs)
  | .obj [] => ['\x7b', '\x7d']
  | .obj ((k, v) :: ms) =>
    '\x7b' :: (newline (level + 1) ++ literal k ++ [':', ' '] ++ prettyChars (level + 1) v ++
      prettyMembers level ms)
/-- The elements after the first, and the closing bracket. -/
def prettyItems (level : Nat) : List Json → List Char
  | [] => newline level ++ [']']
  | x :: xs => ',' :: (newline (level + 1) ++ prettyChars (level + 1) x ++ prettyItems level xs)
/-- The members after the first, and the closing brace. -/
def prettyMembers (level : Nat) : List (String × Json) → List Char
  | [] => newline level ++ ['\x7d']
  | (k, v) :: ms =>
    ',' :: (newline (level + 1) ++ literal k ++ [':', ' '] ++ prettyChars (level + 1) v ++
      prettyMembers level ms)
end

/-- The document in one line. -/
def compact (j : Json) : String := String.ofList j.compactChars

/-- The document over several lines. -/
def pretty (j : Json) : String := String.ofList (j.prettyChars 0)

end Json

end UplinkFlow
