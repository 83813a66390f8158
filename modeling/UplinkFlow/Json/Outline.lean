import UplinkFlow.Json.Token

/-!
# What a reader of JSON text meets

An `Outline` is a document as a reader meets it from left to right.  It keeps what the value of a
document no longer shows and what decides which fault is found first: repeated keys, the place
where the text breaks off, scalars without a value, and containers nested too deep.  Each of these
matters only once a reader looks at the place; one that skips a value passes over them, except for
a break.

* `Outline.ofText`, `Outline.ofBytes` — the outline of a text and of bytes, in one pass over their
  tokens.
* `Outline.ofJson` — the outline of a document, which has none of these faults.
* `Outline.toJson?` — the document, if no fault is met on the way.
-/

set_option autoImplicit false

namespace UplinkFlow

open Json (Token)

/-- A document as met in text.  A container is `whole` if its closing bracket is there, and `deep`
if it is nested deeper than a reader follows. -/
inductive Outline where
  | missing
  | unreadable
  | null
  | bool (b : Bool)
  | num (n : Number)
  | str (s : String)
  | arr (deep : Bool) (items : List Outline) (whole : Bool)
  | obj (deep : Bool) (members : List (Option String × Outline)) (whole : Bool)
deriving Inhabited

namespace Outline

/-- The number of nested containers that a reader follows. -/
def maxDepth : Nat := 127

/-- Whether the text breaks off in this value. -/
def isBroken : Outline → Bool
  | .missing => true
  | .arr _ _ whole | .obj _ _ whole => !whole
  | _ => false

/-- A container that is not closed yet, with its elements in reverse; `member` waits for the value
of its last key. -/
inductive Frame where
  | array (items : List Outline)
  | object (members : List (Option String × Outline))
  | member (members : List (Option String × Outline)) (key : Option String)

/-- What may come next in a text. -/
inductive Place where
  | value
  | firstItem
  | firstKey
  | key
  | colon
  | next
deriving DecidableEq

/-- How far a text has been read: inside the document, behind it, or behind something that follows
it; or the text broke off. -/
inductive Progress where
  | within (place : Place) (stack : List Frame)
  | complete (document : Outline)
  | exceeded (document : Outline)
  | broken (document : Outline)

/-- Whether a container inside the given ones is nested too deep. -/
def isDeep (stack : List Frame) : Bool := !(stack.drop (maxDepth - 1)).isEmpty

/-- A member with its value; behind a key that is not readable no value counts. -/
def member : Option String → Outline → Option String × Outline
  | some key, value => (some key, value)
  | none, _ => (none, .unreadable)

/-- Puts a finished value into the innermost container. -/
def place (value : Outline) : List Frame → Progress
  | [] => .complete value
  | .array items :: stack => .within .next (.array (value :: items) :: stack)
  | .member members key :: stack => .within .next (.object (member key value :: members) :: stack)
  | .object members :: stack => .within .next (.object ((none, value) :: members) :: stack)

/-- The document of a text that breaks off inside the given containers; `inner` is the innermost
unfinished value. -/
def breakOff (inner : Option Outline) : List Frame → Outline
  | [] => inner.getD .missing
  | .array items :: stack =>
    breakOff (some (.arr (isDeep stack) (items.reverse ++ inner.toList) false)) stack
  | .object members :: stack =>
    breakOff (some (.obj (isDeep stack) members.reverse false)) stack
  | .member members key :: stack =>
    let last := member key (inner.getD .missing)
    breakOff (some (.obj (isDeep stack) (members.reverse ++ [last]) false)) stack

/-- A scalar token as a value. -/
def ofScalar? : Token → Option Outline
  | .null => some .null
  | .bool b => some (.bool b)
  | .num value => some ((value.map Outline.num).getD .unreadable)
  | .str value => some ((value.map Outline.str).getD .unreadable)
  | _ => none

/-- Reads a token where a value must come. -/
def readValue (stack : List Frame) : Token → Progress
  | .openArray => .within .firstItem (.array [] :: stack)
  | .openObject => .within .firstKey (.object [] :: stack)
  | token =>
    match ofScalar? token with
    | some value => place value stack
    | none => .broken (breakOff none stack)

/-- What a reader sees of a value that begins where a key must come. -/
def ofStart? : Token → Option Outline
  | .openArray => some (.arr false [] false)
  | .openObject => some (.obj false [] false)
  | token => ofScalar? token

/-- Reads a token where a key must come.  Another value there stands for a member without a key,
and the text breaks off. -/
def readKey (stack : List Frame) (token : Token) : Progress :=
  match token, stack with
  | .str key, .object members :: rest => .within .colon (.member members key :: rest)
  | _, .object members :: rest =>
    let start := (ofStart? token).toList.map fun value => (none, value)
    .broken (breakOff none (.object (start ++ members) :: rest))
  | _, _ => .broken (breakOff none stack)

/-- Reads a token that closes a container or goes on in it. -/
def readNext (stack : List Frame) (token : Token) : Progress :=
  match token, stack with
  | .comma, .array _ :: _ => .within .value stack
  | .comma, .object _ :: _ => .within .key stack
  | .closeArray, .array items :: rest => place (.arr (isDeep rest) items.reverse true) rest
  | .closeObject, .object members :: rest => place (.obj (isDeep rest) members.reverse true) rest
  | _, _ => .broken (breakOff none stack)

def Progress.step (progress : Progress) (token : Token) : Progress :=
  match progress with
  | .within .value stack => readValue stack token
  | .within .firstItem stack =>
    match token with
    | .closeArray => readNext stack token
    | _ => readValue stack token
  | .within .firstKey stack =>
    match token with
    | .closeObject => readNext stack token
    | _ => readKey stack token
  | .within .key stack => readKey stack token
  | .within .colon stack =>
    match token with
    | .colon => .within .value stack
    | _ => .broken (breakOff none stack)
  | .within .next stack => readNext stack token
  | .complete document | .exceeded document => .exceeded document
  | .broken document => .broken document

/-- The document of a text, and whether nothing follows it. -/
structure Found where
  document : Outline
  alone : Bool

/-- What has been found at the end of the text. -/
def Progress.finish : Progress → Found
  | .within _ stack => ⟨breakOff none stack, true⟩
  | .complete document | .broken document => ⟨document, true⟩
  | .exceeded document => ⟨document, false⟩

/-- The outline of what the tokens stand for. -/
def ofTokens (tokens : List Token) : Found :=
  (tokens.foldl Progress.step (.within .value [])).finish

def ofText (s : String) : Found := ofTokens (Json.tokens s)

def ofBytes (bytes : List UInt8) : Found := ofTokens (Json.tokensOfBytes bytes)

mutual
def ofJson : Json → Outline
  | .null => .null
  | .bool b => .bool b
  | .num n => .num n
  | .str s => .str s
  | .arr items => .arr false (ofItems items) true
  | .obj members => .obj false (ofMembers members) true
def ofItems : List Json → List Outline
  | [] => []
  | x :: xs => ofJson x :: ofItems xs
def ofMembers : List (String × Json) → List (Option String × Outline)
  | [] => []
  | (k, v) :: ms => (some k, ofJson v) :: ofMembers ms
end

mutual
/-- The document, if it is whole and every part of it has a value. -/
def toJson? : Outline → Option Json
  | .missing | .unreadable => none
  | .null => some .null
  | .bool b => some (.bool b)
  | .num n => some (.num n)
  | .str s => some (.str s)
  | .arr deep items whole => if deep || !whole then none else (toItems? items).map .arr
  | .obj deep members whole => if deep || !whole then none else (toMembers? [] members).map .obj
/-- The elements of an array. -/
def toItems? : List Outline → Option (List Json)
  | [] => some []
  | x :: xs => (toJson? x).bind fun v => (toItems? xs).map (v :: ·)
/-- The members of an object behind those already read; a repeated key replaces the value in its
first place. -/
def toMembers? (before : Members) : List (Option String × Outline) → Option Members
  | [] => some before
  | (none, _) :: _ => none
  | (some k, v) :: ms => (toJson? v).bind fun value => toMembers? (before.insert k value) ms
end

end Outline

/-- The document that a text holds. -/
def Json.ofText? (s : String) : Option Json :=
  let found := Outline.ofText s
  if found.alone then found.document.toJson? else none

end UplinkFlow
