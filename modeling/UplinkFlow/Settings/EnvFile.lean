import UplinkFlow.Text.Alphanumeric
import UplinkFlow.Text.Blank

/-!
# Files of variables

A file of variables has one assignment `NAME=value` a line; the word `export` may stand before it.
A value may be quoted, may go on over several lines inside quotes, and may refer to other variables
with a dollar sign; a comment begins with `#`.

* `assign?` — the assignment of one line.
* `assignments` — the assignments of a file up to the first line that is none.
-/

set_option autoImplicit false

namespace UplinkFlow.EnvFile

open Text (isBlank)

/-- Variables with their values, the latest first. -/
abbrev Variables := List (String × String)

/-! ## Lines -/

/-- What the characters of a line so far leave open. -/
inductive LineState where
  | complete
  | blank
  | escaped
  | strong
  | strongEscaped
  | weak
  | weakEscaped
  | comment
deriving DecidableEq, Repr

/-- Reads one character of a line that is not a comment. -/
def LineState.step (state : LineState) (c : Char) : LineState :=
  let opened : LineState :=
    if c = '\\' then .escaped
    else if c = '"' then .weak
    else if c = '\'' then .strong
    else .complete
  match state with
  | .blank => if c = '#' then .comment else opened
  | .escaped => .complete
  | .complete => if isBlank c && c != '\n' && c != '\r' then .blank else opened
  | .weak => if c = '\\' then .weakEscaped else if c = '"' then .complete else .weak
  | .weakEscaped => .weak
  | .strong => if c = '\\' then .strongEscaped else if c = '\'' then .complete else .strong
  | .strongEscaped => .strong
  | .comment => .comment

/-- The characters before a comment, and what they leave open. -/
def readLine (state : LineState) : List Char → List Char × LineState
  | [] => ([], state)
  | c :: cs =>
    let next := state.step c
    if next = .comment then ([], .comment)
    else
      let (kept, final) := readLine next cs
      (c :: kept, final)

/-- The physical lines of a text, each with its line end. -/
def physicalLines : List Char → List (List Char)
  | [] => []
  | c :: cs =>
    if c = '\n' then [c] :: physicalLines cs
    else
      match physicalLines cs with
      | line :: rest => (c :: line) :: rest
      | [] => [[c]]

/-- A line without its line end. -/
def withoutEnd (line : List Char) : List Char :=
  match line.reverse with
  | '\n' :: '\r' :: rest => rest.reverse
  | '\n' :: rest => rest.reverse
  | _ => line

/-- Joins the physical lines that belong together; `none` stands for a line that stays open to the
end of the file. -/
def logicalLines (before : List Char) (state : LineState) :
    List (List Char) → List (Option (List Char))
  | [] => if state = .complete then [] else [none]
  | line :: rest =>
    let whole := before ++ line
    if (whole.dropWhile isBlank).head? = some '#' then
      some [] :: logicalLines [] .complete rest
    else
      let (kept, final) := readLine state line
      match final with
      | .complete => some (withoutEnd whole) :: logicalLines [] .complete rest
      | .comment => some (before ++ kept) :: logicalLines [] .complete rest
      | _ => logicalLines whole final rest

/-! ## Values -/

/-- The reference to a variable that is being read. -/
inductive Reference where
  | none
  | plain (name : List Char)
  | braced (name : List Char)
deriving DecidableEq, Repr

/-- The state of reading a value; the output is in reverse. -/
structure ValueState where
  strong : Bool
  weak : Bool
  escaped : Bool
  ending : Bool
  reference : Reference
  output : List Char
deriving DecidableEq, Repr

/-- Writes the value of a variable behind an output; without a value nothing is written. -/
def ValueState.refer (st : ValueState) (known : String → Option String) (name : List Char) :
    List Char :=
  ((known (String.ofList name.reverse)).getD "").toList.reverseAux st.output

/-- Whether a character can be part of a variable's name in a reference. -/
def isNameChar (c : Char) : Bool := Text.isAlphanumeric c

/-- Reads one character of a value; `none` for one that must not stand there. -/
def ValueState.step (known : String → Option String) (st : ValueState) (c : Char) :
    Option ValueState :=
  let push (x : Char) : ValueState := { st with output := x :: st.output }
  if st.ending then if c = ' ' ∨ c = '\t' then some st else none
  else if st.escaped then
    if ['\\', '\'', '"', '$', ' '].contains c then some { push c with escaped := false }
    else if c = 'n' then some { push '\n' with escaped := false }
    else none
  else if st.strong then
    if c = '\'' then some { st with strong := false } else some (push c)
  else
    match st.reference with
    | .plain name =>
      if isNameChar c then some { st with reference := .plain (c :: name) }
      else if c = '\x7b' ∧ name = [] then some { st with reference := .braced [] }
      else
        let output := st.refer known name
        if c = '$' then some { st with output := output, reference := .plain [] }
        else some { st with output := c :: output, reference := .none }
    | .braced name =>
      if c = '\x7d' then
        some { st with output := st.refer known name, reference := .none }
      else some { st with reference := .braced (c :: name) }
    | .none =>
      if c = '$' then some { st with reference := .plain [] }
      else if st.weak then
        if c = '"' then some { st with weak := false }
        else if c = '\\' then some { st with escaped := true }
        else some (push c)
      else if c = '\'' then some { st with strong := true }
      else if c = '"' then some { st with weak := true }
      else if c = '\\' then some { st with escaped := true }
      else if c = ' ' ∨ c = '\t' then some { st with ending := true }
      else some (push c)

/-- Reads the characters of a value up to a comment behind it. -/
def readValue (known : String → Option String) (st : ValueState) :
    List Char → Option ValueState
  | [] => some st
  | c :: cs =>
    if st.ending ∧ c = '#' then some st
    else (st.step known c).bind fun next => readValue known next cs

/-- The value that a text denotes. -/
def value? (known : String → Option String) (cs : List Char) : Option String :=
  (readValue known ⟨false, false, false, false, .none, []⟩ cs).bind fun st =>
    match st.reference with
    | .braced _ => none
    | .plain name =>
      if st.strong || st.weak then none
      else some (String.ofList (st.refer known name).reverse)
    | .none => if st.strong || st.weak then none else some (String.ofList st.output.reverse)

/-! ## Assignments -/

/-- Whether a character can be part of the name that a line assigns to. -/
def isKeyChar (c : Char) : Bool := c.isAlphanum || c == '_' || c == '.'

/-- The name at the front of a text. -/
def splitKey? (cs : List Char) : Option (String × List Char) :=
  match cs with
  | [] => none
  | c :: _ =>
    if c.isAlpha || c == '_' then
      some (String.ofList (cs.takeWhile isKeyChar), (cs.dropWhile isKeyChar).dropWhile isBlank)
    else none

/-- The name that a line assigns to, and the text of the value. -/
def splitAssignment? (cs : List Char) : Option (String × List Char) := do
  let (key, rest) ← splitKey? cs
  match rest with
  | '=' :: value => some (key, value.dropWhile isBlank)
  | _ =>
    if key = "export" then do
      let (key, rest) ← splitKey? rest
      match rest with
      | '=' :: value => some (key, value.dropWhile isBlank)
      | _ => none
    else none

/-- The assignment of a line: `none` for a line that is none, `some none` for an empty one. -/
def assign? (known : String → Option String) (line : List Char) :
    Option (Option (String × String)) :=
  let cs := Text.trimChars line
  if cs.isEmpty || cs.head? == some '#' then some none
  else do
    let (key, rest) ← splitAssignment? cs
    if rest.isEmpty || rest.head? == some '#' then some (some (key, ""))
    else
      let value ← value? known rest
      some (some (key, value))

/-- The value of a variable. -/
def Variables.get? (set : Variables) (name : String) : Option String := List.lookup name set

/-- Adds the assignments of lines to variables, up to the first line that is none.  A variable that
is set already keeps its value, also for references. -/
def assignLines (set : Variables) : List (Option (List Char)) → Variables
  | [] => set
  | none :: _ => set
  | some line :: rest =>
    match assign? set.get? line with
    | none => set
    | some none => assignLines set rest
    | some (some (key, value)) =>
      assignLines (if (set.get? key).isSome then set else (key, value) :: set) rest

/-- The variables after a file has been read. -/
def assignments (set : Variables) (text : String) : Variables :=
  let cs := match text.toList with
    | '\ufeff' :: cs => cs
    | cs => cs
  assignLines set (logicalLines [] .complete (physicalLines cs))

end UplinkFlow.EnvFile
