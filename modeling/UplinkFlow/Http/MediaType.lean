import UplinkFlow.Text.Blank

/-!
# Media types

A media type is a type, a subtype that may end with a suffix behind a plus sign, and parameters.

* `MediaType.ofText?` — reads a media type without regard to case.
* `MediaType.isJson` — whether it stands for JSON.
-/

set_option autoImplicit false

namespace UplinkFlow.Http

/-- The parts of a media type in lower case. -/
structure MediaType where
  kind : String
  subtype : String
  suffix : Option String
deriving DecidableEq, Repr

namespace MediaType

/-- Whether a character may be part of a token. -/
def isToken (c : Char) : Bool := c.isAlphanum || "!#$%&'*+-.^_`|~".toList.contains c

/-- Whether a character may stand between quotes. -/
def isQuotable (c : Char) : Bool := ' ' ≤ c && c < '\x7f'

/-- What comes next in the parameters. -/
inductive ParameterState where
  | start
  | name
  | valueStart
  | value
  | quotedStart
  | quoted
  | afterQuoted
deriving DecidableEq, Repr

/-- Reads one character of the parameters. -/
def ParameterState.step (state : ParameterState) (c : Char) : Option ParameterState :=
  match state with
  | .start => if c = ' ' then some .start else if isToken c then some .name else none
  | .name => if c = '=' then some .valueStart else if isToken c then some .name else none
  | .valueStart => if c = '"' then some .quotedStart else if isToken c then some .value else none
  | .value => if c = ';' then some .start else if isToken c then some .value else none
  | .quotedStart => if isQuotable c then some .quoted else none
  | .quoted => if c = '"' then some .afterQuoted else if isQuotable c then some .quoted else none
  | .afterQuoted =>
    if c = ';' then some .start else if c = ' ' then some .afterQuoted else none

/-- Whether the parameters may end here. -/
def ParameterState.isFinal : ParameterState → Bool
  | .start | .valueStart | .value | .afterQuoted => true
  | _ => false

/-- Whether the text behind the first semicolon is a list of parameters. -/
def areParameters (cs : List Char) : Bool :=
  match cs.foldlM ParameterState.step .start with
  | some state => state.isFinal
  | none => false

/-- Divides a subtype at its last plus sign, which is not its first character. -/
def splitSuffix (cs : List Char) : List Char × Option (List Char) :=
  let suffix := (cs.reverse.takeWhile (· != '+')).reverse
  if suffix.length + 1 < cs.length then (cs.take (cs.length - suffix.length - 1), some suffix)
  else (cs, none)

def ofText? (s : String) : Option MediaType :=
  let cs := (Text.lowerAscii s).toList
  let kind := cs.takeWhile isToken
  match cs.drop kind.length with
  | '/' :: rest =>
    let whole := rest.takeWhile isToken
    let parameters := rest.drop whole.length
    let fits := match parameters with
      | [] => true
      | ';' :: parameters => !whole.isEmpty && areParameters parameters
      | _ => false
    if kind.isEmpty || !fits then none
    else
      let (subtype, suffix) := splitSuffix whole
      some ⟨String.ofList kind, String.ofList subtype, suffix.map String.ofList⟩
  | _ => none

/-- Whether a media type stands for JSON. -/
def isJson (m : MediaType) : Bool :=
  m.kind == "application" && (m.subtype == "json" || m.suffix == some "json")

end MediaType

end UplinkFlow.Http
