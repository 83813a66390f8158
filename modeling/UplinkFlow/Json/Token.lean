import UplinkFlow.Json.Lexeme
import UplinkFlow.Text.Hex
import UplinkFlow.Text.Utf8

/-!
# The tokens of JSON text

`tokens` divides a text into brackets, separators, words, numbers and strings.  It goes over the
characters once, with a `Scan` that says what the characters read so far can still become.  A
number or string may follow the grammar and yet denote nothing: a number beyond the
double-precision range, or a string with half of a surrogate pair.  Such a token has no value.
Where the text stops being JSON, the list ends with `Token.invalid`.

`tokensOfBytes` divides bytes that need not be a text as a whole.  Bytes that are no character may
stand inside a string, which then has no value.
-/

set_option autoImplicit false

namespace UplinkFlow.Json

/-- One token. -/
inductive Token where
  | openArray
  | closeArray
  | openObject
  | closeObject
  | comma
  | colon
  | null
  | bool (b : Bool)
  | num (value : Option Number)
  | str (value : Option String)
  | invalid

/-- The part of a number's text that ends with the last character read. -/
inductive NumberPart where
  | sign
  | zero
  | whole
  | point
  | fraction
  | exponentMark
  | exponentSign
  | exponent
deriving DecidableEq

namespace NumberPart

/-- Whether the text read so far is a number. -/
def isComplete : NumberPart → Bool
  | .zero | .whole | .fraction | .exponent => true
  | .sign | .point | .exponentMark | .exponentSign => false

/-- The part that one more character belongs to, if it belongs to the number. -/
def next? (part : NumberPart) (c : Char) : Option NumberPart :=
  if Binary64.isDigit c then
    match part with
    | .sign => some (if c = '0' then .zero else .whole)
    | .zero => none
    | .whole => some .whole
    | .point | .fraction => some .fraction
    | .exponentMark | .exponentSign | .exponent => some .exponent
  else if c = '.' then
    match part with
    | .zero | .whole => some .point
    | _ => none
  else if c = 'e' ∨ c = 'E' then
    match part with
    | .zero | .whole | .fraction => some .exponentMark
    | _ => none
  else if c = '+' ∨ c = '-' then
    match part with
    | .exponentMark => some .exponentSign
    | _ => none
  else none

end NumberPart

/-- A piece of a string: a character, a 16-bit unit that is half of a surrogate pair, or bytes that
are no character. -/
inductive Piece where
  | char (c : Char)
  | half (unit : Nat)
  | stray

/-- The piece for an escaped 16-bit unit. -/
def Piece.ofUnit (unit : Nat) : Piece :=
  if 0xd800 ≤ unit ∧ unit < 0xe000 then .half unit else .char (Char.ofNat unit)

/-- The text of the pieces, where a high and a low half that follow each other are one character;
`none` if a half stands alone or bytes are no character. -/
def assemble : List Piece → Option (List Char)
  | [] => some []
  | .char c :: rest => (assemble rest).map (c :: ·)
  | .half high :: .half low :: rest =>
    if high < 0xdc00 ∧ 0xdc00 ≤ low then
      (assemble rest).map (Char.ofNat (0x10000 + (high - 0xd800) * 0x400 + (low - 0xdc00)) :: ·)
    else none
  | .half _ :: _ | .stray :: _ => none

/-- What the characters since the last token can become. -/
inductive Scan where
  | between
  | word (rest : List Char) (token : Token)
  | number (part : NumberPart) (reversed : List Char)
  | text (reversed : List Piece)
  | escape (reversed : List Piece)
  | unit (reversed : List Piece) (digits value : Nat)
  | stopped

/-- The character that a one-letter escape stands for. -/
def unescape? (c : Char) : Option Char :=
  if c = '"' ∨ c = '\\' ∨ c = '/' then some c
  else if c = 'b' then some '\x08'
  else if c = 'f' then some '\x0c'
  else if c = 'n' then some '\n'
  else if c = 'r' then some '\r'
  else if c = 't' then some '\t'
  else none

/-- The token of a string's pieces. -/
def Token.ofPieces (reversed : List Piece) : Token :=
  .str ((assemble reversed.reverse).map String.ofList)

/-- Whether a character may stand between tokens. -/
def isSpace (c : Char) : Bool := c == ' ' || c == '\n' || c == '\t' || c == '\r'

def Scan.start (c : Char) : Scan × List Token :=
  if isSpace c then (.between, [])
  else if c = '[' then (.between, [.openArray])
  else if c = ']' then (.between, [.closeArray])
  else if c = '\x7b' then (.between, [.openObject])
  else if c = '\x7d' then (.between, [.closeObject])
  else if c = ',' then (.between, [.comma])
  else if c = ':' then (.between, [.colon])
  else if c = '"' then (.text [], [])
  else if c = 'n' then (.word ['u', 'l', 'l'] .null, [])
  else if c = 't' then (.word ['r', 'u', 'e'] (.bool true), [])
  else if c = 'f' then (.word ['a', 'l', 's', 'e'] (.bool false), [])
  else if c = '-' then (.number .sign [c], [])
  else
    match NumberPart.sign.next? c with
    | some part => (.number part [c], [])
    | none => (.stopped, [.invalid])

def Scan.step (scan : Scan) (c : Char) : Scan × List Token :=
  match scan with
  | .between => Scan.start c
  | .word (w :: rest) token =>
    if c ≠ w then (.stopped, [.invalid])
    else if rest.isEmpty then (.between, [token])
    else (.word rest token, [])
  | .word [] _ => (.stopped, [.invalid])
  | .number part reversed =>
    match part.next? c with
    | some next => (.number next (c :: reversed), [])
    | none =>
      if part.isComplete && !(part == .zero && Binary64.isDigit c) then
        let (scan, more) := Scan.start c
        (scan, .num (Number.ofLexeme? reversed.reverse) :: more)
      else (.stopped, [.invalid])
  | .text reversed =>
    if c = '"' then (.between, [Token.ofPieces reversed])
    else if c = '\\' then (.escape reversed, [])
    else if c.toNat < 0x20 then (.stopped, [.invalid])
    else (.text (.char c :: reversed), [])
  | .escape reversed =>
    if c = 'u' then (.unit reversed 0 0, [])
    else
      match unescape? c with
      | some x => (.text (.char x :: reversed), [])
      | none => (.stopped, [.invalid])
  | .unit reversed digits value =>
    match Text.hexDigit? c with
    | none => (.stopped, [.invalid])
    | some d =>
      if digits = 3 then (.text (Piece.ofUnit (value * 16 + d) :: reversed), [])
      else (.unit reversed (digits + 1) (value * 16 + d), [])
  | .stopped => (.stopped, [])

/-- The token that the end of the text completes. -/
def Scan.finish : Scan → List Token
  | .between | .stopped => []
  | .number part reversed =>
    if part.isComplete then [.num (Number.ofLexeme? reversed.reverse)] else [.invalid]
  | _ => [.invalid]

/-- The tokens of the characters that follow. -/
def Scan.run (scan : Scan) : List Char → List Token
  | [] => scan.finish
  | c :: cs =>
    let (next, found) := scan.step c
    found ++ next.run cs

def tokens (s : String) : List Token := Scan.between.run s.toList

/-- Reads a character, or bytes that are none.  Only a string goes on behind these. -/
def Scan.read (scan : Scan) : Option Char → Scan × List Token
  | some c => scan.step c
  | none =>
    match scan with
    | .text reversed => (.text (.stray :: reversed), [])
    | scan => scan.step Text.replacement

/-- The tokens of what follows. -/
def Scan.readAll (scan : Scan) : List (Option Char) → List Token
  | [] => scan.finish
  | x :: xs =>
    let (next, found) := scan.read x
    found ++ next.readAll xs

def tokensOfBytes (bytes : List UInt8) : List Token := Scan.between.readAll (Text.symbols bytes)

end UplinkFlow.Json
