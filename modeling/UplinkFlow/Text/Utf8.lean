/-!
# UTF-8

* `utf8Bytes`, `ofUtf8?` — the bytes of a text, and the text of well-formed bytes.
* `symbols` — what any bytes are read as: characters, and places where there is none.  Such a place
  is each longest start of a character that cannot be completed, and each byte that starts none.
* `lossyUtf8` — the text of any bytes, with U+FFFD for each such place.
* `asciiText` — one character a byte, without regard to the highest bit.
-/

set_option autoImplicit false

namespace UplinkFlow.Text

def utf8Bytes (s : String) : List UInt8 := s.toUTF8.data.toList

/-- The text of well-formed bytes. -/
def ofUtf8? (bytes : List UInt8) : Option String := String.fromUTF8? ⟨bytes.toArray⟩

/-- What the bytes since the last character can become: `need` further bytes complete a character,
the next of them lies from `low` to `high`, and `value` collects the bits read so far. -/
inductive Utf8State where
  | between
  | within (need low high value : Nat)
deriving DecidableEq, Repr

/-- Reads the first byte of a character. -/
def Utf8State.start (b : Nat) : Utf8State × List (Option Char) :=
  if b < 0x80 then (.between, [some (Char.ofNat b)])
  else if 0xc2 ≤ b ∧ b ≤ 0xdf then (.within 1 0x80 0xbf (b - 0xc0), [])
  else if b = 0xe0 then (.within 2 0xa0 0xbf 0, [])
  else if b = 0xed then (.within 2 0x80 0x9f 0xd, [])
  else if 0xe1 ≤ b ∧ b ≤ 0xef then (.within 2 0x80 0xbf (b - 0xe0), [])
  else if b = 0xf0 then (.within 3 0x90 0xbf 0, [])
  else if 0xf1 ≤ b ∧ b ≤ 0xf3 then (.within 3 0x80 0xbf (b - 0xf0), [])
  else if b = 0xf4 then (.within 3 0x80 0x8f 4, [])
  else (.between, [none])

/-- Reads one byte. -/
def Utf8State.step (state : Utf8State) (b : Nat) : Utf8State × List (Option Char) :=
  match state with
  | .between => Utf8State.start b
  | .within need low high value =>
    if low ≤ b ∧ b ≤ high then
      let value := value * 64 + (b - 0x80)
      if need ≤ 1 then (.between, [some (Char.ofNat value)])
      else (.within (need - 1) 0x80 0xbf value, [])
    else
      let (next, found) := Utf8State.start b
      (next, none :: found)

/-- What the bytes that follow are read as. -/
def Utf8State.run (state : Utf8State) : List UInt8 → List (Option Char)
  | [] =>
    match state with
    | .between => []
    | .within .. => [none]
  | b :: bytes =>
    let (next, found) := state.step b.toNat
    found ++ next.run bytes

/-- The characters of any bytes; `none` stands for bytes that are no character. -/
def symbols (bytes : List UInt8) : List (Option Char) := Utf8State.between.run bytes

/-- The character that stands for bytes that are none. -/
def replacement : Char := '\ufffd'

/-- The text of any bytes. -/
def lossyUtf8 (bytes : List UInt8) : String :=
  String.ofList ((symbols bytes).map (·.getD replacement))

/-- The text with the character of the seven lower bits of each byte. -/
def asciiText (bytes : List UInt8) : String :=
  String.ofList (bytes.map fun b => Char.ofNat (b.toNat % 128))

end UplinkFlow.Text
