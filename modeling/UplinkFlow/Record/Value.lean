import UplinkFlow.Json.Basic
import UplinkFlow.Layout.Basic
import UplinkFlow.Text.Utf8

/-!
# Values in a payload

* `window?` — the bytes of a payload between two offsets, if the payload reaches that far.
* `littleEndian` — whole numbers whose least byte comes first.
* `signExtend` — integers in two's complement, from the lower bytes of a word.
* `Field.valueOf`, `Field.read` — the value of a field's bytes, and of a field in a payload: `none`
  for a field that no reading is known for, an error for one that lies outside the payload.
-/

set_option autoImplicit false

namespace UplinkFlow

/-- The bytes of a received message. -/
abbrev Payload := List UInt8

/-- The `width` bytes from an offset on. -/
def window? (payload : Payload) (offset width : Nat) : Option (List UInt8) :=
  if offsetAfter offset width ≤ payload.length then some ((payload.drop offset).take width)
  else none

/-- The number whose bytes are given, the least first. -/
def littleEndian : List UInt8 → Nat
  | [] => 0
  | b :: rest => b.toNat + 256 * littleEndian rest

/-- The integer whose two's complement is in the lower bytes of a word: the word is shifted up until
the sign is its highest bit, and back with copies of the sign. -/
def signExtend (width : Nat) (word : UInt64) : Int64 :=
  let shift := 64 - 8 * width
  .ofBitVec ((word.toBitVec <<< shift).sshiftRight shift)

/-- The number of bytes that a field takes; `none` for a field that is skipped. -/
def Field.width? (f : Field) : Option Nat :=
  match f.kind with
  | .int | .uint =>
    if (1 ≤ f.length ∧ f.length ≤ 6) ∨ f.length = 8 then some f.length.toNat else none
  | .float => some (if f.length = 2 then 2 else if f.length = 4 then 4 else 8)
  | .asciiText | .unicodeText => some f.length.toNat
  | .unknown _ => none

/-- The value that the bytes of a field denote. -/
def Field.valueOf (f : Field) (bytes : List UInt8) : Json :=
  match f.kind with
  | .int =>
    .num (Number.ofInt64 (signExtend f.length.toNat (UInt64.ofNat (littleEndian bytes))))
  | .uint => .num (Number.ofWord (UInt64.ofNat (littleEndian bytes)))
  | .float =>
    if f.length = 2 then
      Json.ofBinary64 (Binary64.ofSingle (singleOfHalf (UInt16.ofNat (littleEndian bytes))))
    else if f.length = 4 then
      Json.ofBinary64 (Binary64.ofSingle (UInt32.ofNat (littleEndian bytes)))
    else Json.ofBinary64 ⟨UInt64.ofNat (littleEndian bytes)⟩
  | .asciiText => .str (Text.asciiText bytes)
  | .unicodeText => .str (Text.lossyUtf8 bytes)
  | .unknown _ => .null

/-- A field that reaches beyond the end of the payload. -/
structure OutOfBounds where
  field : String
  offset : Nat
  stop : Nat
  size : Nat
deriving DecidableEq, Repr

def Field.read (f : Field) (payload : Payload) : Except OutOfBounds (Option Json) :=
  match f.width? with
  | none => .ok none
  | some width =>
    match window? payload f.offset.toNat width with
    | some bytes => .ok (some (f.valueOf bytes))
    | none =>
      .error ⟨f.name, f.offset.toNat, offsetAfter f.offset.toNat width, payload.length⟩

end UplinkFlow
