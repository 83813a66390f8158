import UplinkFlow.Text.Hex
import UplinkFlow.Text.Utf8

/-!
# Percent-encoding

* `percentEncode` — writes the bytes of every character that may not stand for itself as a percent
  sign and two upper-case digits.
* `percentDecode` — reads such triples back; a percent sign without two digits stands for itself.
-/

set_option autoImplicit false

namespace UplinkFlow.Text

/-- The upper-case hexadecimal digit of a value below sixteen. -/
def upperHexDigit (d : Nat) : Char := (hexDigitChar d).toUpper

/-- The triple of a byte. -/
def percentByte (b : UInt8) : List Char :=
  ['%', upperHexDigit (b.toNat / 16), upperHexDigit (b.toNat % 16)]

/-- A character as itself if `keep` holds of it, else as its bytes. -/
def percentChar (keep : Char → Bool) (c : Char) : List Char :=
  if keep c then [c] else (String.utf8EncodeChar c).flatMap percentByte

/-- Encodes the characters of which `keep` does not hold. -/
def percentEncode (keep : Char → Bool) (cs : List Char) : List Char :=
  cs.flatMap (percentChar keep)

/-- Reads triples as bytes. -/
def percentDecode : List UInt8 → List UInt8
  | 37 :: high :: low :: rest =>
    match hexDigit? (Char.ofNat high.toNat), hexDigit? (Char.ofNat low.toNat) with
    | some h, some l => UInt8.ofNat (h * 16 + l) :: percentDecode rest
    | _, _ => 37 :: percentDecode (high :: low :: rest)
  | b :: rest => b :: percentDecode rest
  | [] => []

end UplinkFlow.Text
