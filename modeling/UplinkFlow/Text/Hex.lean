import UplinkFlow.Text.Utf8

/-!
# Hexadecimal digits and bytes

* `hexDigits` — the lower-case hexadecimal digits of a number, padded with zeros to a width.
* `hexValue` — the number that a run of hexadecimal digits denotes.
* `bytesOfHex` — strict reading of two digits a byte, with the position of the first bad digit.
* `hexOfBytes` — two lower-case digits a byte.
-/

set_option autoImplicit false

namespace UplinkFlow.Text

/-- The value of a hexadecimal digit of either case. -/
def hexDigit? (c : Char) : Option Nat :=
  if '0' ≤ c ∧ c ≤ '9' then some (c.toNat - '0'.toNat)
  else if 'a' ≤ c ∧ c ≤ 'f' then some (c.toNat - 'a'.toNat + 10)
  else if 'A' ≤ c ∧ c ≤ 'F' then some (c.toNat - 'A'.toNat + 10)
  else none

def isHexDigit (c : Char) : Bool := (hexDigit? c).isSome

/-- The lower-case hexadecimal digit of a value below sixteen. -/
def hexDigitChar (d : Nat) : Char :=
  if d < 10 then Char.ofNat ('0'.toNat + d) else Char.ofNat ('a'.toNat + (d - 10))

/-- The hexadecimal digits of a number, the most significant first, without leading zeros. -/
def hexDigits (n : Nat) : List Char :=
  if n < 16 then [hexDigitChar n] else hexDigits (n / 16) ++ [hexDigitChar (n % 16)]
termination_by n
decreasing_by omega

/-- The hexadecimal digits of a number with leading zeros up to a width. -/
def hexPadded (width n : Nat) : List Char :=
  List.replicate (width - (hexDigits n).length) '0' ++ hexDigits n

/-- The number denoted by hexadecimal digits; other characters count as zero. -/
def hexValue (cs : List Char) : Nat := cs.foldl (fun acc c => acc * 16 + (hexDigit? c).getD 0) 0

/-- The two digits of a byte. -/
def byteDigits (b : UInt8) : List Char :=
  [hexDigitChar (b.toNat / 16), hexDigitChar (b.toNat % 16)]

def hexOfBytes (bytes : List UInt8) : String := String.ofList (bytes.flatMap byteDigits)

/-- Why a text is not the hexadecimal form of bytes. -/
inductive HexFault where
  | oddLength
  | invalidDigit (digit : UInt8) (position : Nat)
deriving DecidableEq, Repr

/-- Reads pairs of digits, where the first digit of the list stands at `position`. -/
def bytePairs (position : Nat) : List UInt8 → Except HexFault (List UInt8)
  | [] => .ok []
  | [_] => .error .oddLength
  | high :: low :: rest =>
    match hexDigit? (Char.ofNat high.toNat), hexDigit? (Char.ofNat low.toNat) with
    | none, _ => .error (.invalidDigit high position)
    | some _, none => .error (.invalidDigit low (position + 1))
    | some h, some l => do
      let bytes ← bytePairs (position + 2) rest
      pure (UInt8.ofNat (h * 16 + l) :: bytes)

/-- Reads the hexadecimal form of bytes; a text of odd length is refused before its digits are
looked at. -/
def bytesOfHex (s : String) : Except HexFault (List UInt8) :=
  let octets := utf8Bytes s
  if octets.length % 2 = 1 then .error .oddLength else bytePairs 0 octets

end UplinkFlow.Text
