import UplinkFlow.Text.Decimal
import UplinkFlow.Text.Hex
import UplinkFlow.Text.Plain

/-!
# Quoted text in messages

`quoted` writes a text between double quotes so that every character can be told from the message
around it: quote and backslash are escaped, four control characters have names, and characters
that would not show are written as `\u{…}` with their code point.  `quotedChar` does the same for
one character between single quotes.
-/

set_option autoImplicit false

namespace UplinkFlow.Text

/-- One character as it stands between the quotes `quote`. -/
def escapeChar (quote c : Char) : List Char :=
  if c = '\x00' then ['\\', '0']
  else if c = '\t' then ['\\', 't']
  else if c = '\n' then ['\\', 'n']
  else if c = '\r' then ['\\', 'r']
  else if c = '\\' ∨ c = quote then ['\\', c]
  else if isPlain c then [c]
  else ['\\', 'u', '\x7b'] ++ hexDigits c.toNat ++ ['\x7d']

/-- A text between double quotes. -/
def quoted (s : String) : String :=
  String.ofList ('"' :: s.toList.flatMap (escapeChar '"') ++ ['"'])

/-- A character between single quotes. -/
def quotedChar (c : Char) : String := String.ofList ('\'' :: escapeChar '\'' c ++ ['\''])

/-- The wording of a hexadecimal fault; a byte that is no digit is shown as the character of the
same number. -/
def HexFault.message : HexFault → String
  | .oddLength => "Odd number of digits"
  | .invalidDigit b position =>
    "Invalid character " ++ quotedChar (Char.ofNat b.toNat) ++ " at position " ++ decimal position

end UplinkFlow.Text
