import UplinkFlow.Text.Hex

/-!
# String literals

`literal` writes a text between double quotes: the quote, the backslash and five control
characters are escaped by name, the other control characters below the space by their number in
four digits, and every other character stands for itself.  Such a literal means the same text in a
JSON document and in a script.
-/

set_option autoImplicit false

namespace UplinkFlow.Json

/-- One character inside a literal. -/
def escape (c : Char) : List Char :=
  if c = '"' then ['\\', '"']
  else if c = '\\' then ['\\', '\\']
  else if c = '\x08' then ['\\', 'b']
  else if c = '\x0c' then ['\\', 'f']
  else if c = '\n' then ['\\', 'n']
  else if c = '\r' then ['\\', 'r']
  else if c = '\t' then ['\\', 't']
  else if c.toNat < 0x20 then ['\\', 'u'] ++ Text.hexPadded 4 c.toNat
  else [c]

/-- The literal of a text. -/
def literal (s : String) : List Char := '"' :: (s.toList.flatMap escape ++ ['"'])

end UplinkFlow.Json
