import UplinkFlow.Text.Blank
import UplinkFlow.Text.Decimal
import UplinkFlow.Text.Hex
import UplinkFlow.Text.Quoted

/-!
# Node identifiers

An identifier that the engine assigns is a stem, a dot and a suffix of hexadecimal digits, where
the stem and the whole have fixed lengths in bytes.

* `NodeIdPattern` — which lengths occur; `legacy` takes everything that `fixed` takes.
* `NodeIdPattern.split?` — the stem and the suffix of an identifier, divided at the first dot.
* `NodeIdPattern.shift?` — the identifier whose suffix is larger by an offset.
-/

set_option autoImplicit false

namespace UplinkFlow

/-- The lengths of identifiers: a stem of seven or eight bytes in fourteen or fifteen, or a stem of
eight in fifteen. -/
inductive NodeIdPattern where
  | legacy
  | fixed
deriving DecidableEq, Repr

namespace NodeIdPattern

/-- Whether identifiers of the pattern can have a stem and a total length of so many bytes. -/
def admits : NodeIdPattern → Nat → Nat → Bool
  | .legacy, stem, total => (stem == 7 || stem == 8) && (total == 14 || total == 15)
  | .fixed, stem, total => stem == 8 && total == 15

/-- The number of bytes that characters take in UTF-8. -/
def byteLength : List Char → Nat
  | [] => 0
  | c :: cs => c.utf8Size + byteLength cs

/-- The stem and the suffix of an identifier. -/
def split? (p : NodeIdPattern) (s : String) : Option (List Char × List Char) :=
  let stem := s.toList.takeWhile (· != '.')
  match s.toList.dropWhile (· != '.') with
  | '.' :: suffix =>
    if p.admits (byteLength stem) (byteLength s.toList) && !suffix.isEmpty &&
        suffix.all Text.isHexDigit then some (stem, suffix)
    else none
  | _ => none

/-- Whether a text is an identifier of the pattern. -/
def isMatch (p : NodeIdPattern) (s : String) : Bool := (p.split? s).isSome

/-- Adds an offset to the suffix and keeps at least its width.  There is no result for a text that
is no identifier, and none beyond 64 bits. -/
def shift? (p : NodeIdPattern) (offset : Nat) (s : String) : Option String :=
  (p.split? s).bind fun (stem, suffix) =>
    let value := Text.hexValue suffix + offset
    if value ≤ Text.maxWord then some (String.ofList (stem ++ '.' :: Text.hexPadded suffix.length value))
    else none

def name : NodeIdPattern → String
  | .legacy => "legacy"
  | .fixed => "fixed"

/-- A text that names no pattern. -/
structure UnknownName where
  text : String
deriving DecidableEq, Repr

def UnknownName.message (u : UnknownName) : String :=
  "unknown id pattern " ++ Text.quoted u.text ++ " (expected \"legacy\" or \"fixed\")"

/-- The pattern that a name denotes, without regard to case and to blanks around it. -/
def ofName (s : String) : Except UnknownName NodeIdPattern :=
  let name := Text.lowerAscii (Text.trim s)
  if name = "legacy" then .ok .legacy
  else if name = "fixed" then .ok .fixed
  else .error ⟨name⟩

end NodeIdPattern

end UplinkFlow
