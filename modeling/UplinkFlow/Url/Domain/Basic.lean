import UplinkFlow.Text.Percent
import UplinkFlow.Url.Domain.Direction
import UplinkFlow.Url.Domain.Joining
import UplinkFlow.Url.Domain.Mapping
import UplinkFlow.Url.Punycode

/-!
# Domain names

A name is written in ASCII; a label with other characters has its ASCII form behind the mark `xn--`.

* `readLabel?` — the label that a part of a name denotes.
* `readDomain?` — the name that a text denotes after percent-decoding.
-/

set_option autoImplicit false

namespace UplinkFlow.Url

/-- The ASCII characters that no name has. -/
def isForbidden (c : Char) : Bool :=
  c.toNat ≤ 0x20 || c.toNat == 0x7f || "%#/:<>?@[\\]^|".toList.contains c

def isAscii (c : Char) : Bool := c.toNat < 0x80

/-- The mark of an ASCII form. -/
def formMark : List Char := "xn--".toList

/-- The longest label that has an ASCII form, and the longest ASCII form that is read. -/
def labelLimits : Nat × Nat := (1000, 2000)

/-- Whether characters make up a label: the first is no mark and joiners are in their places. -/
def isLabel (cs : List Char) : Bool :=
  !cs.head?.any isMark && joinersInPlace cs && cs.length ≤ labelLimits.1

/-- The label of an ASCII form without its mark.  Only a label that needs the form has it. -/
def readForm? (form : List Char) : Option (List Char) := do
  if !form.all isAscii || form.getLast? == some '-' || labelLimits.2 < form.length then none
  let label ← ofPunycode? form
  if label.all isAscii || !label.all isNameChar || composed label != label ||
      formMark.isPrefixOf label || !isLabel label then none
  else some label

/-- The label that a part of a name denotes. -/
def readLabel? (part : List Char) : Option (List Char) :=
  if formMark.isPrefixOf part then readForm? (part.drop formMark.length)
  else if part.all isAscii || isLabel part then some part
  else none

/-- The ASCII form of a label. -/
def labelText (label : List Char) : List Char :=
  if label.all isAscii then label else formMark ++ punycode label

/-- The ASCII form of the name that a text denotes. -/
def readDomain? (cs : List Char) : Option (List Char) := do
  let decoded ← Text.ofUtf8? (Text.percentDecode (Text.utf8Bytes (String.ofList cs)))
  let mapped ← decoded.toList.mapM mapChar?
  let name := composed mapped.flatten
  if name.any isForbidden then none
  let labels ← (Text.partsAt '.' name).mapM readLabel?
  if labels.any isBidirectional && !labels.all hasDirection then none
  else some (['.'].intercalate (labels.map labelText))

end UplinkFlow.Url
