/-!
# Characters of URLs

The parts of a URL differ in the characters that they write as themselves.  Each predicate holds of
the characters that a part keeps; all others are percent-encoded.

* `keepsInFragment`, `keepsInQuery`, `keepsInPath`, `keepsInCredentials` — the parts of a URL.
* `keepsInSegment` — one segment of a path that must come back as it is.
-/

set_option autoImplicit false

namespace UplinkFlow.Url

/-- The printable ASCII characters and the space. -/
def isPrintableAscii (c : Char) : Bool := 0x20 ≤ c.toNat && c.toNat < 0x7f

/-- Kept in a fragment. -/
def keepsInFragment (c : Char) : Bool := isPrintableAscii c && !(" \"<>`".toList.contains c)

/-- Kept in a query. -/
def keepsInQuery (c : Char) : Bool := isPrintableAscii c && !(" \"#<>'".toList.contains c)

/-- Kept in a path. -/
def keepsInPath (c : Char) : Bool := keepsInFragment c && !("#?\x7b\x7d".toList.contains c)

/-- Kept in a user name and password. -/
def keepsInCredentials (c : Char) : Bool := keepsInPath c && !("/:;=@[\\]^|".toList.contains c)

/-- Kept in a segment that is added to a path. -/
def keepsInSegment (c : Char) : Bool := keepsInPath c && !("/%\\".toList.contains c)

/-- The characters that are dropped wherever they stand. -/
def isIgnored (c : Char) : Bool := c == '\t' || c == '\n' || c == '\r'

/-- The characters that separate segments. -/
def isSlash (c : Char) : Bool := c == '/' || c == '\\'

end UplinkFlow.Url
