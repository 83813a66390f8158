/-!
# Payload layouts

A `Layout` says how the bytes of a payload divide into fields, where the time of a measurement
comes from, and under which name measurements are stored.

* `FieldKind`, `Field` — the type and the place of one value; `Field.stop` is the offset behind it.
* `TimestampFormat.unitNanos?` — the number of nanoseconds that one unit of an epoch format stands
  for.
-/

set_option autoImplicit false

namespace UplinkFlow

/-- The type of a field; a type that no reading is known for keeps its name. -/
inductive FieldKind where
  | int
  | uint
  | float
  | asciiText
  | unicodeText
  | unknown (name : String)
deriving DecidableEq, Repr

namespace FieldKind

def ofName (name : String) : FieldKind :=
  if name = "int" then .int
  else if name = "uint" then .uint
  else if name = "float" then .float
  else if name = "string" ∨ name = "string_ascii" then .asciiText
  else if name = "string_unicode" then .unicodeText
  else .unknown name

def name : FieldKind → String
  | .int => "int"
  | .uint => "uint"
  | .float => "float"
  | .asciiText => "string_ascii"
  | .unicodeText => "string_unicode"
  | .unknown name => name

/-- Whether values of the type can be read. -/
def isKnown : FieldKind → Bool
  | .unknown _ => false
  | _ => true

end FieldKind

/-- A named value at a place in the payload. -/
structure Field where
  name : String
  kind : FieldKind
  offset : UInt64
  length : UInt64
deriving DecidableEq, Repr

/-- The offset `width` bytes behind another, or the largest offset if there is no such. -/
def offsetAfter (offset width : Nat) : Nat := min (offset + width) 0xFFFFFFFFFFFFFFFF

/-- The offset behind a field. -/
def Field.stop (f : Field) : Nat := offsetAfter f.offset.toNat f.length.toNat

/-- Where the time of a measurement comes from. -/
inductive TimeOrigin where
  | network
  | device
deriving DecidableEq, Repr

/-- How a device writes its time. -/
inductive TimestampFormat where
  | epochNanos
  | epochMillis
  | epochSeconds
  | calendar
deriving DecidableEq, Repr

/-- The nanoseconds of one unit; a calendar time counts no units. -/
def TimestampFormat.unitNanos? : TimestampFormat → Option Nat
  | .epochNanos => some 1
  | .epochMillis => some 1000000
  | .epochSeconds => some 1000000000
  | .calendar => none

/-- The time of a measurement: its source, and for a device the field and the format. -/
structure TimeRule where
  source : TimeOrigin
  field : Option String
  format : Option TimestampFormat
deriving DecidableEq, Repr

/-- A payload layout. -/
structure Layout where
  kind : String
  version : String
  fields : List Field
  time : TimeRule
  measurement : String
deriving DecidableEq, Repr

namespace Layout

/-- The first field with a name. -/
def field? (l : Layout) (name : String) : Option Field := l.fields.find? fun f => f.name == name

end Layout

end UplinkFlow
