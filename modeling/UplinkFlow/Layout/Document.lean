import UplinkFlow.Json.Reader
import UplinkFlow.Layout.Basic

/-!
# The document form of a layout

* `Layout.reader` — reads a layout.  Its own type and version may be left out and are then empty;
  `field` and `format` of the time may be left out or `null`.
* `Layout.toJson` — writes it with every field present, except an absent `field` or `format`.
-/

set_option autoImplicit false

namespace UplinkFlow

namespace Field

/-- A field under construction. -/
structure Draft where
  name : Option String := none
  kind : Option FieldKind := none
  offset : Option UInt64 := none
  length : Option UInt64 := none

def slots : List (Reader.Slot Draft) :=
  [ Reader.slot "name" Reader.string (·.name) fun a d => { d with name := some a },
    Reader.slot "type" (Reader.string.map FieldKind.ofName) (·.kind)
      fun a d => { d with kind := some a },
    Reader.slot "offset_bytes" Reader.word (·.offset) fun a d => { d with offset := some a },
    Reader.slot "length_bytes" Reader.word (·.length) fun a d => { d with length := some a } ]

def reader : Reader Field :=
  Reader.record slots {} fun d =>
    match d with
    | ⟨some name, some kind, some offset, some length⟩ => some ⟨name, kind, offset, length⟩
    | _ => none

def toJson (f : Field) : Json :=
  .obj [("name", .str f.name), ("type", .str f.kind.name),
    ("offset_bytes", .num (Number.ofWord f.offset)),
    ("length_bytes", .num (Number.ofWord f.length))]

end Field

namespace TimeOrigin

/-- The source that a name denotes; `field` is another name of the device. -/
def ofName? (name : String) : Option TimeOrigin :=
  if name = "network" then some .network
  else if name = "device" ∨ name = "field" then some .device
  else none

def name : TimeOrigin → String
  | .network => "network"
  | .device => "device"

end TimeOrigin

namespace TimestampFormat

/-- The format that a name denotes; a name of no epoch format denotes a calendar time. -/
def ofName (name : String) : TimestampFormat :=
  if name = "epoch_ns" then .epochNanos
  else if name = "epoch_ms" then .epochMillis
  else if name = "epoch_s" then .epochSeconds
  else .calendar

def name : TimestampFormat → String
  | .epochNanos => "epoch_ns"
  | .epochMillis => "epoch_ms"
  | .epochSeconds => "epoch_s"
  | .calendar => "iso8601"

end TimestampFormat

namespace TimeRule

/-- A time rule under construction. -/
structure Draft where
  source : Option TimeOrigin := none
  field : Option (Option String) := none
  format : Option (Option TimestampFormat) := none

def slots : List (Reader.Slot Draft) :=
  [ Reader.slot "from" (Reader.variant TimeOrigin.ofName?) (·.source)
      fun a d => { d with source := some a },
    Reader.slot "field" Reader.string.optional (·.field) fun a d => { d with field := some a },
    Reader.slot "format" (Reader.variant (some ∘ TimestampFormat.ofName)).optional (·.format)
      fun a d => { d with format := some a } ]

def reader : Reader TimeRule :=
  Reader.record slots {} fun d =>
    d.source.map fun source => ⟨source, d.field.getD none, d.format.getD none⟩

def toJson (t : TimeRule) : Json :=
  .obj (("from", .str t.source.name) ::
    ((t.field.map fun name => ("field", Json.str name)).toList ++
      (t.format.map fun format => ("format", Json.str format.name)).toList))

end TimeRule

namespace Layout

/-- Reads the name of a measurement out of its record. -/
def measurementReader : Reader String :=
  Reader.record
    [Reader.slot "measurement" Reader.string id fun a _ => some a] (none : Option String) id

/-- A layout under construction. -/
structure Draft where
  kind : Option String := none
  version : Option String := none
  fields : Option (List Field) := none
  time : Option TimeRule := none
  measurement : Option String := none

def slots : List (Reader.Slot Draft) :=
  [ Reader.slot "type" Reader.string (·.kind) fun a d => { d with kind := some a },
    Reader.slot "version" Reader.string (·.version) fun a d => { d with version := some a },
    Reader.slot "fields" Field.reader.list (·.fields) fun a d => { d with fields := some a },
    Reader.slot "time" TimeRule.reader (·.time) fun a d => { d with time := some a },
    Reader.slot "db" measurementReader (·.measurement)
      fun a d => { d with measurement := some a } ]

def reader : Reader Layout :=
  Reader.record slots {} fun d =>
    match d with
    | ⟨kind, version, some fields, some time, some measurement⟩ =>
      some ⟨kind.getD "", version.getD "", fields, time, measurement⟩
    | _ => none

def toJson (l : Layout) : Json :=
  .obj [("type", .str l.kind), ("version", .str l.version),
    ("fields", .arr (l.fields.map Field.toJson)), ("time", l.time.toJson),
    ("db", .obj [("measurement", .str l.measurement)])]

end Layout

end UplinkFlow
