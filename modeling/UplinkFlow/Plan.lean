import UplinkFlow.Json.Basic
import UplinkFlow.Layout.Basic
import UplinkFlow.Sensor

/-!
# Decoder plans

A `Plan` describes one sensor's decoder without regard to who carries it out: the fields to read,
how the time is found, and the tags of every measurement.

* `Plan.of` — the plan for a sensor and a layout.  Fields of unknown type are left out.
* `tagsOf` — the sensor's own tags, then its identifier and the source of the time; a tag of the
  sensor with one of these two names keeps its place and loses its value.
-/

set_option autoImplicit false

namespace UplinkFlow

/-- How the time of a measurement is found.  A device that names no field has no time. -/
inductive Timing where
  | network
  | device (field : Option String) (format : TimestampFormat)
deriving DecidableEq, Repr

/-- The word that marks the source of the time in tags. -/
def Timing.measureTime : Timing → String
  | .network => "network"
  | .device _ _ => "device"

/-- One sensor's decoder. -/
structure Plan where
  fields : List Field
  time : Timing
  tags : Members

/-- The timing that a time rule asks for; without a format a calendar time is expected. -/
def TimeRule.timing (t : TimeRule) : Timing :=
  match t.source with
  | .network => .network
  | .device => .device t.field (t.format.getD .calendar)

/-- The key under which a record keeps its time. -/
def timeKey : String := "time"

/-- The tags of a sensor's measurements. -/
def tagsOf (sensor : Sensor) (time : Timing) : Members :=
  let own : Members := sensor.tags.map fun (key, value) => (key, .str value)
  (own.insert "ID" (.str sensor.id)).insert "measuretime" (.str time.measureTime)

/-- The plan for a sensor and a layout. -/
def Plan.of (sensor : Sensor) (layout : Layout) : Plan where
  fields := layout.fields.filter (·.kind.isKnown)
  time := layout.time.timing
  tags := tagsOf sensor layout.time.timing

end UplinkFlow
