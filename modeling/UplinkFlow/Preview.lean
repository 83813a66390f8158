import UplinkFlow.Layout.Validation
import UplinkFlow.Record.Basic
import UplinkFlow.Text.Quoted

/-!
# Previews

A preview decodes a payload that was captured earlier, given as hexadecimal digits, after sensor and
layout have been checked.

* `checkInputs` — whether a sensor and a layout may be used together.
* `preview` — the record of a payload.
-/

set_option autoImplicit false

namespace UplinkFlow

/-- Why a sensor and a layout may not be used. -/
inductive InputFault where
  | sensor (fault : Sensor.Fault)
  | layout (fault : Layout.Fault)
deriving DecidableEq, Repr

def InputFault.message : InputFault → String
  | .sensor fault => fault.message
  | .layout fault => fault.message

/-- Checks the sensor first, then the layout. -/
def checkInputs (sensor : Sensor) (layout : Layout) : Except InputFault Unit := do
  sensor.validate.mapError InputFault.sensor
  layout.validate.mapError InputFault.layout

/-- Why there is no preview. -/
inductive PreviewFault where
  | input (fault : InputFault)
  | digits (fault : Text.HexFault)
  | decoding (fault : DecodeFault)
deriving DecidableEq, Repr

/-- The record of a payload that was received at a time; blanks around the digits do not count. -/
def preview (sensor : Sensor) (layout : Layout) (digits : String) (received : Int64) :
    Except PreviewFault Record := do
  (checkInputs sensor layout).mapError PreviewFault.input
  let payload ← (Text.bytesOfHex (Text.trim digits)).mapError PreviewFault.digits
  ((Plan.of sensor layout).decode payload received).mapError PreviewFault.decoding

end UplinkFlow
