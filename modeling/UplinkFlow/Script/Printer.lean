import UplinkFlow.Json.Printer
import UplinkFlow.Script.Basic

/-!
# The text of a decoder script

`Script.lines` gives the lines of a script after the fixed routine for half-precision numbers, and
`Script.text` the whole text.  `decoderText` is the text for a sensor and a layout.  Names and tags
are written as JSON literals, which are literals of the script's language too.
-/

set_option autoImplicit false

namespace UplinkFlow

namespace Script

/-- The routine that every script begins with: it converts two bytes to a number in the same steps
as `singleOfHalf`. -/
def halfRoutine : List String :=
  [ "var halfToFloat = function (slice) \x7b",
    "    var h = slice.readInt16LE(0);",
    "    var bits = new Int32Array(3);",
    "    bits[0] = h & 0x7fff;",
    "    bits[1] = h & 0x8000;",
    "    bits[2] = h & 0x7c00;",
    "    bits[0] = bits[0] << 13;",
    "    bits[1] = bits[1] << 16;",
    "    bits[0] += 0x38000000;",
    "    bits[0] = (bits[2] === 0 ? 0 : bits[0]);",
    "    bits[0] = bits[0] | bits[1];",
    "    return new Float32Array(bits.buffer, 0, 1)[0];",
    "\x7d;" ]

/-- Arguments between parentheses. -/
def arguments (ns : List Nat) : String :=
  "(" ++ ", ".intercalate (ns.map Text.decimal) ++ ")"

/-- The name of an integer type in the buffer's methods. -/
def integerName (signed : Bool) : String := if signed then "Int" else "UInt"

def encodingName : Encoding → String
  | .ascii => "ascii"
  | .utf8 => "utf-8"

def callText : Call → String
  | .byte signed offset => "buf.read" ++ integerName signed ++ "8" ++ arguments [offset]
  | .fixed signed bytes offset =>
    "buf.read" ++ integerName signed ++ Text.decimal (8 * bytes) ++ "LE" ++ arguments [offset]
  | .wide signed offset =>
    "Number(buf.readBig" ++ integerName signed ++ "64LE" ++ arguments [offset] ++ ")"
  | .sized signed offset bytes =>
    "buf.read" ++ integerName signed ++ "LE" ++ arguments [offset, bytes]
  | .half start stop => "halfToFloat(buf.slice" ++ arguments [start, stop] ++ ")"
  | .single offset => "buf.readFloatLE" ++ arguments [offset]
  | .double offset => "buf.readDoubleLE" ++ arguments [offset]
  | .text encoding start stop =>
    "buf.toString(\"" ++ encodingName encoding ++ "\", " ++ Text.decimal start ++ ", " ++
      Text.decimal stop ++ ")"

/-- The place of a field in the record under construction. -/
def slotText (field : String) : String :=
  "fields[" ++ String.ofList (Json.literal field) ++ "]"

/-- The line that stores an expression under a name. -/
def storeLine (field expression : String) : String := slotText field ++ " = " ++ expression ++ ";"

/-- The expression of a time statement; a factor of one is left out. -/
def timeExpression : TimeStep → String
  | .now => "new Date().getTime() * 1000000"
  | .scaled field factor =>
    if factor = 1 then slotText field else slotText field ++ " * " ++ Text.decimal factor
  | .calendar field => "Date.parse(" ++ slotText field ++ ") * 1000000"

/-- The lines after the routine. -/
def lines (s : Script) : List String :=
  ["", "var buf = msg.payload_raw;", "var fields = \x7b\x7d;"] ++
    s.reads.map (fun (field, call) => storeLine field (callText call)) ++
    (s.time.map fun t => storeLine timeKey (timeExpression t)).toList ++
    ["msg.payload = [fields, " ++ (Json.obj s.tags).compact ++ "];", "return msg;"]

/-- The whole text; every line ends with a line end. -/
def text (s : Script) : String := String.join ((halfRoutine ++ s.lines).map (· ++ "\n"))

end Script

/-- Writes decoders in some notation. -/
abbrev Emitter := Plan → String

/-- Writes decoders as scripts. -/
def scriptEmitter : Emitter := fun plan => (Script.of plan).text

/-- The decoder script for a sensor and a layout. -/
def decoderText (sensor : Sensor) (layout : Layout) : String :=
  scriptEmitter (Plan.of sensor layout)

end UplinkFlow
