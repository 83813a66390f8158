import UplinkFlow.Counter
import UplinkFlow.Flow.Document
import UplinkFlow.NodeId.Shift
import UplinkFlow.Script.Printer

/-!
# Flow templates

A `Template` is the document of a flow that serves as the pattern of every sensor's flow.

* `Template.ofJson`, `Template.load` — accepts a flow that has a tab, from a document or a file.
* `Template.render` — the flow of one sensor: every identifier is shifted by a sequence number, and
  the sensor's data go into the properties of nodes of five types.
* `Template.issue` — the flow with the counter's next number.
-/

set_option autoImplicit false

namespace UplinkFlow

/-- A flow document whose identifiers follow a pattern. -/
structure Template where
  document : Json
  pattern : NodeIdPattern

/-- Why there is no template, or no flow from it. -/
inductive TemplateFault where
  | unreadable (path : String) (fault : StorageFault)
  | malformed (path : String)
  | notNodes
  | noTab
  | counter (fault : CounterFault)
deriving DecidableEq, Repr

namespace TemplateFault

def message : TemplateFault → String
  | .unreadable path fault => "failed to read flow template " ++ path ++ ": " ++ fault.message
  | .malformed path => "flow template " ++ path ++ " is not valid JSON"
  | .notNodes => "flow template is not a flat list of flow nodes"
  | .noTab => "flow template has no \"tab\" node"
  | .counter fault => fault.message

def chain (f : TemplateFault) : List String :=
  match f with
  | .unreadable _ fault => [f.message, fault.message]
  | .counter fault => fault.chain
  | _ => [f.message]

end TemplateFault

namespace Template

/-- Accepts a document that is a flow with a tab. -/
def ofJson (document : Json) (pattern : NodeIdPattern) : Except TemplateFault Template :=
  match Flow.reader.ofJson? document with
  | none => .error .notNodes
  | some flow =>
    match flow.tab? with
    | none => .error .noTab
    | some _ => .ok ⟨document, pattern⟩

/-- Accepts the document in a file. -/
def load (s : Storage) (path : String) (pattern : NodeIdPattern) : Except TemplateFault Template :=
  match s.readText (Place.ofText path) with
  | .error fault => .error (.unreadable path fault)
  | .ok text =>
    match Json.ofText? text with
    | none => .error (.malformed path)
    | some document => ofJson document pattern

/-- Puts a sensor's data into a node: its identifier becomes the label of tabs, and the other types
receive the binding, the decoder and the name of the measurement. -/
def splice (decoder : String) (sensor : Sensor) (layout : Layout) (n : Node) : Node :=
  if n.kind = Node.tabKind then n.set "label" sensor.id
  else if n.kind = Node.uplinkKind then n.set "dev_id" sensor.binding.deviceId
  else if n.kind = Node.appKind then
    (n.set "appId" sensor.binding.appId).set "accessKey" sensor.binding.accessKey
  else if n.kind = Node.functionKind then n.set "func" decoder
  else if n.kind = Node.storeKind then n.set "measurement" layout.measurement
  else n

/-- The flow of a sensor, with the decoder in a given notation. -/
def renderBy (t : Template) (emitter : Emitter) (sequence : Nat) (sensor : Sensor)
    (layout : Layout) : Except TemplateFault Flow :=
  let (document, _) := t.document.shiftNodeIds t.pattern sequence
  match Flow.reader.ofJson? document with
  | none => .error .notNodes
  | some flow => .ok (flow.map (splice (emitter (Plan.of sensor layout)) sensor layout))

/-- The flow of a sensor, with the decoder as a script. -/
def render (t : Template) (sequence : Nat) (sensor : Sensor) (layout : Layout) :
    Except TemplateFault Flow :=
  t.renderBy scriptEmitter sequence sensor layout

/-- The flow of a sensor with the counter's next number. -/
def issue (t : Template) (c : Counter) (sensor : Sensor) (layout : Layout) (s : Storage) :
    Except TemplateFault Flow × Storage :=
  c.advance TemplateFault.counter (fun sequence => t.render sequence sensor layout) s

end Template

end UplinkFlow
