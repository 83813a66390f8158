import UplinkFlow.Command.Basic
import UplinkFlow.Service.Address
import UplinkFlow.Service.Basic

/-!
# Running commands

* `Command.Fault` — why a command fails, with the wordings of its causes.
* `Command.start` — what a command does to the files, and what is left to do then: nothing, a
  conversation with the engine, or answering requests.
* `faultText` — the text of a fault and its causes.
* `ending` — the code that the program ends with after a report, and what it prints.
-/

set_option autoImplicit false

namespace UplinkFlow.Command

open Engine (Conversation)

/-- Why a command fails. -/
inductive Fault where
  | unreadable (path : String) (fault : StorageFault)
  | malformed (path : String)
  | invalidSensor (path : String) (fault : Sensor.Fault)
  | invalidLayout (path : String) (fault : Layout.Fault)
  | settings (fault : Settings.Fault)
  | template (fault : TemplateFault)
  | generation (fault : GenerationFault)
  | digits (fault : Text.HexFault)
  | decoding (fault : DecodeFault)
  | deployment (sensorId : String)
  | deletion (sensorId : String)
  | address (text : String) (fault : Service.Address.Fault)
deriving DecidableEq, Repr

/-- The wording of a fault, followed by those of its causes. -/
def Fault.chain : Fault → List String
  | .unreadable path fault => ["failed to read " ++ path, fault.message]
  | .malformed path => ["failed to parse " ++ path]
  | .invalidSensor path fault => ["invalid sensor descriptor " ++ path, fault.message]
  | .invalidLayout path fault => ["invalid decoding config " ++ path, fault.message]
  | .settings fault => fault.chain
  | .template fault => "failed to load flow template" :: fault.chain
  | .generation fault => fault.chain
  | .digits fault => ["invalid --payload-hex", fault.message]
  | .decoding fault => [fault.message]
  | .deployment sensorId => ["deployment of sensor " ++ sensorId ++ " failed"]
  | .deletion sensorId => ["deletion of sensor " ++ sensorId ++ " failed"]
  | .address text fault => ["failed to bind " ++ text, fault.message]

/-- What a finished command prints. -/
abbrev Report := Except Fault String

/-! ## The text of a fault -/

/-- Writes a mark before the first line of a text and a margin before the others. -/
def indent (mark margin : String) (s : String) : String :=
  String.intercalate ("\n" ++ margin)
    ((Text.partsAt '\n' (mark ++ s).toList).map String.ofList)

/-- The number of a cause, to the right in five columns. -/
def causeMark (n : Nat) : String :=
  let digits := Text.digits n
  String.ofList (List.replicate (5 - digits.length) ' ' ++ digits) ++ ": "

/-- The causes of a fault, one a line or more; several are numbered. -/
def causeLines : List String → List String
  | [cause] => [indent "    " "    " cause]
  | causes => (causes.zipIdx).map fun (cause, n) => indent (causeMark n) "       " cause

/-- The text of a fault and its causes. -/
def faultText : List String → String
  | [] => ""
  | [message] => message
  | message :: causes =>
    String.intercalate "\n" ([message, "", "Caused by:"] ++ causeLines causes)

/-! ## The end of a command -/

/-- How the program ends: its code, and what it prints on the standard output and on the standard
error. -/
structure Ending where
  code : UInt32
  output : String
  complaint : String
deriving DecidableEq, Repr

/-- How the program ends after a report. -/
def ending : Report → Ending
  | .ok output => ⟨0, output, ""⟩
  | .error fault => ⟨1, "", "Error: " ++ faultText fault.chain ++ "\n"⟩

/-! ## Reading inputs -/

def readDocument {α : Type} (reader : Reader α) (path : String) (s : Storage) : Except Fault α :=
  match s.readText (Place.ofText path) with
  | .error fault => .error (.unreadable path fault)
  | .ok text => (reader.ofText text).mapError fun _ => .malformed path

/-- The sensor and the layout in two files. -/
def readInputs (paths : InputPaths) (s : Storage) : Except Fault (Sensor × Layout) := do
  let sensor ← readDocument Sensor.reader paths.sensor s
  let layout ← readDocument Layout.reader paths.layout s
  return (sensor, layout)

/-- The fault of a sensor or a layout from files. -/
def Fault.ofInput (paths : InputPaths) : InputFault → Fault
  | .sensor fault => .invalidSensor paths.sensor fault
  | .layout fault => .invalidLayout paths.layout fault

/-- The sensor and the layout in two files, which may be used together. -/
def checkedInputs (paths : InputPaths) (s : Storage) : Except Fault (Sensor × Layout) := do
  let (sensor, layout) ← readInputs paths s
  (checkInputs sensor layout).mapError (Fault.ofInput paths)
  return (sensor, layout)

/-- What a command finds beside the files: the environment variables and the present time. -/
structure Surroundings where
  environment : EnvFile.Variables
  now : Int64

/-- The file of variables. -/
def variablesPath : String := ".env"

/-- The settings and the rollout that they describe. -/
def readSettings (e : Surroundings) (s : Storage) : Except Fault (Settings × Rollout) := do
  let file := (s.readText (Place.ofText variablesPath)).toOption
  let settings ← (Settings.ofEnvironment e.environment file).mapError Fault.settings
  let rollout ← (Rollout.ofSettings settings s).mapError Fault.template
  return (settings, rollout)

/-- What a flow is made from: the sensor and the layout in two files, and the rollout that the
settings describe. -/
def prepare (e : Surroundings) (paths : InputPaths) (s : Storage) :
    Except Fault (Sensor × Layout × Rollout) := do
  let (sensor, layout) ← checkedInputs paths s
  let (_, rollout) ← readSettings e s
  return (sensor, layout, rollout)

/-! ## Commands -/

/-- The fault of a preview of files. -/
def Fault.ofPreview (paths : InputPaths) : PreviewFault → Fault
  | .input fault => .ofInput paths fault
  | .digits fault => .digits fault
  | .decoding fault => .decoding fault

/-- Prints the record of a payload. -/
def decodeReport (paths : InputPaths) (digits : String) (received : Int64) (s : Storage) :
    Report := do
  let (sensor, layout) ← readInputs paths s
  let record ← (preview sensor layout digits received).mapError (Fault.ofPreview paths)
  return record.toJson.pretty ++ "\n"

def sourceName : TimeOrigin → String
  | .network => "Network"
  | .device => "Device"

/-- Prints what a sensor and its layout say. -/
def checkReport (paths : InputPaths) (s : Storage) : Report := do
  let (sensor, layout) ← checkedInputs paths s
  return sensor.id ++ ": " ++ Text.decimal layout.fields.length ++ " fields, time from " ++
    sourceName layout.time.source ++ ", measurement " ++ layout.measurement ++ "\n"

/-- Prints the flow of a sensor. -/
def generateReport (e : Surroundings) (paths : InputPaths) (s : Storage) : Report × Storage :=
  match prepare e paths s with
  | .error fault => (.error fault, s)
  | .ok (sensor, layout, rollout) =>
    let (flow, s) := rollout.generate sensor layout s
    ((flow.mapError Fault.generation).map fun flow => (Flow.toJson flow).pretty ++ "\n", s)

def outcomeReport (fault : Fault) (output : String) (done : Bool) : Report :=
  if done then .ok (output ++ "\n") else .error fault

def deployReport (e : Surroundings) (paths : InputPaths) (s : Storage) :
    Conversation Report × Storage :=
  match prepare e paths s with
  | .error fault => (.done (.error fault), s)
  | .ok (sensor, layout, rollout) =>
    let (deployed, s) := rollout.rollOut sensor layout s
    (deployed.bind fun done =>
      .done (outcomeReport (.deployment sensor.id) ("deployed " ++ sensor.id) done), s)

def deleteReport (e : Surroundings) (sensorId : String) (s : Storage) : Conversation Report :=
  match readSettings e s with
  | .error fault => .done (.error fault)
  | .ok (_, rollout) =>
    (rollout.withdraw sensorId).bind fun done =>
      .done (outcomeReport (.deletion sensorId) ("deleted " ++ sensorId) done)

/-- What is left to do after the files have been changed. -/
inductive Task where
  | converse (conversation : Conversation Report)
  | listen (text : String) (address : Service.Address) (rollout : Rollout)

/-- A task that is only a report. -/
def Task.report (report : Report) : Task := .converse (.done report)

/-- Listens for requests at an address. -/
def listenTask (e : Surroundings) (bind : Option String) (s : Storage) : Task :=
  match readSettings e s with
  | .error fault => .report (.error fault)
  | .ok (settings, rollout) =>
    let text := bind.getD settings.httpBind
    match Service.Address.ofText text with
    | .error fault => .report (.error (.address text fault))
    | .ok address => .listen text address rollout

/-- Starts a command. -/
def start (e : Surroundings) (command : Command) (s : Storage) : Task × Storage :=
  match command with
  | .generate paths =>
    let (report, s) := generateReport e paths s
    (.report report, s)
  | .deploy paths =>
    let (conversation, s) := deployReport e paths s
    (.converse conversation, s)
  | .delete sensorId => (.converse (deleteReport e sensorId s), s)
  | .decode paths digits received =>
    (.report (decodeReport paths digits (received.getD e.now) s), s)
  | .checkConfig paths => (.report (checkReport paths s), s)
  | .serve bind => (listenTask e bind s, s)

end UplinkFlow.Command
