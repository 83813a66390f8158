import UplinkFlow.Http.MediaType
import UplinkFlow.Layout.Document
import UplinkFlow.Preview
import UplinkFlow.Rollout
import UplinkFlow.Text.Parts
import UplinkFlow.Text.Percent

/-!
# The HTTP service

The service answers requests to deploy and delete the flow of a sensor and to preview a payload.

* `Service.Route` — what a path stands for.
* `Service.respond` — the response to a request.  The files change before the engine is asked.
-/

set_option autoImplicit false

namespace UplinkFlow.Service

/-- A request to the service; the target may carry a query. -/
structure Request where
  method : String
  target : String
  contentType : Option String
  body : List UInt8

/-- A response of the service. -/
structure Response where
  status : Nat
  contentType : Option String
  body : String
deriving DecidableEq, Repr

namespace Response

/-- A response without a body. -/
def empty (status : Nat) : Response := ⟨status, none, ""⟩

def text (status : Nat) (body : String) : Response :=
  ⟨status, some "text/plain; charset=utf-8", body⟩

def json (status : Nat) (body : Json) : Response := ⟨status, some "application/json", body.compact⟩

/-- The response to an operation on the engine. -/
def success (done : Bool) : Response :=
  json (if done then 200 else 502) (.obj [("success", .bool done)])

end Response

/-! ## Bodies -/

/-- Why a body cannot be read. -/
inductive BodyFault where
  | notJson
  | tooLong
  | malformed
  | mismatch
deriving DecidableEq, Repr

/-- The response to a body that cannot be read. -/
def BodyFault.response : BodyFault → Response
  | .notJson => .text 415 "Expected request with `Content-Type: application/json`"
  | .tooLong => .text 413 "Failed to buffer the request body: length limit exceeded"
  | .malformed => .text 400 "Failed to parse the request body as JSON"
  | .mismatch => .text 422 "Failed to deserialize the JSON body into the target type"

def maxBody : Nat := 2 * 1024 * 1024

/-- Reads the body of a request. -/
def readBody {α : Type} (reader : Reader α) (r : Request) : Except BodyFault α := do
  if ((r.contentType.bind Http.MediaType.ofText?).map Http.MediaType.isJson) != some true then
    .error .notJson
  if maxBody < r.body.length then .error .tooLong
  (reader.ofBytes r.body).mapError fun fault =>
    match fault with
    | .malformed => .malformed
    | .mismatch => .mismatch

/-- What is asked for: to deploy a sensor's flow, or to preview a payload. -/
structure Inquiry where
  sensor : Option Sensor := none
  layout : Option Layout := none
  digits : Option String := none
  received : Option (Option Int64) := none

/-- The fields that every inquiry has. -/
def inputSlots : List (Reader.Slot Inquiry) :=
  [ Reader.slot "sensor" Sensor.reader (·.sensor) fun a q => { q with sensor := some a },
    Reader.slot "config" Layout.reader (·.layout) fun a q => { q with layout := some a } ]

/-- The fields that only a preview has. -/
def payloadSlots : List (Reader.Slot Inquiry) :=
  [ Reader.slot "payload_hex" Reader.string (·.digits) fun a q => { q with digits := some a },
    Reader.slot "received_at_ns" Reader.int64.optional (·.received)
      fun a q => { q with received := some a } ]

def deploymentReader : Reader (Sensor × Layout) :=
  Reader.record inputSlots {} fun q =>
    match q with
    | ⟨some sensor, some layout, _, _⟩ => some (sensor, layout)
    | _ => none

/-- A payload to preview, with the time when it was received. -/
structure PreviewInquiry where
  sensor : Sensor
  layout : Layout
  digits : String
  received : Option Int64

def previewReader : Reader PreviewInquiry :=
  Reader.record (inputSlots ++ payloadSlots) {} fun q =>
    match q with
    | ⟨some sensor, some layout, some digits, received⟩ =>
      some ⟨sensor, layout, digits, received.getD none⟩
    | _ => none

/-! ## Operations -/

/-- The wording of a fault in a preview. -/
def previewMessage : PreviewFault → String
  | .input fault => fault.message
  | .digits fault => "payload_hex: " ++ fault.message
  | .decoding fault => fault.message

/-- The response to a preview: the record and the script that decodes the same on the engine.
Without a time of receipt the present counts. -/
def respondPreview (now : Int64) (r : Request) : Response :=
  match readBody previewReader r with
  | .error fault => fault.response
  | .ok q =>
    match preview q.sensor q.layout q.digits (q.received.getD now) with
    | .error fault => .text 422 (previewMessage fault)
    | .ok record =>
      let script := decoderText q.sensor q.layout
      .json 200 (.obj [("payload", record.toJson), ("script", .str script)])

open Engine (Conversation)

/-- The response to a deployment. -/
def respondDeployment (p : Rollout) (r : Request) (s : Storage) :
    Conversation Response × Storage :=
  match readBody deploymentReader r with
  | .error fault => (.done fault.response, s)
  | .ok (sensor, layout) =>
    match checkInputs sensor layout with
    | .error fault => (.done (.text 422 fault.message), s)
    | .ok () =>
      let (deployed, s) := p.rollOut sensor layout s
      (deployed.bind fun done => .done (.success done), s)

/-- The response to a deletion, where the identifier stands in the path. -/
def respondDeletion (p : Rollout) (encodedId : String) : Conversation Response :=
  match Text.ofUtf8? (Text.percentDecode (Text.utf8Bytes encodedId)) with
  | none => .done (.text 400 "Invalid URL")
  | some id => (p.withdraw id).bind fun done => .done (.success done)

/-! ## Routes -/

/-- What a path stands for. -/
inductive Route where
  | health
  | deployments
  | deployment (encodedId : String)
  | preview
deriving DecidableEq, Repr

def Route.ofPath? (path : String) : Option Route :=
  match (Text.partsAt '/' path.toList).map String.ofList with
  | ["", "healthz"] => some .health
  | ["", "v1", "deployments"] => some .deployments
  | ["", "v1", "deployments", id] => if id.isEmpty then none else some (.deployment id)
  | ["", "v1", "preview"] => some .preview
  | _ => none

/-- Whether a character ends the host or the path of a target. -/
def endsPart (c : Char) : Bool := c == '?' || c == '#'

/-- What follows scheme and host in a target that begins with them. -/
def behindHost? (target : List Char) : Option (List Char) :=
  let scheme := target.takeWhile fun c => c.isAlphanum || c == '+' || c == '-' || c == '.'
  match target.drop scheme.length with
  | ':' :: '/' :: '/' :: rest => some (rest.dropWhile fun c => c != '/' && !endsPart c)
  | _ => none

/-- The path of a target.  Behind a host, an empty path is that of the root. -/
def pathOf (target : String) : String :=
  match behindHost? target.toList with
  | none => String.ofList (target.toList.takeWhile (!endsPart ·))
  | some rest =>
    let path := rest.takeWhile (!endsPart ·)
    if path.isEmpty then "/" else String.ofList path

/-- The response to a request, given the present time. -/
def respond (p : Rollout) (now : Int64) (r : Request) (s : Storage) :
    Conversation Response × Storage :=
  match Route.ofPath? (pathOf r.target), r.method with
  | none, _ => (.done (.empty 404), s)
  | some .health, "GET" => (.done (.text 200 "ok"), s)
  | some .health, "HEAD" => (.done (.empty 200), s)
  | some .deployments, "POST" => respondDeployment p r s
  | some (.deployment id), "DELETE" => (respondDeletion p id, s)
  | some .preview, "POST" => (.done (respondPreview now r), s)
  | some _, _ => (.done (.empty 405), s)

end UplinkFlow.Service
