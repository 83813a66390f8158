import UplinkFlow.Proofs.Command.Inputs
import UplinkFlow.Proofs.Template.RenderedNode

/-!
# Two previews of a payload

A payload can be previewed with a request to the service and with a command on files, and the
service shows the script that decodes on the engine.

* `Previews` — the record that a payload is previewed as; `preview_eq_ok_iff`.
* `Service.respondPreview_status`, `Command.decodeReport_eq_ok_iff` — each of the two previews
  succeeds exactly if there is such a record.
* `Template.HoldsDecoder` — the function nodes of a rendered flow, with their decoder.
* `previews_agree` — **the two previews succeed on the same payloads and show the same document**,
  and the script is the decoder of every function node that is rendered for the sensor.
-/

set_option autoImplicit false

namespace UplinkFlow

open Command (Shows decodeReport)
open Template (sampleSensor sampleSensorText)

variable {sensor : Sensor} {layout : Layout} {digits : String} {received now : Int64}
  {record : Record} {r : Service.Request} {paths : InputPaths} {s : Storage}

/-! ## The record -/

/-- A payload is previewed as a record: sensor and layout may be used together, the digits between
blanks stand for bytes, and the bytes decode to the record. -/
structure Previews (sensor : Sensor) (layout : Layout) (digits : String) (received : Int64)
    (record : Record) : Prop where
  valid : Service.IsValid sensor layout
  decodes : ∃ payload, Text.bytesOfHex (Text.trim digits) = .ok payload ∧
    (Plan.of sensor layout).decode payload received = .ok record

theorem preview_eq_ok_iff : preview sensor layout digits received = .ok record ↔
    Previews sensor layout digits received record := by
  simp only [preview, bind_eq_ok_iff, mapError_eq_ok_iff]
  constructor
  · rintro ⟨⟨⟩, hvalid, hdecodes⟩
    exact ⟨Service.checkInputs_eq_ok_iff.mp hvalid, hdecodes⟩
  · rintro ⟨hvalid, hdecodes⟩
    exact ⟨(), Service.checkInputs_eq_ok_iff.mpr hvalid, hdecodes⟩

/-! ## The preview of the service -/

theorem Service.respondPreview_of_previews
    (hbody : readBody previewReader r = .ok ⟨sensor, layout, digits, some received⟩)
    (h : Previews sensor layout digits received record) :
    respondPreview now r = .json 200
      (.obj [("payload", record.toJson), ("script", .str (decoderText sensor layout))]) := by
  rw [respondPreview, hbody]
  simp only [Option.getD_some, preview_eq_ok_iff.mpr h]

theorem Service.respondPreview_status
    (hbody : readBody previewReader r = .ok ⟨sensor, layout, digits, some received⟩) :
    (respondPreview now r).status = 200 ↔
      ∃ record, Previews sensor layout digits received record := by
  constructor
  · intro hstatus
    simp only [respondPreview, hbody, Option.getD_some] at hstatus
    split at hstatus
    · cases hstatus
    · rename_i record hrecord
      exact ⟨record, preview_eq_ok_iff.mp hrecord⟩
  · rintro ⟨record, h⟩
    rw [respondPreview_of_previews hbody h]
    rfl

/-! ## The preview of files -/

/-- The command prints the document of a record exactly if there is one. -/
theorem Command.decodeReport_eq_ok_iff (hsensor : Shows Sensor.reader paths.sensor s sensor)
    (hlayout : Shows Layout.reader paths.layout s layout) {output : String} :
    decodeReport paths digits received s = .ok output ↔
      ∃ record, Previews sensor layout digits received record ∧
        output = record.toJson.pretty ++ "\n" := by
  simp only [decodeReport, bind_eq_ok_iff, mapError_eq_ok_iff, pure, Except.pure]
  constructor
  · rintro ⟨⟨_, _⟩, hread, record, h, ⟨⟩⟩
    obtain ⟨hsensor', hlayout'⟩ := readInputs_eq_ok_iff.mp hread
    obtain rfl := hsensor.unique hsensor'
    obtain rfl := hlayout.unique hlayout'
    exact ⟨record, preview_eq_ok_iff.mp h, rfl⟩
  · rintro ⟨record, h, rfl⟩
    exact ⟨(sensor, layout), readInputs_eq_ok_iff.mpr ⟨hsensor, hlayout⟩, record,
      preview_eq_ok_iff.mpr h, rfl⟩

/-! ## The script -/

/-- A node of a rendered flow beside the node of the template: both are function nodes or neither
is, and a function node has the decoder. -/
structure Template.HoldsDecoder (decoder : String) (node x : Node) : Prop where
  kind : x.kind = Node.functionKind ↔ node.kind = Node.functionKind
  func : x.kind = Node.functionKind → x.props.member? "func" = some (.str decoder)

/-- Whatever the template and the number, all function nodes of a rendered flow have the same
decoder. -/
theorem Template.render_holdsDecoder {t : Template} {document : Json} {p : NodeIdPattern}
    (h : ofJson document p = .ok t) (n : Nat) (sensor : Sensor) (layout : Layout) :
    ∃ F, t.render n sensor layout = .ok F ∧
      List.Forall₂ (HoldsDecoder (decoderText sensor layout)) t.flow F := by
  refine ⟨_, renderBy_eq_map h, ?_⟩
  rw [List.forall₂_map_right_iff, List.forall₂_same]
  intro node _
  exact ⟨renderNode_kind_eq_function_iff, fun hkind =>
    renderNode_func (renderNode_kind_eq_function_iff.mp hkind)⟩

/-! ## The two previews -/

/-- **The two previews agree.**  Let a request ask for the preview of a payload, and let two files
show the sensor and the layout of the request.  The service answers with success exactly if the
command succeeds on the files, with the same digits and the same time of receipt, and exactly if the
payload has a record.  Then the payload in the answer is the document that the command prints, that
of the record, and the script in the answer is the decoder of the function nodes in the flow that
any template renders for the sensor and the layout. -/
theorem previews_agree (now : Int64)
    (hbody : Service.readBody Service.previewReader r = .ok ⟨sensor, layout, digits, some received⟩)
    (hsensor : Shows Sensor.reader paths.sensor s sensor)
    (hlayout : Shows Layout.reader paths.layout s layout) :
    ((Service.respondPreview now r).status = 200 ↔
      ∃ output, decodeReport paths digits received s = .ok output) ∧
    ((Service.respondPreview now r).status = 200 ↔
      ∃ record, Previews sensor layout digits received record) ∧
    ∀ output, decodeReport paths digits received s = .ok output →
      ∃ record script, Previews sensor layout digits received record ∧
        Service.respondPreview now r =
          .json 200 (.obj [("payload", record.toJson), ("script", .str script)]) ∧
        output = record.toJson.pretty ++ "\n" ∧
        ∀ document p t, Template.ofJson document p = .ok t → ∀ n, ∃ F,
          t.render n sensor layout = .ok F ∧
            List.Forall₂ (Template.HoldsDecoder script) t.flow F := by
  have hprints (output : String) : decodeReport paths digits received s = .ok output ↔
      ∃ record, Previews sensor layout digits received record ∧
        output = record.toJson.pretty ++ "\n" :=
    Command.decodeReport_eq_ok_iff hsensor hlayout
  have hstatus : (Service.respondPreview now r).status = 200 ↔
      ∃ record, Previews sensor layout digits received record :=
    Service.respondPreview_status hbody
  refine ⟨?_, hstatus, ?_⟩
  · rw [hstatus]
    constructor
    · rintro ⟨record, h⟩
      exact ⟨_, (hprints _).mpr ⟨record, h, rfl⟩⟩
    · rintro ⟨output, houtput⟩
      obtain ⟨record, h, -⟩ := (hprints output).mp houtput
      exact ⟨record, h⟩
  · intro output houtput
    obtain ⟨record, h, rfl⟩ := (hprints output).mp houtput
    exact ⟨record, decoderText sensor layout, h, Service.respondPreview_of_previews hbody h, rfl,
      fun _ _ _ haccept n => Template.render_holdsDecoder haccept n sensor layout⟩

namespace Command

/-! ## A preview of two bytes -/

/-- A layout with one field. -/
def levelLayout : Layout := { Template.sampleLayout with fields := [⟨"level", .int, 0, 2⟩] }

/-- The layout, written as an array. -/
def levelLayoutText : String :=
  "[\"node\",\"1\",[[\"level\",\"int\",0,2]],[\"network\"],[\"soil\"]]"

/-- The paths of a sensor and the layout. -/
def previewPaths : InputPaths := ⟨"sensor", "layout"⟩

def previewedFiles : Storage where
  entries := [sampleFile previewPaths.sensor sampleSensorText,
    sampleFile previewPaths.layout levelLayoutText]
  locked := []

/-- A request for the preview of two bytes with blanks around their digits. -/
def previewRequest : Service.Request where
  method := "POST"
  target := "/v1/preview"
  contentType := some "application/json"
  body := Text.utf8Bytes ("[" ++ sampleSensorText ++ "," ++ levelLayoutText ++
    ",\" 0AfF\\n\",1700000000000000000]")

theorem shows_sampleSensor :
    Shows Sensor.reader previewPaths.sensor previewedFiles sampleSensor := by
  rw [← readDocument_eq_ok_iff, ← toOption_eq_some_iff]
  decide +kernel

theorem shows_levelLayout :
    Shows Layout.reader previewPaths.layout previewedFiles levelLayout := by
  rw [← readDocument_eq_ok_iff, ← toOption_eq_some_iff]
  decide +kernel

theorem readBody_previewRequest : Service.readBody Service.previewReader previewRequest =
    .ok ⟨sampleSensor, levelLayout, " 0AfF\n", some 1700000000000000000⟩ := by
  have hfields : (Service.readBody Service.previewReader previewRequest).toOption.map
      (fun q => (q.sensor, q.layout, q.digits, q.received)) =
        some (sampleSensor, levelLayout, " 0AfF\n", some 1700000000000000000) := by
    decide +kernel
  obtain ⟨⟨_, _, _, _⟩, hread, ⟨⟩⟩ := Option.map_eq_some_iff.mp hfields
  exact toOption_eq_some_iff.mp hread

/-- What is printed of the two bytes. -/
def previewedText : String :=
  "[\n  \x7b\n    \"level\": -246,\n    \"time\": 1700000000000000000\n  \x7d,\n" ++
  "  \x7b\n    \"ID\": \"sensorA\",\n    \"measuretime\": \"network\"\n  \x7d\n]\n"

theorem decodeReport_previewedFiles :
    decodeReport previewPaths " 0AfF\n" 1700000000000000000 previewedFiles =
      .ok previewedText := by
  rw [← toOption_eq_some_iff]
  decide +kernel

/-- A tab with a function node. -/
def tabWithFunction : Json :=
  .arr [.obj [("id", .str "aaaaaaaa.000001"), ("type", .str "tab")],
    .obj [("id", .str "aaaaaaaa.000002"), ("type", .str "function"), ("z", .str "aaaaaaaa.000001")]]

end Command

open Command

/-- Two bytes are previewed as the same measurement, and the function node has the script. -/
theorem previews_agree_level :
    (Service.respondPreview 0 previewRequest).status = 200 ∧ ∃ (record : Record) (script : String),
      Service.respondPreview 0 previewRequest =
        .json 200 (.obj [("payload", record.toJson), ("script", .str script)]) ∧
      record.toJson.pretty ++ "\n" = previewedText ∧
      ∃ F x, Template.render ⟨tabWithFunction, .legacy⟩ 1 sampleSensor levelLayout = .ok F ∧
        F[1]? = some x ∧ x.props.member? "func" = some (.str script) := by
  obtain ⟨hstatus, -, hshown⟩ :=
    previews_agree 0 readBody_previewRequest shows_sampleSensor shows_levelLayout
  obtain ⟨record, script, -, hresponse, houtput, hscript⟩ := hshown _ decodeReport_previewedFiles
  have haccept : Template.ofJson tabWithFunction .legacy = .ok ⟨tabWithFunction, .legacy⟩ := rfl
  obtain ⟨F, hF, hholds⟩ := hscript _ _ _ haccept 1
  have hflow : Template.flow ⟨tabWithFunction, .legacy⟩ =
      [⟨"aaaaaaaa.000001", "tab", none, []⟩,
        ⟨"aaaaaaaa.000002", "function", some "aaaaaaaa.000001", []⟩] := rfl
  rw [hflow] at hholds
  obtain ⟨tab, rest, -, hrest, rfl⟩ := List.forall₂_cons_left_iff.mp hholds
  obtain ⟨x, _, hx, -, rfl⟩ := List.forall₂_cons_left_iff.mp hrest
  exact ⟨hstatus.mpr ⟨_, decodeReport_previewedFiles⟩, record, script, hresponse, houtput.symm, _,
    x, hF, rfl, hx.func (hx.kind.mpr rfl)⟩

end UplinkFlow
