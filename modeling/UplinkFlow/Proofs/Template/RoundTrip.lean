import UplinkFlow.Proofs.Flow.RoundTrip
import UplinkFlow.Proofs.Template.RenderedNode

/-!
# Reading what is written of a flow

* `Template.nesting_flow_of_load`, `Template.nesting_rendered_le` — the template of a file is not
  nested too deep, and no more are the flows that are rendered from it.
* `Template.flows_round_trip` — **a flow is written as its document was, but arranged, and its
  document is read as the flow again; a text that is written of it is read so exactly if the numbers
  are read back.**
* `Template.written_flow_changes` — a number is not always read back, so a flow may come to be
  another one when it is written and read again.
-/

set_option autoImplicit false

namespace UplinkFlow

open Outline (maxDepth)

/-! ## Nodes -/

namespace Node

variable {n : Node} {limit : Nat}

theorem nesting_toJson_le : n.toJson.nesting ≤ limit + 1 ↔ ∀ m ∈ n.props, m.2.nesting ≤ limit := by
  rw [toJson_eq, Json.nesting_obj_le, members]
  cases n.tab <;> simp [Json.nesting]

theorem nesting_set_le (h : n.toJson.nesting ≤ limit + 1) (key value : String) :
    (n.set key value).toJson.nesting ≤ limit + 1 := by
  rw [nesting_toJson_le] at h ⊢
  intro m hm
  rcases Members.mem_insert hm with rfl | hm
  · exact Nat.zero_le limit
  · exact h m hm

end Node

namespace Template

variable {t : Template} {p : NodeIdPattern} {document : Json} {n : Nat} {emitter : Emitter}
  {sensor : Sensor} {layout : Layout} {node : Node} {limit : Nat}

/-! ## Rendered flows -/

theorem nesting_renderNode_le (h : node.toJson.nesting ≤ limit + 1) :
    (renderNode p emitter n sensor layout node).toJson.nesting ≤ limit + 1 := by
  rw [← Json.nesting_rewrite (p.shift? n), ← Node.toJson_rewrite] at h
  exact splice_preserves (P := fun node => node.toJson.nesting ≤ limit + 1) h _
    fun _ key value _ hnode => Node.nesting_set_le hnode key value

/-- The flow of a template from a file is not nested too deep. -/
theorem nesting_flow_of_load {s : Storage} {path : String} (h : load s path p = .ok t) :
    t.flow.toJson.nesting ≤ maxDepth := by
  unfold load at h
  split at h
  · cases h
  · split at h
    · cases h
    · rename_i text _ document hdocument
      obtain ⟨-, hflow⟩ := ofJson_eq_ok h
      rw [Flow.toJson_of_ofJson? (Json.hasUniqueKeys_of_ofText? hdocument) hflow]
      exact Flow.nesting_arranged_of_ofText? hdocument

theorem nesting_rendered_le {limit : Nat} (h : t.flow.toJson.nesting ≤ limit + 2) :
    (Flow.toJson (t.flow.map (renderNode p emitter n sensor layout))).nesting ≤ limit + 2 := by
  rw [Flow.toJson, Json.nesting_arr_le] at h ⊢
  simp only [List.forall_mem_map] at h ⊢
  exact fun node hnode => nesting_renderNode_le (h node hnode)

/-! ## Written flows -/

/-- **A flow is written as its document was, but arranged, and its document is read as the flow
again.  A text that is written of it is read as the flow exactly if the numbers in it are read
back**, and the same goes for a rendered flow; only that a template which does not come from a file
may be nested too deep. -/
theorem flows_round_trip (document : Json) (text : String) (flow : Flow) (p : NodeIdPattern)
    (t : Template) (emitter : Emitter) (n : Nat) (sensor : Sensor) (layout : Layout) :
    (document.HasUniqueKeys → Flow.reader.ofJson? document = some flow →
      flow.toJson = document.arranged ∧ Flow.reader.ofJson? flow.toJson = some flow ∧
      ∀ written, flow.toJson.IsWrittenAs written →
        (Flow.reader.ofText written = .ok flow ↔ flow.toJson.ReadsBack)) ∧
    (Flow.reader.ofText text = .ok flow →
      (∃ parsed, Json.ofText? text = some parsed ∧ flow.toJson = parsed.arranged) ∧
      Flow.reader.ofJson? flow.toJson = some flow ∧
      ∀ written, flow.toJson.IsWrittenAs written →
        (Flow.reader.ofText written = .ok flow ↔ ∀ n ∈ flow.toJson.numbers, n.ReadsBack)) ∧
    (ofJson document p = .ok t → ∃ rendered : Flow,
      t.renderBy emitter n sensor layout = .ok rendered ∧
      Flow.reader.ofJson? rendered.toJson = some rendered ∧
      (∀ written, rendered.toJson.IsWrittenAs written →
        (Flow.reader.ofText written = .ok rendered ↔ rendered.toJson.ReadsBack)) ∧
      ∀ s path, load s path p = .ok t → rendered.toJson.nesting ≤ maxDepth) := by
  refine ⟨?_, ?_, ?_⟩
  · intro hunique h
    have hproper := Flow.isProper_of_reader (Reader.ofJson?_eq_some.mp h)
    exact ⟨Flow.toJson_of_ofJson? hunique h, Flow.ofJson?_toJson hproper,
      fun written => Flow.ofText_eq_ok_iff hproper⟩
  · intro h
    have hproper := Flow.isProper_of_ofText h
    obtain ⟨parsed, hparsed, harranged⟩ := Flow.toJson_of_ofText h
    refine ⟨⟨parsed, hparsed, harranged⟩, Flow.ofJson?_toJson hproper,
      fun written hwritten => ?_⟩
    rw [Flow.ofText_eq_ok_iff hproper hwritten]
    exact ⟨fun hback => hback.numbers,
      fun hnumbers => ⟨harranged ▸ Flow.nesting_arranged_of_ofText? hparsed, hnumbers⟩⟩
  · intro haccept
    have hproper : ∀ node ∈ t.flow.map (renderNode p emitter n sensor layout), node.IsProper :=
      List.forall_mem_map.mpr fun node hnode =>
        isProper_renderNode (isProper_flow haccept node hnode)
    exact ⟨_, renderBy_eq_map haccept, Flow.ofJson?_toJson hproper,
      fun written => Flow.ofText_eq_ok_iff hproper,
      fun s path hload => nesting_rendered_le (nesting_flow_of_load hload)⟩

/-- The document of a tab with a number among its properties. -/
def plotted (n : Number) : Json :=
  .arr [.obj [("x", .num n), ("z", .null), ("type", .str "tab"), ("id", .str "a"),
    ("wires", .arr [.arr []])]]

/-- The flow that such a document is, with further properties. -/
def plottedFlow (n : Number) (further : Members) : Flow :=
  [⟨"a", "tab", none, [("x", .num n), ("wires", .arr [.arr []])] ++ further⟩]

theorem renderBy_plotted (n : Number) : (⟨plotted n, .legacy⟩ : Template).renderBy scriptEmitter 1
    sampleSensor sampleLayout = .ok (plottedFlow n [("label", .str "sensorA")]) := rfl

theorem isSpace_lineEnd : ∀ c ∈ "\n".toList, Json.isSpace c = true := by
  intro c hc
  obtain rfl : c = '\n' := by simpa using hc
  rfl

/-- A file with the document of a whole number. -/
def plottedFiles : Storage :=
  ⟨[((1, ["template"]), .file (Text.utf8Bytes (plotted (.ofWord 3)).compact))], []⟩

/-- A flow of a whole number is arranged when it is written, and read again from what is written of
it, also once it has been rendered from a file. -/
theorem flows_round_trip_whole : ∃ (t : Template) (flow rendered : Flow),
    load plottedFiles "template" .legacy = .ok t ∧
      Flow.reader.ofText (plotted (.ofWord 3)).compact = .ok flow ∧
      flow.toJson = .arr [.obj [("id", .str "a"), ("type", .str "tab"), ("x", .num (.ofWord 3)),
        ("wires", .arr [.arr []])]] ∧
      Flow.reader.ofText flow.toJson.compact = .ok flow ∧
      t.renderBy scriptEmitter 1 sampleSensor sampleLayout = .ok rendered ∧
      rendered.toJson.nesting ≤ maxDepth ∧
      Flow.reader.ofText (rendered.toJson.pretty ++ "\n") = .ok rendered := by
  have hunique : (plotted (.ofWord 3)).HasUniqueKeys := by
    simp [plotted, Json.HasUniqueKeys, Json.valuesHaveUniqueKeys, Json.itemsHaveUniqueKeys]
  have hnumbers : ∀ n ∈ [Number.ofWord 3], n.ReadsBack := by decide +kernel
  have hback : (plotted (.ofWord 3)).ReadsBack := ⟨by decide +kernel, hnumbers⟩
  have hkept : Json.ofText? (plotted (.ofWord 3)).compact = some (plotted (.ofWord 3)) :=
    Json.ofText?_of_isWrittenAs hback hunique .line
  have hfile : plottedFiles.readText (Place.ofText "template") =
      .ok (plotted (.ofWord 3)).compact := by decide +kernel
  have hload : load plottedFiles "template" .legacy = .ok ⟨plotted (.ofWord 3), .legacy⟩ := by
    simp only [load, hfile, hkept]
    rfl
  have hflow : Flow.reader.ofJson? (plotted (.ofWord 3)) = some (plottedFlow (.ofWord 3) []) := rfl
  have htext := (Reader.ofText_of_readsBack Flow.reader hback .line).trans
    (Reader.ofJson?_eq_some.mp hflow)
  have harranged : (plotted (.ofWord 3)).arranged = .arr [.obj [("id", .str "a"),
      ("type", .str "tab"), ("x", .num (.ofWord 3)), ("wires", .arr [.arr []])]] := by
    simp [plotted, Json.arranged, Json.arrangedNode, Members.arranged, Members.under,
      Members.others, Json.isNull]
  obtain ⟨hdocuments, htexts, hrenders⟩ := flows_round_trip (plotted (.ofWord 3))
    (plotted (.ofWord 3)).compact (plottedFlow (.ofWord 3) []) .legacy
    ⟨plotted (.ofWord 3), .legacy⟩ scriptEmitter 1 sampleSensor sampleLayout
  obtain ⟨hwritten, -, -⟩ := hdocuments hunique hflow
  obtain ⟨-, -, hagain⟩ := htexts htext
  obtain ⟨rendered, hrender, -, hprinted, hnesting⟩ := hrenders rfl
  obtain rfl := Except.ok.inj ((renderBy_plotted _).symm.trans hrender)
  exact ⟨_, _, _, hload, htext, hwritten.trans harranged, (hagain _ .line).mpr hnumbers, hrender,
    hnesting _ _ hload, (hprinted _ (.lines isSpace_lineEnd)).mpr ⟨hnesting _ _ hload, hnumbers⟩⟩

/-- A number whose text is read as its lower neighbour. -/
def driftingNumber : Number := .real ⟨0x4059E7CCA6965375⟩ (by decide)

/-- The lower neighbour. -/
def driftedNumber : Number := .real ⟨0x4059E7CCA6965374⟩ (by decide)

theorem ofLexeme?_driftingNumber : Number.ofLexeme? driftingNumber.chars = some driftedNumber := by
  decide +kernel

/-- **A flow may come to be another one when it is written and read again**, also one that has been
rendered: a number with seventeen digits is read as its neighbour. -/
theorem written_flow_changes :
    (∃ flow other : Flow, Flow.reader.ofJson? flow.toJson = some flow ∧
      flow.toJson.compact =
        "[\x7b\"id\":\"a\",\"type\":\"tab\",\"x\":103.62186588936113,\"wires\":[[]]\x7d]" ∧
      Flow.reader.ofText flow.toJson.compact = .ok other ∧
      other.toJson.compact =
        "[\x7b\"id\":\"a\",\"type\":\"tab\",\"x\":103.62186588936112,\"wires\":[[]]\x7d]") ∧
    ¬ ∀ (document : Json) (p : NodeIdPattern) (t : Template) (n : Nat) (sensor : Sensor)
      (layout : Layout) (flow : Flow), ofJson document p = .ok t →
        t.render n sensor layout = .ok flow →
          Flow.reader.ofText (flow.toJson.pretty ++ "\n") = .ok flow := by
  constructor
  · have hprinted : Outline.ofPrinted 0 (plottedFlow driftingNumber []).toJson =
        Outline.ofJson (plottedFlow driftedNumber []).toJson := by
      simp [plottedFlow, Flow.toJson, Node.toJson, Outline.ofPrinted, Outline.ofPrintedItems,
        Outline.ofPrintedMembers, Outline.ofJson, Outline.ofItems, Outline.ofMembers,
        ofLexeme?_driftingNumber, maxDepth]
    refine ⟨plottedFlow driftingNumber [], plottedFlow driftedNumber [], rfl, by decide +kernel, ?_,
      by decide +kernel⟩
    rw [Reader.ofText_of_isWrittenAs _ .line, hprinted]
    rfl
  · intro hall
    have hread := hall (plotted driftingNumber) .legacy _ 1 sampleSensor sampleLayout _ rfl
      (renderBy_plotted driftingNumber)
    have hproper := Flow.isProper_of_ofText hread
    have hback := (Flow.ofText_eq_ok_iff hproper (.lines isSpace_lineEnd)).mp hread
    have hnumber : driftingNumber.ReadsBack := hback.numbers _ List.mem_cons_self
    rw [Number.ReadsBack, ofLexeme?_driftingNumber] at hnumber
    cases hnumber

end Template

end UplinkFlow
