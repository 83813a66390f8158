import UplinkFlow.Proofs.Flow.Rewriting
import UplinkFlow.Proofs.NodeId.Clash
import UplinkFlow.Template

/-!
# Rendering a template

* `Template.flow`, `Template.nodeIds` — the flow that a template's document is, and the identifiers
  of its nodes.
* `Template.renderBy_eq_ok` — **an accepted template can be rendered with every number**: all
  strings of its flow are moved, and then the sensor's data go into the nodes.
* `Template.renderBy_ids` — rendering moves each identifier and leaves it at that.
-/

set_option autoImplicit false

namespace UplinkFlow.Template

open NodeIdPattern (shifted)

variable {t : Template} {p : NodeIdPattern} {document : Json} {n : Nat} {emitter : Emitter}
  {sensor : Sensor} {layout : Layout}

/-- The flow that a template's document is. -/
def flow (t : Template) : Flow := (Flow.reader.ofJson? t.document).getD []

def nodeIds (t : Template) : List String := t.flow.map (·.id)

theorem ofJson_eq_ok (h : ofJson document p = .ok t) :
    t = ⟨document, p⟩ ∧ Flow.reader.ofJson? document = some t.flow := by
  unfold ofJson at h
  split at h
  · cases h
  · rename_i flow hflow
    split at h
    · cases h
    · cases h
      exact ⟨rfl, by simp [Template.flow, hflow]⟩

@[simp] theorem splice_id (decoder : String) (sensor : Sensor) (layout : Layout) (node : Node) :
    (splice decoder sensor layout node).id = node.id := by
  unfold splice
  repeat' split
  all_goals rfl

/-- An accepted template can be rendered with every number, whatever the notation of the decoder. -/
theorem renderBy_eq_ok (h : ofJson document p = .ok t) (emitter : Emitter) (n : Nat)
    (sensor : Sensor) (layout : Layout) :
    t.renderBy emitter n sensor layout = .ok ((t.flow.map (Node.rewrite (p.shift? n))).map
      (splice (emitter (Plan.of sensor layout)) sensor layout)) := by
  obtain ⟨rfl, hflow⟩ := ofJson_eq_ok h
  have hread : Flow.reader.ofJson? (document.shiftNodeIds p n).1 =
      some ((flow ⟨document, p⟩).map (Node.rewrite (p.shift? n))) := by
    rw [Json.shiftNodeIds, ← Json.rewrite, Flow.ofJson?_rewrite, hflow]
    rfl
  simp only [renderBy]
  rw [hread]

section Rendered

variable {F : Flow} (h : ofJson document p = .ok t)
  (hF : t.renderBy emitter n sensor layout = .ok F)

include h hF

theorem renderBy_ids : F.map (·.id) = t.nodeIds.map (shifted p n) := by
  rw [renderBy_eq_ok h] at hF
  obtain rfl := Except.ok.inj hF
  simp only [List.map_map, nodeIds]
  apply List.map_congr_left
  intro node _
  simp [Node.rewrite, shifted, Json.rewriteText]

theorem renderBy_length : F.length = t.flow.length := by
  simpa [nodeIds] using congrArg List.length (renderBy_ids h hF)

theorem renderBy_getElem? (i : Nat) : F[i]? = (t.flow[i]?).map fun node =>
    splice (emitter (Plan.of sensor layout)) sensor layout (node.rewrite (p.shift? n)) := by
  rw [renderBy_eq_ok h] at hF
  obtain rfl := Except.ok.inj hF
  simp [List.getElem?_map, Function.comp_def]

/-- The identifier of a node is that of the node in its place, moved by the number. -/
theorem renderBy_id {i : Nat} {node : Node} (hi : t.flow[i]? = some node) :
    ∃ x, F[i]? = some x ∧ x.id = shifted p n node.id := by
  rw [renderBy_getElem? h hF, hi]
  exact ⟨_, rfl, splice_id _ _ _ _⟩

end Rendered

theorem render_eq_ok (h : ofJson document p = .ok t) (n : Nat) (sensor : Sensor)
    (layout : Layout) :
    ∃ F, t.render n sensor layout = .ok F ∧ F.map (·.id) = t.nodeIds.map (shifted p n) := by
  have hF := renderBy_eq_ok h scriptEmitter n sensor layout
  exact ⟨_, hF, renderBy_ids h hF⟩

/-- A sensor to render flows for. -/
def sampleSensor : Sensor := ⟨"sensorA", "node", "1", ⟨"dev-01", "farm-app", "key"⟩, []⟩

def sampleSensorText : String := "[\"sensorA\",\"node\",\"1\",[\"dev-01\",\"farm-app\",\"key\"]]"

/-- A layout without fields. -/
def sampleLayout : Layout := ⟨"node", "1", [], ⟨.network, none, none⟩, "soil"⟩

def sampleLayoutText : String := "[\"node\",\"1\",[],[\"network\"],[\"soil\"]]"

end UplinkFlow.Template
