import UplinkFlow.Proofs.Flow.Arrangement
import UplinkFlow.Proofs.Json.Members
import UplinkFlow.Proofs.Template.Acceptance
import UplinkFlow.Proofs.Template.Reference

/-!
# Rendered nodes

* `Template.renderNode` — what rendering makes of a node; `Template.renderBy_eq_map` — a rendered
  flow is made of such nodes.
* `Template.renderNode_label?`, `Template.renderNode_func` — a rendered tab has the sensor's
  identifier as its label, and a rendered function node has the decoder under `func`.
* `Template.isProper_renderNode` — **rendering keeps the keys of a node unique**, and takes none of
  those that every node has for a property.
-/

set_option autoImplicit false

namespace UplinkFlow

theorem Node.label?_set (n : Node) (value : String) :
    (n.set "label" value).label? = some value := by
  simp [Node.label?, Node.set, Members.member?_insert, Json.asString?]

namespace Template

open NodeIdPattern (shifted)

variable {t : Template} {p : NodeIdPattern} {document : Json} {n : Nat} {emitter : Emitter}
  {sensor : Sensor} {layout : Layout} {node : Node}

/-- What rendering makes of a node. -/
def renderNode (p : NodeIdPattern) (emitter : Emitter) (n : Nat) (sensor : Sensor)
    (layout : Layout) (node : Node) : Node :=
  splice (emitter (Plan.of sensor layout)) sensor layout (node.rewrite (p.shift? n))

theorem renderBy_eq_map (h : ofJson document p = .ok t) :
    t.renderBy emitter n sensor layout =
      .ok (t.flow.map (renderNode p emitter n sensor layout)) := by
  rw [renderBy_eq_ok h, List.map_map]
  rfl

@[simp] theorem renderNode_id :
    (renderNode p emitter n sensor layout node).id = shifted p n node.id :=
  splice_id ..

@[simp] theorem renderNode_tab :
    (renderNode p emitter n sensor layout node).tab = node.tab.map (shifted p n) :=
  splice_tab ..

/-- Rendering makes no tabs and takes none away. -/
@[simp] theorem isTab_renderNode :
    (renderNode p emitter n sensor layout node).isTab = node.isTab := by
  have hkind : shifted p n node.kind = Node.tabKind ↔ node.kind = Node.tabKind :=
    shifted_eq_splicedKind_iff (by decide) n
  rw [Node.isTab, Node.isTab, renderNode, splice_kind, Bool.eq_iff_iff, beq_iff_eq, beq_iff_eq]
  exact hkind

theorem renderNode_label? (h : node.isTab = true) :
    (renderNode p emitter n sensor layout node).label? = some sensor.id := by
  have hkind : (node.rewrite (p.shift? n)).kind = Node.tabKind := by
    have htab : (renderNode p emitter n sensor layout node).isTab = true := by
      rwa [isTab_renderNode]
    rwa [Node.isTab, renderNode, splice_kind, beq_iff_eq] at htab
  rw [renderNode, splice, if_pos hkind, Node.label?_set]

/-- Rendering makes no function nodes and takes none away. -/
theorem renderNode_kind_eq_function_iff :
    (renderNode p emitter n sensor layout node).kind = Node.functionKind ↔
      node.kind = Node.functionKind := by
  rw [renderNode, splice_kind]
  exact shifted_eq_splicedKind_iff (by decide) n

theorem renderNode_func (h : node.kind = Node.functionKind) :
    (renderNode p emitter n sensor layout node).props.member? "func" =
      some (.str (emitter (Plan.of sensor layout))) := by
  have hkind : (node.rewrite (p.shift? n)).kind = Node.functionKind :=
    (shifted_eq_splicedKind_iff (by decide) n).mpr h
  rw [renderNode, splice_eq, hkind]
  show ((node.rewrite (p.shift? n)).set "func" _).props.member? "func" = _
  rw [Node.set, Members.member?_insert, if_pos rfl]

theorem notMem_of_mem_splicedKeys {kind key : String} (h : key ∈ splicedKeys kind) :
    key ∉ ["id", "type", "z"] := by
  have hall : ∀ key ∈ splicedKeys kind, key ∉ ["id", "type", "z"] := by
    unfold splicedKeys
    repeat' split
    all_goals decide
  exact hall key h

/-- What setting such a property preserves holds of the node that the sensor's data have gone
into. -/
theorem splice_preserves {P : Node → Prop} (h : P node) (decoder : String)
    (hset : ∀ node key value, key ∉ ["id", "type", "z"] → P node → P (node.set key value)) :
    P (splice decoder sensor layout node) := by
  have hfree : ∀ text ∈ splicedTexts decoder sensor layout node.kind,
      text.1 ∉ ["id", "type", "z"] := by
    intro text htext
    apply @notMem_of_mem_splicedKeys node.kind
    rw [← map_fst_splicedTexts decoder sensor layout]
    exact List.mem_map_of_mem htext
  rw [splice_eq]
  generalize splicedTexts decoder sensor layout node.kind = texts at hfree ⊢
  induction texts generalizing node with
  | nil => exact h
  | cons text texts ih =>
    obtain ⟨htext, htexts⟩ := List.forall_mem_cons.mp hfree
    exact ih (hset node text.1 text.2 htext h) htexts

theorem isProper_renderNode (h : node.IsProper) :
    (renderNode p emitter n sensor layout node).IsProper :=
  splice_preserves h.rewrite _ fun _ _ value hkey hnode => hnode.set hkey value

theorem isProper_flow (h : ofJson document p = .ok t) : ∀ node ∈ t.flow, node.IsProper :=
  Flow.isProper_of_reader (Reader.ofJson?_eq_some.mp (ofJson_eq_ok h).2)

end Template

end UplinkFlow
