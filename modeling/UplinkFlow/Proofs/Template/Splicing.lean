import UplinkFlow.Proofs.Json.Replacement
import UplinkFlow.Proofs.Json.Update
import UplinkFlow.Proofs.Template.RenderedNode

/-!
# What rendering changes in a node

* `Template.splicedMembers` — what the texts that a node takes are as members, in the order in which
  it takes them; `Template.splice_eq_storeAll` — splicing stores them and leaves it at that.
* `Template.IsRendered` — a node of a rendered flow beside the node of the template: all strings of
  that node are moved, and then the texts go into the properties as they are.
* `Template.isRendered_iff` — that leaves nothing open: one node only is the rendered one.
* `Template.SameButDecoder` — nodes that differ in the decoder of a function node at most.
* `Template.rendering_frame` — **rendering touches nothing else**, and flows that are rendered with
  two emitters differ in the decoder at most.
-/

set_option autoImplicit false

namespace UplinkFlow.Template

open NodeIdPattern (shifted)

variable {t : Template} {p : NodeIdPattern} {document : Json} {n : Nat} {emitter : Emitter}
  {sensor : Sensor} {layout : Layout} {node : Node}

/-! ## The texts that a node takes -/

/-- The changes that the texts of a type are to the properties: each stands there as it is. -/
def splicedMembers (decoder : String) (sensor : Sensor) (layout : Layout) (kind : String) :
    Members :=
  (splicedTexts decoder sensor layout kind).map fun text => (text.1, .str text.2)

theorem foldl_set (texts : List (String × String)) (node : Node) :
    texts.foldl (fun n text => n.set text.1 text.2) node =
      { node with props := node.props.storeAll (texts.map fun text => (text.1, .str text.2)) } := by
  induction texts generalizing node with
  | nil => rfl
  | cons text texts ih => exact ih (node.set text.1 text.2)

theorem splice_eq_storeAll (decoder : String) (node : Node) : splice decoder sensor layout node =
    { node with props := node.props.storeAll (splicedMembers decoder sensor layout node.kind) } := by
  rw [splice_eq, foldl_set, splicedMembers]

theorem splicedMembers_shifted (decoder kind : String) :
    splicedMembers decoder sensor layout (shifted p n kind) =
      splicedMembers decoder sensor layout kind := by
  have hkind : ∀ spliced ∈ splicedKinds, shifted p n kind = spliced ↔ kind = spliced := by
    intro spliced hspliced
    exact shifted_eq_splicedKind_iff hspliced n
  simp only [splicedKinds, List.forall_mem_cons] at hkind
  obtain ⟨htab, huplink, happ, hfunction, hstore, -⟩ := hkind
  simp only [splicedMembers, splicedTexts, htab, huplink, happ, hfunction, hstore]

theorem splicedMembers_of_ne {kind : String} (h : kind ≠ Node.functionKind)
    (decoder decoder' : String) :
    splicedMembers decoder sensor layout kind = splicedMembers decoder' sensor layout kind := by
  simp only [splicedMembers, splicedTexts, if_neg h]

theorem splicedMembers_function (decoder : String) :
    splicedMembers decoder sensor layout Node.functionKind = [("func", .str decoder)] := rfl

/-! ## Rendered nodes -/

/-- A node of a rendered flow beside the node of the template in its place.

* `id`, `kind`, `tab` — these are moved by the number;
* `props` — every string in the properties is moved, however deep it lies, and nothing else in them
  changes; then the sensor's data are stored as they are. -/
structure IsRendered (p : NodeIdPattern) (n : Nat) (decoder : String) (sensor : Sensor)
    (layout : Layout) (node x : Node) : Prop where
  id : x.id = shifted p n node.id
  kind : x.kind = shifted p n node.kind
  tab : x.tab = node.tab.map (shifted p n)
  props : ∃ moved : Members, node.props.Replaced (p.shift? n) moved ∧
    moved.IsUpdated (splicedMembers decoder sensor layout node.kind) x.props

theorem renderNode_eq : renderNode p emitter n sensor layout node =
    ⟨shifted p n node.id, shifted p n node.kind, node.tab.map (shifted p n),
      (node.props.rewrite (p.shift? n)).storeAll
        (splicedMembers (emitter (Plan.of sensor layout)) sensor layout node.kind)⟩ := by
  have hkind : splicedMembers (emitter (Plan.of sensor layout)) sensor layout
      (node.rewrite (p.shift? n)).kind =
        splicedMembers (emitter (Plan.of sensor layout)) sensor layout node.kind :=
    splicedMembers_shifted ..
  rw [renderNode, splice_eq_storeAll, hkind]
  rfl

/-- **A node is the rendered one exactly if it stands so beside the node of the template.** -/
theorem isRendered_iff (h : node.IsProper) {x : Node} :
    IsRendered p n (emitter (Plan.of sensor layout)) sensor layout node x ↔
      x = renderNode p emitter n sensor layout node := by
  have hdistinct : (node.props.rewrite (p.shift? n)).HasDistinctKeys :=
    (Json.hasUniqueKeys_obj.mp h.rewrite.unique).1
  rw [renderNode_eq]
  constructor
  · intro hx
    obtain ⟨moved, hmoved, hprops⟩ := hx.props
    rw [Members.replaced_iff] at hmoved
    subst hmoved
    rw [Members.isUpdated_iff hdistinct] at hprops
    obtain ⟨id, kind, tab, props⟩ := x
    simp only [Node.mk.injEq]
    exact ⟨hx.id, hx.kind, hx.tab, hprops⟩
  · rintro rfl
    exact ⟨rfl, rfl, rfl, _, Members.replaced_iff.mpr rfl, Members.isUpdated_storeAll ..⟩

/-- A flow consists of the rendered nodes exactly if each of its nodes stands so in its place. -/
theorem forall₂_isRendered_iff {flow F : Flow} (h : ∀ node ∈ flow, node.IsProper) :
    List.Forall₂ (IsRendered p n (emitter (Plan.of sensor layout)) sensor layout) flow F ↔
      F = flow.map (renderNode p emitter n sensor layout) := by
  induction flow generalizing F with
  | nil => exact List.forall₂_nil_left_iff
  | cons node flow ih =>
    obtain ⟨hnode, hflow⟩ := List.forall_mem_cons.mp h
    rw [List.forall₂_cons_left_iff, List.map_cons]
    constructor
    · rintro ⟨x, rest, hx, hrest, rfl⟩
      rw [(isRendered_iff hnode).mp hx, (ih hflow).mp hrest]
    · intro hF
      exact ⟨_, _, (isRendered_iff hnode).mpr rfl, (ih hflow).mpr rfl, hF⟩

/-! ## Two emitters -/

/-- Two nodes that differ in the decoder of a function node at most.  The property is in the same
place of both. -/
inductive SameButDecoder (x : Node) : Node → Prop where
  | same : SameButDecoder x x
  | decoder {props : Members} (function : x.kind = Node.functionKind)
      (keys : props.map Prod.fst = x.props.map Prod.fst)
      (others : ∀ key, key ≠ "func" → props.member? key = x.props.member? key) :
      SameButDecoder x { x with props := props }

theorem sameButDecoder_renderNode (emitter emitter' : Emitter) :
    SameButDecoder (renderNode p emitter n sensor layout node)
      (renderNode p emitter' n sensor layout node) := by
  rw [renderNode_eq, renderNode_eq]
  by_cases hfunction : node.kind = Node.functionKind
  · have hkind : shifted p n node.kind = Node.functionKind :=
      (shifted_eq_splicedKind_iff (by decide) n).mpr hfunction
    apply SameButDecoder.decoder hkind
    · simp only [hfunction, splicedMembers_function, Members.map_fst_storeAll, List.map_cons,
        List.map_nil]
    · intro key hkey
      simp only [hfunction, splicedMembers_function, Members.storeAll_cons, Members.storeAll_nil,
        Members.member?_insert, if_neg hkey]
  · rw [splicedMembers_of_ne hfunction _ (emitter' (Plan.of sensor layout))]
    exact .same

/-! ## Rendered flows -/

/-- **Rendering touches nothing else.**  An accepted template renders with every emitter, number,
sensor and layout, and a flow is the rendered one exactly if each of its nodes stands beside the
node of the template in its place as `IsRendered` says: all strings are moved, and then the data of
the sensor go into the properties of its type as they are, even if they are written like
identifiers.  So the flows of two emitters differ at most in the decoders of function nodes. -/
theorem rendering_frame (haccept : ofJson document p = .ok t) (n : Nat) (sensor : Sensor)
    (layout : Layout) :
    (∀ emitter : Emitter,
      (∃ F, t.renderBy emitter n sensor layout = .ok F) ∧
      ∀ F, t.renderBy emitter n sensor layout = .ok F ↔
        List.Forall₂ (IsRendered p n (emitter (Plan.of sensor layout)) sensor layout) t.flow F) ∧
    ∀ (emitter emitter' : Emitter) (F F' : Flow),
      t.renderBy emitter n sensor layout = .ok F → t.renderBy emitter' n sensor layout = .ok F' →
        List.Forall₂ SameButDecoder F F' := by
  constructor
  · intro emitter
    refine ⟨⟨_, renderBy_eq_map haccept⟩, ?_⟩
    intro F
    rw [renderBy_eq_map haccept, Except.ok.injEq, forall₂_isRendered_iff (isProper_flow haccept)]
    exact eq_comm
  · intro emitter emitter' F F' hF hF'
    rw [renderBy_eq_map haccept] at hF hF'
    obtain rfl := Except.ok.inj hF
    obtain rfl := Except.ok.inj hF'
    rw [List.forall₂_map_left_iff, List.forall₂_map_right_iff, List.forall₂_same]
    intro node _
    exact sameButDecoder_renderNode emitter emitter'

/-- A document of a tab whose label stands between other properties, the access to a network, and a
function of that tab. -/
def prelabelled : Json :=
  .arr [.obj [("id", .str "aaaaaaaa.000001"), ("type", .str "tab"), ("disabled", .bool false),
      ("label", .str "aaaaaaaa.00000a"), ("info", .str "aaaaaaaa.00000b")],
    .obj [("id", .str "aaaaaaaa.000002"), ("type", .str "ttn app"), ("accessKey", .null)],
    .obj [("id", .str "aaaaaaaa.000003"), ("type", .str "function"), ("z", .str "aaaaaaaa.000001"),
      ("wires", .arr [.arr [.str "aaaaaaaa.000002"]])]]

/-- A sensor whose identifier, and a decoder that, are written like identifiers of nodes: the
strings of the template are moved, and these two are not.  The label and the key stay in their
places, and the other data come last. -/
theorem rendering_frame_disguised :
    let t : Template := ⟨prelabelled, .legacy⟩
    let sensor : Sensor := { sampleSensor with id := "aaaaaaaa.000001" }
    ofJson prelabelled .legacy = .ok t ∧
      t.renderBy (fun _ => "aaaaaaaa.00000c") 7 sensor sampleLayout =
        .ok [⟨"aaaaaaaa.000008", "tab", none, [("disabled", .bool false),
            ("label", .str "aaaaaaaa.000001"), ("info", .str "aaaaaaaa.000012")]⟩,
          ⟨"aaaaaaaa.000009", "ttn app", none,
            [("accessKey", .str "key"), ("appId", .str "farm-app")]⟩,
          ⟨"aaaaaaaa.00000a", "function", some "aaaaaaaa.000008",
            [("wires", .arr [.arr [.str "aaaaaaaa.000009"]]), ("func", .str "aaaaaaaa.00000c")]⟩] ∧
      ∃ F F', t.renderBy (fun _ => "aaaaaaaa.00000c") 7 sensor sampleLayout = .ok F ∧
        t.renderBy scriptEmitter 7 sensor sampleLayout = .ok F' ∧
        List.Forall₂ SameButDecoder F F' := by
  intro t sensor
  have haccept : ofJson prelabelled .legacy = .ok t := rfl
  have hflow : t.flow = [⟨"aaaaaaaa.000001", "tab", none, [("disabled", .bool false),
        ("label", .str "aaaaaaaa.00000a"), ("info", .str "aaaaaaaa.00000b")]⟩,
      ⟨"aaaaaaaa.000002", "ttn app", none, [("accessKey", .null)]⟩,
      ⟨"aaaaaaaa.000003", "function", some "aaaaaaaa.000001",
        [("wires", .arr [.arr [.str "aaaaaaaa.000002"]])]⟩] := rfl
  have hlabel : NodeIdPattern.legacy.shift? 7 "aaaaaaaa.00000a" = some "aaaaaaaa.000011" := by
    decide +kernel
  have hinfo : NodeIdPattern.legacy.shift? 7 "aaaaaaaa.00000b" = some "aaaaaaaa.000012" := by
    decide +kernel
  have hwire : NodeIdPattern.legacy.shift? 7 "aaaaaaaa.000002" = some "aaaaaaaa.000009" := by
    decide +kernel
  have htab : Members.Replaced (NodeIdPattern.legacy.shift? 7)
      [("disabled", .bool false), ("label", .str "aaaaaaaa.00000a"), ("info", .str "aaaaaaaa.00000b")]
      [("disabled", .bool false), ("label", .str "aaaaaaaa.000011"),
        ("info", .str "aaaaaaaa.000012")] :=
    ⟨rfl, .cons (.bool false) (.cons (.moved hlabel) (.cons (.moved hinfo) .nil))⟩
  have happ : Members.Replaced (NodeIdPattern.legacy.shift? 7) [("accessKey", .null)]
      [("accessKey", .null)] := ⟨rfl, .cons .null .nil⟩
  have hfunction : Members.Replaced (NodeIdPattern.legacy.shift? 7)
      [("wires", .arr [.arr [.str "aaaaaaaa.000002"]])]
      [("wires", .arr [.arr [.str "aaaaaaaa.000009"]])] :=
    ⟨rfl, .cons (.arr (.cons (.arr (.cons (.moved hwire) .nil)) .nil)) .nil⟩
  obtain ⟨hrender, htwo⟩ := rendering_frame haccept 7 sensor sampleLayout
  refine ⟨haccept, ((hrender _).2 _).mpr ?_, ?_⟩
  · rw [hflow]
    refine .cons ⟨?_, ?_, rfl, _, htab, Members.isUpdated_storeAll ..⟩
      (.cons ⟨?_, ?_, rfl, _, happ, Members.isUpdated_storeAll ..⟩
        (.cons ⟨?_, ?_, ?_, _, hfunction, Members.isUpdated_storeAll ..⟩ .nil))
    all_goals decide +kernel
  · obtain ⟨F, hF⟩ := (hrender fun _ => "aaaaaaaa.00000c").1
    obtain ⟨F', hF'⟩ := (hrender scriptEmitter).1
    exact ⟨F, F', hF, hF', htwo _ _ F F' hF hF'⟩

end UplinkFlow.Template
