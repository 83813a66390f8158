import UplinkFlow.Proofs.Engine.Matching
import UplinkFlow.Proofs.Template.RenderedNode

/-!
# Deploying a rendered flow

* `Template.ofFlow?_rendered` — the submission of a rendered flow, whose label is the sensor's
  identifier.
* `Template.IsSubmitted` — the document that is submitted for a rendered flow.
* `Template.deploys_under_identifier` — **a rendered flow can be deployed, under the identifier of
  its sensor, and a deletion under that identifier looks for the same label**; the nodes of the
  first tab come with it to whatever flow they are submitted for.
-/

set_option autoImplicit false

namespace UplinkFlow

theorem Sensor.id_ne_empty {sensor : Sensor} (h : sensor.validate = .ok ()) : sensor.id ≠ "" := by
  intro hempty
  rw [Sensor.validate, if_pos (by simp [hempty])] at h
  cases h

namespace Template

open Engine (Behaviour Client Listing Submission)
open NodeIdPattern (shifted)

variable {t : Template} {p : NodeIdPattern} {document : Json} {n : Nat} {emitter : Emitter}
  {sensor : Sensor} {layout : Layout} {node tab : Node}

/-! ## The submission of a rendered flow -/

theorem exists_tab (h : ofJson document p = .ok t) : ∃ tab, t.flow.tab? = some tab := by
  obtain ⟨rfl, hflow⟩ := ofJson_eq_ok h
  rw [ofJson, hflow] at h
  cases htab : (flow ⟨document, p⟩).tab? with
  | none => simp [htab] at h
  | some tab => exact ⟨tab, rfl⟩

theorem tab?_rendered : Flow.tab? (t.flow.map (renderNode p emitter n sensor layout)) =
    t.flow.tab?.map (renderNode p emitter n sensor layout) := by
  simp only [Flow.tab?, List.find?_map, Function.comp_def, isTab_renderNode]

theorem withoutTab_rendered : Flow.withoutTab (t.flow.map (renderNode p emitter n sensor layout)) =
    t.flow.withoutTab.map (renderNode p emitter n sensor layout) := by
  simp [Flow.withoutTab, List.eraseP_map, Function.comp_def]

theorem ofFlow?_rendered (htab : t.flow.tab? = some tab) (hsensor : sensor.validate = .ok ()) :
    Submission.ofFlow? (t.flow.map (renderNode p emitter n sensor layout)) =
      some ⟨shifted p n tab.id, sensor.id,
        t.flow.withoutTab.map (renderNode p emitter n sensor layout)⟩ := by
  have hlabel : (renderNode p emitter n sensor layout tab).label? = some sensor.id :=
    renderNode_label? (List.find?_some htab)
  rw [Submission.ofFlow?, tab?_rendered, htab, withoutTab_rendered]
  simp [hlabel, Sensor.id_ne_empty hsensor]

/-- The document that is submitted for a rendered flow, under an identifier: it has the sensor's
label, and the nodes of the template apart from the first tab, moved by the number; those that
belonged to that tab belong to the flow with the identifier. -/
def IsSubmitted (t : Template) (p : NodeIdPattern) (n : Nat) (tab : Node) (label id : String)
    (body : Json) : Prop :=
  ∃ items, body = .obj [("id", .str id), ("label", .str label), ("nodes", .arr items)] ∧
    List.Forall₂ (fun node item => item.at? [.key "id"] = some (.str (shifted p n node.id)) ∧
      (node.tab = some tab.id → item.at? [.key "z"] = some (.str id))) t.flow.withoutTab items

theorem isSubmitted_of_nodes {label id : String} (haccept : ofJson document p = .ok t)
    {place : Node → Node} (hid : ∀ node, (place node).id = shifted p n node.id)
    (hproper : ∀ node : Node, node.IsProper → (place node).IsProper)
    (htab : ∀ node, node.tab = some tab.id → (place node).tab = some id) :
    IsSubmitted t p n tab label id
      (Submission.toJson ⟨id, label, t.flow.withoutTab.map place⟩) := by
  refine ⟨_, rfl, ?_⟩
  rw [List.map_map, List.forall₂_map_right_iff, List.forall₂_same]
  intro node hnode
  have hmem : node ∈ t.flow := List.mem_of_mem_eraseP hnode
  have hfree : ∀ key ∈ ["id", "type", "z"], (place node).props.last? key = none :=
    fun key hkey =>
      Members.last?_eq_none ((hproper node (isProper_flow haccept node hmem)).free key hkey)
  obtain ⟨hlast, -, hz⟩ := Node.last?_members_of_free hfree
  refine ⟨?_, fun hnode => ?_⟩
  · simp [Node.toJson_eq, Json.at?, hlast, hid]
  · simp [Node.toJson_eq, Json.at?, hz, htab node hnode]

/-- A flow is deployed as the submission `sub`, under a label.

* `labelled`, `named` — that is its submission, and that its label;
* `wellFormed` — the flow is never found malformed;
* `asks` — a deployment asks for the listing and for what the listing demands, which depends on
  where it has the label;
* `submits` — it does ask for that, once it has a listing;
* `created`, `updated` — what is submitted;
* `removes` — a deletion under the label removes the flow whose tab has it. -/
structure DeploysAs (t : Template) (p : NodeIdPattern) (n : Nat) (tab : Node) (F : Flow)
    (label : String) (sub : Submission) : Prop where
  labelled : Submission.ofFlow? F = some sub
  named : sub.label = label
  wellFormed : ∀ (c : Client) (engine : Behaviour),
    ((c.deploy F).run.record engine).1 ≠ .error .malformedFlow
  asks : ∀ (c : Client) (engine : Behaviour), ∀ entry ∈ ((c.deploy F).run.record engine).2,
    entry.1 = c.listRequest ∨ ∃ listing deployment,
      c.HasListed ((c.deploy F).run.record engine).2 listing ∧
        c.Demands sub listing entry.1 deployment
  submits : ∀ (c : Client) (engine : Behaviour) (listing : Listing), c.IsSendable →
    c.HasListed ((c.deploy F).run.record engine).2 listing →
      ∃ entry ∈ ((c.deploy F).run.record engine).2, ∃ deployment,
        c.Demands sub listing entry.1 deployment
  created : ∀ c : Client, ∃ body, (c.createRequest sub).body = some body ∧
    IsSubmitted t p n tab label (shifted p n tab.id) body
  updated : ∀ (c : Client) (id : String), ∃ body, (c.updateRequest sub id).body = some body ∧
    IsSubmitted t p n tab label id body
  removes : ∀ (c : Client) (engine : Behaviour),
    ∀ entry ∈ ((c.delete label).run.record engine).2, entry.1 = c.listRequest ∨
      ∃ listing id, c.HasListed ((c.delete label).run.record engine).2 listing ∧
        listing.HasFirstTab label id ∧ entry.1 = c.deleteRequest id

/-- **A rendered flow can be deployed under the identifier of its sensor.**  Whatever the template,
the number, the layout and the valid sensor, and whatever the client and the engine, its deployment
looks for the sensor's identifier as a label and submits the flow under it, where a deletion finds
it; the nodes that belonged to the template's first tab belong to the flow that is created or
replaced. -/
theorem deploys_under_identifier (haccept : ofJson document p = .ok t)
    (hsensor : sensor.validate = .ok ()) (emitter : Emitter) (n : Nat) (layout : Layout) :
    ∃ (F : Flow) (tab : Node) (sub : Submission), t.renderBy emitter n sensor layout = .ok F ∧
      t.flow.tab? = some tab ∧ DeploysAs t p n tab F sensor.id sub := by
  obtain ⟨tab, htab⟩ := exists_tab haccept
  have hsub : Submission.ofFlow? (t.flow.map (renderNode p emitter n sensor layout)) = some _ :=
    ofFlow?_rendered htab hsensor
  refine ⟨_, tab, _, renderBy_eq_map haccept, htab, ⟨hsub, rfl, ?_, ?_, ?_, ?_, ?_, ?_⟩⟩
  · exact fun c engine =>
      (Engine.deploy_demands hsub (Engine.Conversation.record_logs engine _)).1
  · exact fun c engine =>
      (Engine.deploy_demands hsub (Engine.Conversation.record_logs engine _)).2
  · exact fun c engine listing hc hlisted =>
      Engine.deploy_submits hc hsub (Engine.Conversation.record_logs engine _) hlisted
  · refine fun c => ⟨_, rfl, isSubmitted_of_nodes haccept (fun node => ?_)
      (fun node => isProper_renderNode) fun node hnode => ?_⟩
    · exact renderNode_id
    · rw [renderNode_tab, hnode, Option.map_some]
  · intro c id
    have honto : Submission.onto ⟨shifted p n tab.id, sensor.id,
        t.flow.withoutTab.map (renderNode p emitter n sensor layout)⟩ id =
        ⟨id, sensor.id, t.flow.withoutTab.map fun node =>
          { renderNode p emitter n sensor layout node with tab := some id }⟩ := by
      simp [Submission.onto, Function.comp_def]
    rw [Client.updateRequest, honto]
    refine ⟨_, rfl, isSubmitted_of_nodes haccept (fun node => ?_) (fun node h => ?_) fun _ _ => rfl⟩
    · exact renderNode_id
    · exact ⟨(isProper_renderNode h).unique, (isProper_renderNode h).free⟩
  · exact fun c engine entry he =>
      Engine.delete_removes (Engine.Conversation.record_logs engine _) he

/-- A document of two tabs, neither of which has a label, and a node of the first one. -/
def twoTabs : Json :=
  .arr [.obj [("id", .str "aaaaaaaa.000001"), ("type", .str "tab")],
    .obj [("id", .str "aaaaaaaa.000002"), ("type", .str "tab"), ("z", .null)],
    .obj [("id", .str "aaaaaaaa.000003"), ("type", .str "function"), ("z", .str "aaaaaaaa.000001")]]

/-- A sensor whose identifier looks like that of a node. -/
def disguisedSensor : Sensor := { sampleSensor with id := "aaaaaaaa.000001" }

/-- The identifier that looks like a node's is the label all the same, and the node of the first tab
goes where the flow goes. -/
theorem deploys_under_identifier_disguised :
    ∃ (t : Template) (F : Flow) (tab : Node) (sub : Submission), ofJson twoTabs .legacy = .ok t ∧
      t.renderBy scriptEmitter 7 disguisedSensor sampleLayout = .ok F ∧
      DeploysAs t .legacy 7 tab F "aaaaaaaa.000001" sub ∧
      ∀ c : Client, ∃ second node : Json, (c.updateRequest sub "1b.a2").body =
        some (.obj [("id", .str "1b.a2"), ("label", .str "aaaaaaaa.000001"),
          ("nodes", .arr [second, node])]) ∧ node.at? [.key "z"] = some (.str "1b.a2") := by
  obtain ⟨t, ht⟩ : ∃ t, t = (⟨twoTabs, .legacy⟩ : Template) := ⟨_, rfl⟩
  have haccept : ofJson twoTabs .legacy = .ok t := ht ▸ rfl
  have hsensor : disguisedSensor.validate = .ok () := rfl
  obtain ⟨F, tab, sub, hF, htab, hdeploys⟩ :=
    deploys_under_identifier haccept hsensor scriptEmitter 7 sampleLayout
  refine ⟨t, F, tab, sub, haccept, hF, hdeploys, fun c => ?_⟩
  obtain ⟨body, hbody, items, rfl, hitems⟩ := hdeploys.updated c "1b.a2"
  have hflow : t.flow = [⟨"aaaaaaaa.000001", "tab", none, []⟩, ⟨"aaaaaaaa.000002", "tab", none, []⟩,
      ⟨"aaaaaaaa.000003", "function", some "aaaaaaaa.000001", []⟩] := ht ▸ rfl
  rw [hflow] at htab hitems
  obtain rfl : ⟨"aaaaaaaa.000001", "tab", none, []⟩ = tab := Option.some.inj htab
  obtain _ | ⟨-, _ | ⟨hnode, _ | _⟩⟩ := hitems
  exact ⟨_, _, hbody, hnode.2 rfl⟩

end Template

end UplinkFlow
