import Mathlib.Data.List.Forall2
import UplinkFlow.Proofs.Engine.Matching
import UplinkFlow.Proofs.Engine.Protocol
import UplinkFlow.Proofs.Json.Equality

/-!
# What a deployment submits

* `HasUsableTab` — a flow in parts around its first tab, which has a label;
  `hasLabel_iff_hasUsableTab` — every flow with a label has such parts.
* `IsBody` — the document of nodes that are written for a tab each, or for none.
* `SubmitsFor` — the document that a listing leads to; `SubmitsFor.of_demands` — the change that the
  listing demands carries it.
* `deploy_content` — **whatever a deployment submits has all nodes but the first tab, as they are
  but for the tab that they belong to.**
-/

set_option autoImplicit false

namespace UplinkFlow

/-- The document of a node that is written for a tab or for none. -/
inductive Node.IsWritten (n : Node) : Option String → Json → Prop where
  | loose : n.IsWritten none (.obj (("id", .str n.id) :: ("type", .str n.kind) :: n.props))
  | onTab (tab : String) : n.IsWritten (some tab)
    (.obj (("id", .str n.id) :: ("type", .str n.kind) :: ("z", .str tab) :: n.props))

theorem Node.isWritten_toJson (n : Node) : n.IsWritten n.tab n.toJson := by
  obtain ⟨id, kind, tab, props⟩ := n
  cases tab with
  | none => exact .loose
  | some tab => exact .onTab tab

namespace Engine

variable {c : Client} {flow before after rest : Flow} {tab : Node} {label id : String}
  {listing : Listing} {log : Log} {request : Request} {deployment : Deployment} {body : Json}

/-! ## Flows -/

/-- The parts of a flow around its first tab, which has a label that is not empty. -/
structure HasUsableTab (flow before : Flow) (tab : Node) (after : Flow) (label : String) :
    Prop where
  parts : flow = before ++ tab :: after
  first : ∀ n ∈ before, n.kind ≠ "tab"
  kind : tab.kind = "tab"
  labelled : tab.props.member? "label" = some (.str label)
  notEmpty : label ≠ ""

theorem HasUsableTab.ofFlow?_eq (h : HasUsableTab flow before tab after label) :
    Submission.ofFlow? flow = some ⟨tab.id, label, before ++ after⟩ := by
  have htab : tab.isTab = true := beq_iff_eq.mpr h.kind
  have hbefore : ∀ n ∈ before, ¬n.isTab = true := by simpa [Node.isTab, Node.tabKind] using h.first
  have hfind : Flow.tab? flow = some tab := by
    rw [Flow.tab?, h.parts, List.find?_append, List.find?_eq_none.mpr hbefore, Option.none_or,
      List.find?_cons_of_pos htab]
  have hrest : Flow.withoutTab flow = before ++ after := by
    rw [Flow.withoutTab, h.parts, List.eraseP_append_right _ hbefore, List.eraseP_cons_of_pos htab]
  have hlabel : tab.label? = some label := bind_asString?_eq_some_iff.mpr h.labelled
  simp [Submission.ofFlow?, hfind, hrest, hlabel, h.notEmpty]

/-- The flows with a usable tab are those that have a label. -/
theorem hasLabel_iff_hasUsableTab :
    HasLabel flow label ↔ ∃ before tab after, HasUsableTab flow before tab after label := by
  constructor
  · rintro ⟨tab, htab, hlabel, hne⟩
    obtain ⟨hkind, before, after, hparts, hbefore⟩ := List.find?_eq_some_iff_append.mp htab
    refine ⟨before, tab, after, hparts, fun n hn => ?_, beq_iff_eq.mp hkind,
      bind_asString?_eq_some_iff.mp hlabel, hne⟩
    exact bne_iff_ne.mp (hbefore n hn)
  · rintro ⟨before, tab, after, h⟩
    exact hasLabel_iff.mpr ⟨_, h.ofFlow?_eq, rfl⟩

/-! ## Documents -/

/-- The document of an identifier, a label and nodes, each written for its place. -/
inductive IsBody (id label : String) (nodes : Flow) (place : Node → Option String) :
    Json → Prop where
  | intro (items : List Json)
    (written : List.Forall₂ (fun n item => n.IsWritten (place n) item) nodes items) :
    IsBody id label nodes place
      (.obj [("id", .str id), ("label", .str label), ("nodes", .arr items)])

theorem isBody_toJson (id label : String) (nodes : Flow) :
    IsBody id label nodes Node.tab (Submission.toJson ⟨id, label, nodes⟩) :=
  .intro _ (List.forall₂_map_right_iff.mpr (List.forall₂_same.mpr fun n _ => n.isWritten_toJson))

/-- Nodes that go to a tab are written as they are but for that tab. -/
theorem isBody_onto (sub : Submission) (id : String) :
    IsBody id sub.label sub.nodes (fun _ => some id) (sub.onto id).toJson := by
  refine .intro _ ?_
  rw [Submission.onto, List.forall₂_map_right_iff, List.forall₂_map_right_iff, List.forall₂_same]
  exact fun n _ => .onTab id

/-- What is submitted for a listing: all nodes on the first tab with the label, or, if there is no
such tab, each where it is in the flow. -/
inductive SubmitsFor (listing : Listing) (tab : Node) (label : String) (rest : Flow) :
    Json → Prop where
  | known {id : String} {body : Json} (first : listing.HasFirstTab label id)
    (content : IsBody id label rest (fun _ => some id) body) :
    SubmitsFor listing tab label rest body
  | new {body : Json} (unlisted : ∀ n ∈ listing, ¬n.IsTabOf label)
    (content : IsBody tab.id label rest Node.tab body) : SubmitsFor listing tab label rest body

/-- The change that a listing demands carries the document for it. -/
theorem SubmitsFor.of_demands
    (h : c.Demands ⟨tab.id, label, rest⟩ listing request deployment) :
    ∃ body, request.body = some body ∧ SubmitsFor listing tab label rest body := by
  cases h with
  | update id first => exact ⟨_, rfl, .known first (isBody_onto ⟨tab.id, label, rest⟩ id)⟩
  | create new => exact ⟨_, rfl, .new new (isBody_toJson tab.id label rest)⟩

/-! ## Deployments -/

/-- A deployment that asks for something has a client that can write its token down. -/
theorem isSendable_of_deploy {result : Except Fault Deployment}
    (h : (c.deploy flow).run.Logs log result) (hne : log ≠ []) : c.IsSendable := by
  by_contra hc
  have hlist {reads : Log} {result : Except Fault Listing} (h : c.list.run.Logs reads result) :
      reads = [] ∧ result = .error .transport :=
    unsent_checked_logs (fun hsendable => hc (Request.isSendable_iff.mp hsendable)) h
  unfold Client.deploy at h
  split at h
  · exact hne (Conversation.Logs.done_iff.mp h).1
  · rcases Conversation.Logs.andThen_cases h with ⟨fault, -, hfault⟩ | ⟨listing, _, _, hok, -⟩
    · exact hne (hlist hfault).1
    · cases (hlist hok).2

/-- What the requests of a deployment carry: nothing, until there is a listing; then the document
that the listing leads to. -/
structure SubmitsContent (c : Client) (tab : Node) (label : String) (rest : Flow) (log : Log) :
    Prop where
  sent : (∃ entry ∈ log, entry.1.body ≠ none) ↔ ∃ listing, c.HasListed log listing
  content : ∀ listing, c.HasListed log listing → ∀ entry ∈ log, ∀ body, entry.1.body = some body →
    SubmitsFor listing tab label rest body

theorem submitsContent_of_logs {result : Except Fault Deployment}
    (hsub : Submission.ofFlow? flow = some ⟨tab.id, label, rest⟩)
    (h : (c.deploy flow).run.Logs log result) : SubmitsContent c tab label rest log where
  sent := by
    constructor
    · rintro ⟨entry, hentry, hbody⟩
      rcases (deploy_demands hsub h).2 entry hentry with hlist | ⟨listing, deployment, hlisted, -⟩
      · rw [hlist] at hbody
        exact absurd rfl hbody
      · exact ⟨listing, hlisted⟩
    · rintro ⟨listing, hlisted⟩
      have hc := isSendable_of_deploy h hlisted.ne_nil
      obtain ⟨entry, hentry, deployment, hdemand⟩ := deploy_submits hc hsub h hlisted
      obtain ⟨body, hbody, -⟩ := SubmitsFor.of_demands hdemand
      exact ⟨entry, hentry, by simp [hbody]⟩
  content := by
    intro listing hlisted entry hentry body hbody
    have hc := isSendable_of_deploy h hlisted.ne_nil
    rcases (deploy_demands hsub h).2 entry hentry with hlist | ⟨_, _, -, hdemanded⟩
    · rw [hlist] at hbody
      cases hbody
    -- the change is the one that this listing demands, for there is no other change
    obtain ⟨sub, request, deployment, outcome, hsub', -, hdemand, hsends⟩ :=
      (deploy_course hc h).change (hasLabel_iff.mpr ⟨_, hsub, rfl⟩) hlisted
    obtain rfl := Option.some.inj (hsub.symm.trans hsub')
    have hchange : entry ∈ log.filter isChange :=
      List.mem_filter.mpr ⟨hentry, isChange_of_ne_get hdemanded.method_ne_get⟩
    obtain ⟨_, hrequest, hsubmits⟩ := SubmitsFor.of_demands hdemand
    rw [← hsends.request_eq hchange, hbody] at hrequest
    cases hrequest
    exact hsubmits

/-- **A deployment submits all nodes but the first tab.**  The client, the flow around its first tab
and what the engine does may be any. -/
theorem deploy_content (h : HasUsableTab flow before tab after label) (c : Client)
    (engine : Behaviour) :
    SubmitsContent c tab label (before ++ after) ((c.deploy flow).run.record engine).2 :=
  submitsContent_of_logs h.ofFlow?_eq (Conversation.record_logs engine _)

/-- A tab with a label and another property. -/
def sensorTab : Node :=
  ⟨"c3", "tab", none, [("disabled", .bool false), ("label", .str "sensorA")]⟩

/-- A flow with two tabs, of which the first stands behind a node. -/
def twoTabFlow : Flow :=
  [⟨"d4", "debug", some "c3", [("active", .bool true)]⟩, sensorTab,
    ⟨"e5", "mqtt-broker", none, [("will", .obj [("topic", .null)])]⟩,
    ⟨"f6", "tab", some "00", [("label", .str "sensorB")]⟩]

/-- The nodes go to the tab that is listed, the one without a tab and the other tab as well. -/
theorem deploy_content_twoTabs :
    HasUsableTab twoTabFlow (twoTabFlow.take 1) sensorTab (twoTabFlow.drop 2) "sensorA" ∧
      SubmitsContent tokenClient sensorTab "sensorA" (twoTabFlow.take 1 ++ twoTabFlow.drop 2)
        ((tokenClient.deploy twoTabFlow).run.record lateEngine).2 ∧
      (((tokenClient.deploy twoTabFlow).run.record lateEngine).2.map fun entry => entry.1.body) =
        [none, none, some (.obj [("id", .str "1b.a2"), ("label", .str "sensorA"), ("nodes", .arr [
          .obj [("id", .str "d4"), ("type", .str "debug"), ("z", .str "1b.a2"),
            ("active", .bool true)],
          .obj [("id", .str "e5"), ("type", .str "mqtt-broker"), ("z", .str "1b.a2"),
            ("will", .obj [("topic", .null)])],
          .obj [("id", .str "f6"), ("type", .str "tab"), ("z", .str "1b.a2"),
            ("label", .str "sensorB")]])])] := by
  have htab : HasUsableTab twoTabFlow (twoTabFlow.take 1) sensorTab (twoTabFlow.drop 2) "sensorA" :=
    ⟨rfl, by decide, rfl, rfl, by decide⟩
  refine ⟨htab, deploy_content htab tokenClient lateEngine, ?_⟩
  simp only [Client.deploy, Client.list, Client.submit,
    send_eq (tokenClient_isSendable.isSendable _ _ _)]
  decide +kernel

/-- With an engine that lists nothing, every node keeps the tab that it has, or has none. -/
example :
    (((tokenClient.deploy twoTabFlow).run.record fun _ request =>
        .answered ⟨200, .whole (if request.method = .get then [91, 93] else [])⟩).2.map fun entry =>
          entry.1.body) =
      [none, some (.obj [("id", .str "c3"), ("label", .str "sensorA"), ("nodes", .arr [
        .obj [("id", .str "d4"), ("type", .str "debug"), ("z", .str "c3"), ("active", .bool true)],
        .obj [("id", .str "e5"), ("type", .str "mqtt-broker"), ("will", .obj [("topic", .null)])],
        .obj [("id", .str "f6"), ("type", .str "tab"), ("z", .str "00"),
          ("label", .str "sensorB")]])])] := by
  simp only [Client.deploy, Client.list, Client.submit,
    send_eq (tokenClient_isSendable.isSendable _ _ _)]
  decide +kernel

end Engine

end UplinkFlow
