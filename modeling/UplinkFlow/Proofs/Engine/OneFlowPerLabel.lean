import UplinkFlow.Proofs.Engine.Operation
import UplinkFlow.Proofs.Json.Equality

/-!
# One flow per label

* `Run` — operations of any clients on one engine, one after the other.
* `Step.IsCorrect` — what one operation guarantees.
* `one_flow_per_label` — **no label ever stands for two flows, whatever is refused on the way.**
-/

set_option autoImplicit false

namespace UplinkFlow.Engine

variable {mount label : String} {s s' : Store} {visited : List Store}

/-- An operation of a client. -/
inductive Operation where
  | deploy (flow : Flow)
  | delete (label : String)

/-- What a successful operation has done. -/
inductive Report where
  | deployed (deployment : Deployment)
  | deleted (deletion : Deletion)

def Operation.exchange (c : Client) : Operation → Exchange Report
  | .deploy flow => do
    let deployment ← c.deploy flow
    return .deployed deployment
  | .delete label => do
    let deletion ← c.delete label
    return .deleted deletion

/-- The label that an operation is about.  A flow without a labelled tab has none. -/
def Operation.label? : Operation → Option String
  | .deploy flow => (Submission.ofFlow? flow).map (·.label)
  | .delete label => some label

/-- An operation that has been carried out: the stores before and after it and after each of its
requests. -/
structure Step where
  client : Client
  operation : Operation
  before : Store
  visited : List Store
  after : Store
  result : Except Fault Report

/-- A run of operations on an engine. -/
inductive Run (mount : String) : Store → List Step → Prop where
  | nil (s : Store) : Run mount s []
  | cons {step : Step} {rest : List Step}
    (talk : Talks mount (step.operation.exchange step.client).run step.before step.visited
      step.after step.result)
    (next : Run mount step.after rest) : Run mount step.before (step :: rest)

/-- What an operation guarantees.

* `unique` — at no time does a label stand for two flows;
* `deployed` — after a successful deployment there is one flow with the label, and it has the
  submitted nodes;
* `deleted` — after a successful deletion there is none;
* `others` — the flows of other labels are the same all the time. -/
structure Step.IsCorrect (step : Step) : Prop where
  unique : ∀ st ∈ step.before :: step.after :: step.visited, st.HasDistinctLabels
  deployed : ∀ flow report, step.operation = .deploy flow → step.result = .ok report →
    ∃ sub deployment held, Submission.ofFlow? flow = some sub ∧ report = .deployed deployment ∧
      step.after.labelled sub.label = [held] ∧
      held.nodes = Flow.toJson (sub.nodesAfter held.id deployment)
  deleted : ∀ label report, step.operation = .delete label → step.result = .ok report →
    step.after.labelled label = []
  others : ∀ label, step.operation.label? ≠ some label →
    ∀ st ∈ step.after :: step.visited, st.labelled label = step.before.labelled label

theorem report_cases {α : Type} {x : Exchange α} {report : α → Report}
    {result : Except Fault Report}
    (h : Talks mount (do
      let a ← x
      return report a : Exchange Report).run s visited s' result) :
    ∃ result', Talks mount x.run s visited s' result' ∧ result = result'.map report := by
  rcases Talks.andThen_cases h with ⟨fault, rfl, hx⟩ | ⟨a, s₁, before, after, hx, hdone, rfl⟩
  · exact ⟨_, hx, rfl⟩
  · obtain ⟨rfl, rfl, rfl⟩ := Talks.done_iff.mp hdone
    rw [List.append_nil]
    exact ⟨_, hx, rfl⟩

/-- A change under one label shows at no time under another one, and no label stands for two flows
meanwhile. -/
theorem visited_cases (hs : s.IsTidy) (hchange : Store.Change label s s')
    (hvisited : ∀ st ∈ visited, st = s ∨ st = s') :
    (∀ st ∈ s :: s' :: visited, st.HasDistinctLabels) ∧
      ∀ label', label' ≠ label → ∀ st ∈ s' :: visited, st.labelled label' = s.labelled label' := by
  have hs' := hchange.isTidy hs
  constructor
  · intro st hst
    rcases List.mem_cons.mp hst with rfl | hst
    · exact hs.labels
    · rcases List.mem_cons.mp hst with rfl | hst
      · exact hs'.labels
      · rcases hvisited st hst with rfl | rfl
        · exact hs.labels
        · exact hs'.labels
  · intro label' hne st hst
    have hother := hchange.labelled_eq hs.toIsSound hne
    rcases List.mem_cons.mp hst with rfl | hst
    · exact hother
    · rcases hvisited st hst with rfl | rfl
      · rfl
      · exact hother

/-- One operation keeps the engine in order and does what it says. -/
theorem step_correct {step : Step} (hs : step.before.IsTidy)
    (h : Talks mount (step.operation.exchange step.client).run step.before step.visited step.after
      step.result) : step.after.IsTidy ∧ step.IsCorrect := by
  obtain ⟨c, operation, s, visited, s', result⟩ := step
  dsimp only at hs h ⊢
  cases operation with
  | deploy flow =>
    obtain ⟨result, hdeploy, rfl⟩ := report_cases h
    rcases deploy_cases hs hdeploy with
      ⟨hflow, rfl, rfl, rfl⟩ | ⟨sub, hflow, hvisited, hchange, hok⟩
    · refine ⟨hs, ⟨?_, ?_, ?_, ?_⟩⟩
      · simpa using hs.labels
      · exact fun _ _ _ hresult => by cases hresult
      · exact fun _ _ hdelete => by cases hdelete
      · simp
    · obtain ⟨hunique, hothers⟩ := visited_cases hs hchange hvisited
      refine ⟨hchange.isTidy hs, ⟨hunique, ?_, ?_, ?_⟩⟩
      · intro flow' report hflow' hresult
        cases hflow'
        cases result with
        | error fault => cases hresult
        | ok deployment =>
          obtain ⟨held, honly, hnodes⟩ := hok deployment rfl
          exact ⟨sub, deployment, held, hflow, (Except.ok.inj hresult).symm, honly, hnodes⟩
      · exact fun _ _ hdelete => by cases hdelete
      · intro label' hne
        refine hothers label' fun heq => hne ?_
        simp [Operation.label?, hflow, heq]
  | delete label =>
    obtain ⟨result, hdelete, rfl⟩ := report_cases h
    obtain ⟨hvisited, hchange, hok⟩ := delete_cases hs hdelete
    obtain ⟨hunique, hothers⟩ := visited_cases hs hchange hvisited
    refine ⟨hchange.isTidy hs, ⟨hunique, ?_, ?_, ?_⟩⟩
    · exact fun _ _ hdeploy => by cases hdeploy
    · intro label' report hlabel hresult
      cases hlabel
      cases result with
      | error fault => cases hresult
      | ok deletion => exact hok deletion rfl
    · intro label' hne
      refine hothers label' fun heq => hne ?_
      simp [Operation.label?, heq]

/-- **No label ever stands for two flows.**  Whatever clients deploy and delete on an engine whose
flows have different labels and different identifiers, and whatever is refused on the way, every
operation of the run is correct. -/
theorem one_flow_per_label {steps : List Step} (hs : s.IsTidy) (hrun : Run mount s steps) :
    ∀ step ∈ steps, step.IsCorrect := by
  induction hrun with
  | nil s => simp
  | cons talk next ih =>
    obtain ⟨htidy, hcorrect⟩ := step_correct hs talk
    intro step hstep
    rcases List.mem_cons.mp hstep with rfl | hstep
    · exact hcorrect
    · exact ih htidy step hstep

def sampleClient : Client :=
  ⟨⟨false, "", "localhost", some 1880, .root, none, none⟩, none, 1000, 3, 100⟩

/-- A flow of a tab and one node. -/
def sampleFlow : Flow :=
  [⟨"c3", "tab", none, [("label", .str "sensorA")]⟩, ⟨"d4", "debug", some "c3", []⟩]

/-- An engine with one flow, which has the same label. -/
def sampleStore : Store := [⟨"1b.a2", "sensorA", .arr []⟩]

/-- The engine after the deployment. -/
def sampleStore' : Store :=
  [⟨"1b.a2", "sensorA", Flow.toJson [⟨"d4", "debug", some "1b.a2", []⟩]⟩]

/-- The documents that the engine lists: its flow and another node. -/
def sampleDocs : List Members :=
  [[("id", .str "1b.a2"), ("type", .str "tab"), ("label", .str "sensorA")],
    [("id", .str "e5"), ("type", .str "debug")]]

/-- The deployment of the flow in place of the one that is there. -/
def sampleStep : Step where
  client := sampleClient
  operation := .deploy sampleFlow
  before := sampleStore
  visited := [sampleStore, sampleStore']
  after := sampleStore'
  result := .ok (.deployed .updated)

theorem sampleStore_isTidy : sampleStore.IsTidy where
  distinct := by decide
  ids := by
    intro d hd
    obtain rfl := List.mem_singleton.mp hd
    exact ⟨by decide, by decide⟩
  labels := by
    unfold Store.HasDistinctLabels
    decide

theorem sampleClient_list : ∃ listing : Listing, listing.tabId? "sensorA" = some "1b.a2" ∧
    Talks "" sampleClient.list.run sampleStore [sampleStore] sampleStore (.ok listing) := by
  let doc : Json := .arr (sampleDocs.map Json.obj)
  let bytes := Text.utf8Bytes doc.compact
  obtain ⟨listing, hlisting, htab⟩ : ∃ listing, Listing.ofBytes? bytes = some listing ∧
      listing.tabId? "sensorA" = some "1b.a2" := Option.bind_eq_some_iff.mp (by decide +kernel)
  have hlisted : sampleStore.IsListedBy sampleDocs := by
    unfold Store.IsListedBy
    decide
  have hanswer : Answers "" sampleStore ⟨.get, sampleClient.endpoint ["flows"], none, none⟩
      (.answered ⟨200, .whole bytes⟩) sampleStore :=
    .listed rfl (by decide +kernel) sampleDocs hlisted doc .flat doc.compact (by decide +kernel)
  have hread : Client.readListing (sampleClient.endpoint ["flows"]) ⟨200, .whole bytes⟩ =
      .ok listing := by
    simp [Client.readListing, hlisting]
  refine ⟨listing, htab, ?_⟩
  refine Talks.andThen (send_answered (Request.isSendable_of_token_eq_none rfl) hanswer) ?_
  rw [hread]
  exact .done _ _

theorem sampleStep_talks : Talks "" (sampleStep.operation.exchange sampleStep.client).run
    sampleStep.before sampleStep.visited sampleStep.after sampleStep.result := by
  obtain ⟨listing, htab, hlist⟩ := sampleClient_list
  have hanswer : Answers "" sampleStore
      ⟨.put, sampleClient.endpoint ["flow", "1b.a2"], none,
        some (.obj [("id", .str "1b.a2"), ("label", .str "sensorA"),
          ("nodes", Flow.toJson [⟨"d4", "debug", some "1b.a2", []⟩])])⟩
      (.answered ⟨200, .whole []⟩) sampleStore' :=
    .replaced rfl "1b.a2" ⟨_, List.mem_cons_self, rfl⟩ (by decide +kernel) "sensorA" _
      ⟨_, rfl, rfl, rfl⟩ _ rfl
  have hsubmit : Talks "" (sampleClient.send .put (sampleClient.endpoint ["flow", "1b.a2"]) _).run
      sampleStore [sampleStore'] sampleStore' (.ok _) :=
    send_answered (Request.isSendable_of_token_eq_none rfl) hanswer
  have hdeploy : Talks "" (sampleClient.deploy sampleFlow).run sampleStore
      [sampleStore, sampleStore'] sampleStore' (.ok .updated) := by
    refine Talks.andThen hlist ?_
    rw [htab]
    exact Talks.andThen hsubmit (.done _ _)
  exact Talks.andThen hdeploy (.done _ _)

/-- The flow that is there is updated. -/
theorem one_flow_per_label_update :
    sampleStep.result = .ok (.deployed .updated) ∧ sampleStep.IsCorrect :=
  ⟨rfl, one_flow_per_label sampleStore_isTidy (.cons sampleStep_talks (.nil _)) sampleStep
    List.mem_cons_self⟩

end UplinkFlow.Engine
