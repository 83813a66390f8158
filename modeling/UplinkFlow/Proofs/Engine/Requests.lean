import UplinkFlow.Proofs.Engine.Course

/-!
# The requests of a deployment

* `unsent_logs` — a request that cannot be written down is not attempted.
* `Client.Asks` — the requests that can belong to the deployment of a flow.
* `deploy_asks` — **no other request is ever attempted**, whatever the engine does and whether or
  not requests can be written down.
-/

set_option autoImplicit false

namespace UplinkFlow.Engine

variable {c : Client} {log : Log} {entry : Request × Outcome}

theorem unsent_logs {method : Method} {url : Url} {body : Option Json}
    {result : Except Fault Response}
    (hsendable : ¬Request.isSendable ⟨method, url, c.token, body⟩ = true)
    (h : (c.send method url body).run.Logs log result) : log = [] ∧ result = .error .transport := by
  rw [Client.send, ExceptT.run_mk, if_neg hsendable] at h
  exact Conversation.Logs.done_iff.mp h

theorem unsent_checked_logs {α : Type} {method : Method} {url : Url} {body : Option Json}
    {rest : Response → Exchange α} {result : Except Fault α}
    (hsendable : ¬Request.isSendable ⟨method, url, c.token, body⟩ = true)
    (h : (c.send method url body >>= rest).run.Logs log result) :
    log = [] ∧ result = .error .transport := by
  rcases Conversation.Logs.andThen_cases h with ⟨fault, rfl, hfault⟩ | ⟨response, _, _, hok, -⟩
  · obtain ⟨rfl, heq⟩ := unsent_logs hsendable hfault
    cases heq
    exact ⟨rfl, rfl⟩
  · cases (unsent_logs hsendable hok).2

/-- Sending asks one thing, as often as it may. -/
theorem send_asks {method : Method} {url : Url} {body : Option Json}
    {result : Except Fault Response} (h : (c.send method url body).run.Logs log result)
    (he : entry ∈ log) : entry.1 = ⟨method, url, c.token, body⟩ := by
  by_cases hsendable : Request.isSendable ⟨method, url, c.token, body⟩ = true
  · obtain ⟨outcome, hsends, -⟩ := send_logs hsendable h
    exact hsends.request_eq he
  · obtain ⟨rfl, -⟩ := unsent_logs hsendable h
    cases he

theorem checked_asks {α : Type} {method : Method} {url : Url} {body : Option Json}
    {rest : Response → Exchange α} {check : Response → Except Fault α} {result : Except Fault α}
    (hrest : ∀ response, (rest response).run = .done (check response))
    (h : (c.send method url body >>= rest).run.Logs log result) (he : entry ∈ log) :
    entry.1 = ⟨method, url, c.token, body⟩ := by
  rcases Conversation.Logs.andThen_cases h with
    ⟨fault, rfl, hsend⟩ | ⟨response, before, after, hsend, hchecked, rfl⟩
  · exact send_asks hsend he
  · rw [hrest] at hchecked
    obtain ⟨rfl, -⟩ := Conversation.Logs.done_iff.mp hchecked
    exact send_asks hsend (by rwa [List.append_nil] at he)

/-- A request that belongs to the deployment of a flow. -/
inductive Client.Asks (c : Client) (flow : Flow) : Request → Prop where
  | list : Asks c flow c.listRequest
  | create {sub : Submission} (of : Submission.ofFlow? flow = some sub) :
    Asks c flow (c.createRequest sub)
  | update {sub : Submission} (of : Submission.ofFlow? flow = some sub) (id : String) :
    Asks c flow (c.updateRequest sub id)

theorem submit_asks {sub : Submission} {existing : Option String}
    {result : Except Fault Deployment} (h : (c.submit sub existing).run.Logs log result)
    (he : entry ∈ log) :
    entry.1 = c.createRequest sub ∨ ∃ id, entry.1 = c.updateRequest sub id := by
  cases existing with
  | none => exact .inl (checked_asks (run_checkChange .created) h he)
  | some id => exact .inr ⟨id, checked_asks (run_checkChange .updated) h he⟩

/-- A deployment asks for the listing and submits the flow, and that is all. -/
theorem deploy_asks {flow : Flow} {result : Except Fault Deployment}
    (h : (c.deploy flow).run.Logs log result) (he : entry ∈ log) : c.Asks flow entry.1 := by
  unfold Client.deploy at h
  split at h
  · obtain ⟨rfl, -⟩ := Conversation.Logs.done_iff.mp h
    cases he
  · rename_i sub hflow
    have hlist {reads : Log} {result : Except Fault Listing} (h : c.list.run.Logs reads result)
        (he : entry ∈ reads) : c.Asks flow entry.1 := by
      rw [show entry.1 = c.listRequest from checked_asks (fun _ => rfl) h he]
      exact .list
    rcases Conversation.Logs.andThen_cases h with
      ⟨fault, rfl, hreads⟩ | ⟨listing, reads, changes, hreads, hsubmit, rfl⟩
    · exact hlist hreads he
    · rcases List.mem_append.mp he with he | he
      · exact hlist hreads he
      · rcases submit_asks hsubmit he with hrequest | ⟨id, hrequest⟩
        · rw [hrequest]
          exact .create hflow
        · rw [hrequest]
          exact .update hflow id

end UplinkFlow.Engine
