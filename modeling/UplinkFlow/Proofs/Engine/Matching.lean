import UplinkFlow.Proofs.Engine.Requests

/-!
# What an operation matches on

A deployment and a deletion both look for the first tab with a label in the listing.

* `checked_cases` — what comes of a request, also of one that cannot be written down.
* `deploy_demands` — **a deployment asks for the listing and for the change that it demands**; it
  does ask for that change once it has a listing.
* `delete_removes` — **a deletion asks for the listing and removes the flow of its first tab with
  the label.**
-/

set_option autoImplicit false

namespace UplinkFlow.Engine

variable {c : Client} {flow : Flow} {sub : Submission} {label : String} {log : Log}
  {entry : Request × Outcome}

/-! ## One request -/

/-- A request with a check of its response has an outcome, or cannot be written down. -/
theorem checked_cases {α : Type} {method : Method} {url : Url} {body : Option Json}
    {rest : Response → Exchange α} {check : Response → Except Fault α} {result : Except Fault α}
    (hrest : ∀ response, (rest response).run = .done (check response))
    (h : (c.send method url body >>= rest).run.Logs log result) :
    (∃ outcome, Sends c.retries ⟨method, url, c.token, body⟩ log outcome ∧
        result = Client.settle ⟨method, url, c.token, body⟩ outcome >>= check) ∨
      (log = [] ∧ result = .error .transport) := by
  by_cases hsendable : Request.isSendable ⟨method, url, c.token, body⟩ = true
  · exact .inl (checked_logs hsendable hrest h)
  · exact .inr (unsent_checked_logs hsendable h)

theorem list_hasListed {listing : Listing} (h : c.list.run.Logs log (.ok listing)) :
    c.HasListed log listing := by
  rcases checked_cases (fun _ => rfl) h with ⟨outcome, hsends, hresult⟩ | ⟨-, hresult⟩
  · obtain ⟨response, hsettle, hread⟩ := bind_eq_ok_iff.mp hresult.symm
    obtain rfl := settle_eq_ok.mp hsettle
    obtain ⟨bytes, rfl, hbytes⟩ := readListing_eq_ok hread
    exact ⟨bytes, hsends.mem, hbytes⟩
  · cases hresult

theorem list_ne_malformedFlow {fault : Fault} (h : c.list.run.Logs log (.error fault)) :
    fault ≠ .malformedFlow := by
  rcases checked_cases (fun _ => rfl) h with ⟨outcome, -, hresult⟩ | ⟨-, hresult⟩
  · have hfails : Fails c.listRequest outcome fault := (list_fails_iff rfl).mp hresult.symm
    exact hfails.ne_malformedFlow
  · cases hresult
    nofun

theorem list_asks {result : Except Fault Listing} (h : c.list.run.Logs log result)
    (he : entry ∈ log) : entry.1 = c.listRequest :=
  checked_asks (fun _ => rfl) h he

theorem Client.HasListed.append {listing : Listing} (h : c.HasListed log listing) (later : Log) :
    c.HasListed (log ++ later) listing := by
  obtain ⟨bytes, hmem, hbytes⟩ := h
  exact ⟨bytes, List.mem_append_left later hmem, hbytes⟩

theorem Client.HasListed.ne_nil {listing : Listing} (h : c.HasListed log listing) : log ≠ [] := by
  obtain ⟨bytes, hmem, -⟩ := h
  exact List.ne_nil_of_mem hmem

/-! ## Deployments -/

/-- A change asks one thing, and its fault blames no flow. -/
theorem change_asks {method : Method} {url : Url} {body : Option Json} {deployment : Deployment}
    {result : Except Fault Deployment} (hchange : method ≠ .get) (h : (do
      let response ← c.send method url body
      Client.checkChange response
      return deployment : Exchange Deployment).run.Logs log result) :
    (∀ entry ∈ log, entry.1 = ⟨method, url, c.token, body⟩) ∧ result ≠ .error .malformedFlow := by
  refine ⟨fun entry he => checked_asks (run_checkChange deployment) h he, ?_⟩
  rcases checked_cases (run_checkChange deployment) h with ⟨outcome, -, rfl⟩ | ⟨-, rfl⟩
  · intro hfault
    have hfails : (Client.settle ⟨method, url, c.token, body⟩ outcome >>= Client.checkChange) =
        .error .malformedFlow := by
      rcases bind_eq_error_iff.mp hfault with hsettle | ⟨response, hsettle, hcheck⟩
      · exact bind_eq_error_iff.mpr (.inl hsettle)
      · refine bind_eq_error_iff.mpr (.inr ⟨response, hsettle, ?_⟩)
        cases hchecked : Client.checkChange response with
        | ok => simp [hchecked, Except.map] at hcheck
        | error fault => simpa [hchecked, Except.map] using hcheck
    exact ((change_fails_iff hchange).mp hfails).ne_malformedFlow rfl
  · nofun

theorem submit_demands {listing : Listing} {result : Except Fault Deployment}
    (h : (c.submit sub (listing.tabId? sub.label)).run.Logs log result) :
    (∀ entry ∈ log, ∃ deployment, c.Demands sub listing entry.1 deployment) ∧
      result ≠ .error .malformedFlow := by
  cases hid : listing.tabId? sub.label with
  | none =>
    rw [hid] at h
    obtain ⟨hasks, hresult⟩ := change_asks (by decide) h
    refine ⟨fun entry he => ⟨.created, ?_⟩, hresult⟩
    rw [hasks entry he]
    exact .create (Listing.tabId?_eq_none_iff.mp hid)
  | some id =>
    rw [hid] at h
    obtain ⟨hasks, hresult⟩ := change_asks (by decide) h
    refine ⟨fun entry he => ⟨.updated, ?_⟩, hresult⟩
    rw [hasks entry he]
    exact .update id (Listing.tabId?_eq_some_iff.mp hid)

/-- A deployment of a flow with a label asks for the listing and for the change that it demands. -/
theorem deploy_demands {result : Except Fault Deployment}
    (hsub : Submission.ofFlow? flow = some sub) (h : (c.deploy flow).run.Logs log result) :
    result ≠ .error .malformedFlow ∧ ∀ entry ∈ log, entry.1 = c.listRequest ∨
      ∃ listing deployment, c.HasListed log listing ∧ c.Demands sub listing entry.1 deployment := by
  unfold Client.deploy at h
  rw [hsub] at h
  rcases Conversation.Logs.andThen_cases h with
    ⟨fault, rfl, hlist⟩ | ⟨listing, reads, changes, hlist, hsubmit, rfl⟩
  · exact ⟨fun hfault => list_ne_malformedFlow hlist (Except.error.inj hfault),
      fun entry he => .inl (list_asks hlist he)⟩
  · obtain ⟨hdemands, hresult⟩ := submit_demands hsubmit
    refine ⟨hresult, fun entry he => ?_⟩
    rcases List.mem_append.mp he with he | he
    · exact .inl (list_asks hlist he)
    · obtain ⟨deployment, hdemand⟩ := hdemands entry he
      exact .inr ⟨listing, deployment, (list_hasListed hlist).append changes, hdemand⟩

/-- Once there is a listing, the change that it demands is asked for. -/
theorem deploy_submits {result : Except Fault Deployment} {listing : Listing} (hc : c.IsSendable)
    (hsub : Submission.ofFlow? flow = some sub) (h : (c.deploy flow).run.Logs log result)
    (hlisted : c.HasListed log listing) :
    ∃ entry ∈ log, ∃ deployment, c.Demands sub listing entry.1 deployment := by
  obtain ⟨bytes, hmem, hbytes⟩ := hlisted
  cases deploy_course hc h with
  | malformed unlabelled => cases unlabelled.symm.trans hsub
  | unlisted labelled lists fails =>
    cases lists.eq_of_isReached hmem rfl
    exact absurd fails (Fails.not_listed hbytes)
  | @submitted _ _ _ _ _ request _ _ _ labelled lists listed demands submits =>
    obtain rfl := Option.some.inj (labelled.symm.trans hsub)
    rcases List.mem_append.mp hmem with hread | hchange
    · cases lists.eq_of_isReached hread rfl
      obtain rfl := Option.some.inj (listed.symm.trans hbytes)
      exact ⟨_, List.mem_append_right _ submits.mem, _, demands⟩
    · have hget : request.method = .get := by rw [← submits.request_eq hchange]; rfl
      exact absurd hget demands.method_ne_get

/-! ## Deletions -/

def Client.deleteRequest (c : Client) (id : String) : Request :=
  ⟨.delete, c.endpoint ["flow", id], c.token, none⟩

/-- Checking the response to a deletion asks nothing. -/
theorem run_checkDeletion (id : String) (response : Response) : (do
    Client.checkDeletion id response
    return .deleted id : Exchange Deletion).run =
      .done ((Client.checkDeletion id response).map fun _ => .deleted id) := by
  cases Client.checkDeletion id response with
  | error fault => rfl
  | ok value => rfl

/-- A deletion asks for the listing and removes the flow of its first tab with the label. -/
theorem delete_removes {result : Except Fault Deletion}
    (h : (c.delete label).run.Logs log result) (he : entry ∈ log) : entry.1 = c.listRequest ∨
      ∃ listing id, c.HasListed log listing ∧ listing.HasFirstTab label id ∧
        entry.1 = c.deleteRequest id := by
  unfold Client.delete at h
  rcases Conversation.Logs.andThen_cases h with
    ⟨fault, rfl, hlist⟩ | ⟨listing, reads, changes, hlist, hremove, rfl⟩
  · exact .inl (list_asks hlist he)
  rcases List.mem_append.mp he with he | he
  · exact .inl (list_asks hlist he)
  · cases hid : listing.tabId? label with
    | none =>
      rw [hid] at hremove
      obtain ⟨rfl, -⟩ := Conversation.Logs.done_iff.mp hremove
      cases he
    | some id =>
      rw [hid] at hremove
      have hrequest : entry.1 = c.deleteRequest id := checked_asks (run_checkDeletion id) hremove he
      exact .inr ⟨listing, id, (list_hasListed hlist).append changes,
        Listing.tabId?_eq_some_iff.mp hid, hrequest⟩

end UplinkFlow.Engine
