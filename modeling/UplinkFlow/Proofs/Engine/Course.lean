import UplinkFlow.Proofs.Engine.Log
import UplinkFlow.Proofs.Engine.Operation

/-!
# The course of a deployment

* `Client.Demands` — the change that a listing leads to.
* `Fails` — the fault that a request leaves, by what has become of it; `list_fails_iff` and
  `change_fails_iff` — that is what the client makes of it.
* `Course`, `deploy_course` — **the ways that a deployment can go, whatever the engine does.**
-/

set_option autoImplicit false

namespace UplinkFlow.Engine

variable {c : Client} {flow : Flow} {label : String} {log : Log} {request : Request}
  {outcome : Outcome} {fault : Fault} {deployment : Deployment} {sub : Submission}
  {listing : Listing} {result : Except Fault Deployment}

/-! ## Labels -/

/-- The first tab of a flow has a label, which is not empty. -/
def HasLabel (flow : Flow) (label : String) : Prop :=
  ∃ tab, flow.tab? = some tab ∧ tab.label? = some label ∧ label ≠ ""

theorem hasLabel_iff :
    HasLabel flow label ↔ ∃ sub, Submission.ofFlow? flow = some sub ∧ sub.label = label := by
  constructor
  · rintro ⟨tab, htab, hlabel, hne⟩
    refine ⟨⟨tab.id, label, flow.withoutTab⟩, ?_, rfl⟩
    simp [Submission.ofFlow?, htab, hlabel, hne]
  · rintro ⟨sub, hsub, rfl⟩
    obtain ⟨tab, htab, hsub⟩ := Option.bind_eq_some_iff.mp hsub
    obtain ⟨label, hlabel, rfl⟩ := Option.map_eq_some_iff.mp hsub
    obtain ⟨hlabel, hne⟩ := Option.filter_eq_some_iff.mp hlabel
    exact ⟨tab, htab, hlabel, by simpa using hne⟩

theorem ofFlow?_eq_none_iff :
    Submission.ofFlow? flow = none ↔ ¬∃ label, HasLabel flow label := by
  simp [hasLabel_iff, Option.eq_none_iff_forall_ne_some]

/-- A node of a listing is the tab of the flow with a label. -/
structure ListedNode.IsTabOf (label : String) (n : ListedNode) : Prop where
  kind : n.kind = Node.tabKind
  label : n.label = some (.str label)

theorem bind_asString?_eq_some_iff {value : Option Json} :
    value.bind Json.asString? = some label ↔ value = some (.str label) := by
  constructor
  · intro h
    obtain ⟨j, rfl, hstr⟩ := Option.bind_eq_some_iff.mp h
    cases j <;> cases hstr
    rfl
  · rintro rfl
    rfl

theorem ListedNode.isTabOf_iff {n : ListedNode} : n.IsTabOf label ↔ n.isTab label = true := by
  simp only [ListedNode.isTab, ListedNode.labelText?, Bool.and_eq_true, beq_iff_eq,
    bind_asString?_eq_some_iff]
  exact ⟨fun h => ⟨h.kind, h.label⟩, fun h => ⟨h.1, h.2⟩⟩

/-- The first tab with a label in a listing has an identifier. -/
def Listing.HasFirstTab (listing : Listing) (label id : String) : Prop :=
  ∃ before node after, listing = before ++ node :: after ∧ (∀ n ∈ before, ¬n.IsTabOf label) ∧
    node.IsTabOf label ∧ node.id = id

theorem Listing.tabId?_eq_some_iff {id : String} :
    listing.tabId? label = some id ↔ listing.HasFirstTab label id := by
  simp only [Listing.tabId?, Option.map_eq_some_iff, List.find?_eq_some_iff_append,
    ListedNode.isTabOf_iff, Listing.HasFirstTab, Bool.not_eq_true']
  constructor
  · rintro ⟨node, ⟨hnode, before, after, rfl, hbefore⟩, rfl⟩
    exact ⟨before, node, after, rfl, by simpa using hbefore, hnode, rfl⟩
  · rintro ⟨before, node, after, rfl, hbefore, hnode, rfl⟩
    exact ⟨node, ⟨hnode, before, after, rfl, by simpa using hbefore⟩, rfl⟩

theorem Listing.tabId?_eq_none_iff :
    listing.tabId? label = none ↔ ∀ n ∈ listing, ¬n.IsTabOf label := by
  simp only [Listing.tabId?, Option.map_eq_none_iff, List.find?_eq_none, ListedNode.isTabOf_iff]

/-! ## Requests -/

namespace Client

/-- The token of the client can be written into a header. -/
def IsSendable (c : Client) : Prop :=
  ∀ token, c.token = some token → ("Bearer " ++ token).all Request.isHeaderChar = true

theorem IsSendable.isSendable (hc : c.IsSendable) (method : Method) (url : Url)
    (body : Option Json) : Request.isSendable ⟨method, url, c.token, body⟩ = true :=
  Request.isSendable_of_token hc

/-- Where the endpoints of the engine begin. -/
def mount (c : Client) : String := String.ofList c.base.path.dropEmpty.stem

theorem isMountedAt_mount (c : Client) : c.base.path.IsMountedAt c.mount :=
  c.base.path.isMountedAt_stem

theorem endpoint_path {segment : String} (h : Url.IsPlainSegment segment) :
    (c.endpoint [segment]).path.text = c.mount ++ "/" ++ segment := by
  have hchars := c.base.path.addAll_chars segment [] (by simpa using h)
  apply String.toList_inj.mp
  simp [endpoint, Url.endpoint, Url.Path.text, hchars, mount]

def listRequest (c : Client) : Request := ⟨.get, c.endpoint ["flows"], c.token, none⟩

def updateRequest (c : Client) (sub : Submission) (id : String) : Request :=
  ⟨.put, c.endpoint ["flow", id], c.token, some (sub.onto id).toJson⟩

def createRequest (c : Client) (sub : Submission) : Request :=
  ⟨.post, c.endpoint ["flow"], c.token, some sub.toJson⟩

/-- The change that a listing demands, and what it has done once it is accepted. -/
inductive Demands (c : Client) (sub : Submission) (listing : Listing) :
    Request → Deployment → Prop where
  | update (id : String) (first : listing.HasFirstTab sub.label id) :
    Demands c sub listing (c.updateRequest sub id) .updated
  | create (new : ∀ n ∈ listing, ¬n.IsTabOf sub.label) :
    Demands c sub listing (c.createRequest sub) .created

/-- The request for the listing has been answered with one that can be read. -/
def HasListed (c : Client) (log : Log) (listing : Listing) : Prop :=
  ∃ bytes, (c.listRequest, Outcome.answered ⟨200, .whole bytes⟩) ∈ log ∧
    Listing.ofBytes? bytes = some listing

end Client

/-- The method that a deployment is made with. -/
def Deployment.method : Deployment → Method
  | .created => .post
  | .updated => .put

theorem Deployment.method_ne_get : deployment.method ≠ .get := by cases deployment <;> nofun

theorem Deployment.method_inj {d : Deployment} (h : deployment.method = d.method) :
    deployment = d := by
  cases deployment <;> cases d <;> first | rfl | cases h

theorem Client.Demands.method_eq (h : c.Demands sub listing request deployment) :
    request.method = deployment.method := by
  cases h <;> rfl

theorem Client.Demands.method_ne_get (h : c.Demands sub listing request deployment) :
    request.method ≠ .get :=
  h.method_eq ▸ deployment.method_ne_get

/-! ## Faults -/

/-- The fault that a request leaves, by what has become of it.  An empty refusal stands for one that
cannot be read. -/
inductive Fails (request : Request) : Outcome → Fault → Prop where
  | unreachable : Fails request .unreachable .transport
  | failed : Fails request .failed .transport
  | timedOut : Fails request .timedOut (.timedOut request.url.text)
  | connectTimedOut : Fails request .connectTimedOut (.timedOut request.url.text)
  | unauthorized (content : Content) : Fails request (.answered ⟨401, content⟩) .unauthorized
  | otherVersion (reads : request.method = .get) (content : Content) :
    Fails request (.answered ⟨400, content⟩) .invalidApiVersion
  | rejected (changes : request.method ≠ .get) (bytes : List UInt8) :
    Fails request (.answered ⟨400, .whole bytes⟩) (.badRequest (Text.lossyUtf8 bytes))
  | rejectedUnread (changes : request.method ≠ .get) (content : Content)
    (unread : ∀ bytes, content ≠ .whole bytes) :
    Fails request (.answered ⟨400, content⟩) (.badRequest "")
  | unexpected (status : Nat) (content : Content) (other : status ∉ [200, 400, 401])
    (accepted : status = 204 → request.method = .get) :
    Fails request (.answered ⟨status, content⟩) (.unexpectedStatus status)
  | stalled (reads : request.method = .get) :
    Fails request (.answered ⟨200, .stalled⟩) (.timedOut request.url.text)
  | broken (reads : request.method = .get) :
    Fails request (.answered ⟨200, .broken⟩) .invalidListing
  | unreadable (reads : request.method = .get) (bytes : List UInt8)
    (unread : Listing.ofBytes? bytes = none) :
    Fails request (.answered ⟨200, .whole bytes⟩) .invalidListing

theorem fails_iff_of_check {α : Type} {check : Response → Except Fault α}
    (hcheck : ∀ status content, check ⟨status, content⟩ = .error fault ↔
      Fails request (.answered ⟨status, content⟩) fault) :
    (Client.settle request outcome >>= check) = .error fault ↔ Fails request outcome fault := by
  cases outcome with
  | answered response => exact hcheck response.status response.content
  | unreachable =>
    refine ⟨fun h => ?_, fun h => ?_⟩
    · cases h
      exact .unreachable
    · cases h
      rfl
  | timedOut =>
    refine ⟨fun h => ?_, fun h => ?_⟩
    · cases h
      exact .timedOut
    · cases h
      rfl
  | connectTimedOut =>
    refine ⟨fun h => ?_, fun h => ?_⟩
    · cases h
      exact .connectTimedOut
    · cases h
      rfl
  | failed =>
    refine ⟨fun h => ?_, fun h => ?_⟩
    · cases h
      exact .failed
    · cases h
      rfl

theorem readListing_eq_error_iff {status : Nat} {content : Content}
    (hget : request.method = .get) :
    Client.readListing request.url ⟨status, content⟩ = .error fault ↔
      Fails request (.answered ⟨status, content⟩) fault := by
  constructor
  · intro h
    unfold Client.readListing at h
    split at h
    · rename_i hstatus
      obtain rfl : status = 200 := hstatus
      cases content with
      | whole bytes =>
        cases hbytes : Listing.ofBytes? bytes with
        | some listing => simp [hbytes] at h
        | none =>
          simp only [hbytes, Except.error.injEq] at h
          exact h ▸ .unreadable hget bytes hbytes
      | stalled => cases h; exact .stalled hget
      | broken => cases h; exact .broken hget
    · rename_i hlisted
      split at h
      · rename_i hstatus
        obtain rfl : status = 401 := hstatus
        cases h
        exact .unauthorized content
      · rename_i hauthorized
        split at h
        · rename_i hstatus
          obtain rfl : status = 400 := hstatus
          cases h
          exact .otherVersion hget content
        · rename_i hversion
          cases h
          exact .unexpected status content (by simp [hlisted, hauthorized, hversion]) fun _ => hget
  · intro h
    cases h with
    | unauthorized => rfl
    | otherVersion => rfl
    | rejected changes => exact absurd hget changes
    | rejectedUnread changes => exact absurd hget changes
    | unexpected _ _ other =>
      simp only [List.mem_cons, List.not_mem_nil, or_false, not_or] at other
      simp [Client.readListing, other]
    | stalled => rfl
    | broken => rfl
    | unreadable _ bytes unread => simp [Client.readListing, unread]

theorem checkChange_eq_error_iff {status : Nat} {content : Content}
    (hchange : request.method ≠ .get) :
    Client.checkChange ⟨status, content⟩ = .error fault ↔
      Fails request (.answered ⟨status, content⟩) fault := by
  constructor
  · intro h
    unfold Client.checkChange at h
    split at h
    · cases h
    · rename_i haccepted
      split at h
      · rename_i hstatus
        obtain rfl : status = 400 := hstatus
        cases content with
        | whole bytes => cases h; exact .rejected hchange bytes
        | stalled => cases h; exact .rejectedUnread hchange _ nofun
        | broken => cases h; exact .rejectedUnread hchange _ nofun
      · rename_i hrejected
        split at h
        · rename_i hstatus
          obtain rfl : status = 401 := hstatus
          cases h
          exact .unauthorized content
        · rename_i hauthorized
          cases h
          rw [not_or] at haccepted
          exact .unexpected status content (by simp [haccepted.1, hrejected, hauthorized])
            fun hstatus => absurd hstatus haccepted.2
  · intro h
    cases h with
    | unauthorized => rfl
    | otherVersion reads => exact absurd reads hchange
    | rejected => rfl
    | rejectedUnread _ _ unread =>
      cases content with
      | whole bytes => exact absurd rfl (unread bytes)
      | stalled => rfl
      | broken => rfl
    | unexpected _ _ other accepted =>
      simp only [List.mem_cons, List.not_mem_nil, or_false, not_or] at other
      have hstatus : status ≠ 204 := fun hstatus => hchange (accepted hstatus)
      simp [Client.checkChange, other, hstatus]
    | stalled reads => exact absurd reads hchange
    | broken reads => exact absurd reads hchange
    | unreadable reads => exact absurd reads hchange

theorem list_fails_iff (hget : request.method = .get) :
    (Client.settle request outcome >>= Client.readListing request.url) = .error fault ↔
      Fails request outcome fault :=
  fails_iff_of_check fun _ _ => readListing_eq_error_iff hget

theorem change_fails_iff (hchange : request.method ≠ .get) :
    (Client.settle request outcome >>= Client.checkChange) = .error fault ↔
      Fails request outcome fault :=
  fails_iff_of_check fun _ _ => checkChange_eq_error_iff hchange

namespace Fails

theorem unique {other : Fault} (h : Fails request outcome fault)
    (h' : Fails request outcome other) : fault = other := by
  by_cases hget : request.method = .get
  · rw [← list_fails_iff hget] at h h'
    exact Except.error.inj (h.symm.trans h')
  · rw [← change_fails_iff hget] at h h'
    exact Except.error.inj (h.symm.trans h')

/-- No request is blamed for a flow without a label. -/
theorem ne_malformedFlow (h : Fails request outcome fault) : fault ≠ .malformedFlow := by
  cases h <;> nofun

theorem isAccepted_eq_false (h : Fails request outcome fault) (hchange : request.method ≠ .get) :
    outcome.isAccepted = false := by
  cases h with
  | unexpected status content other accepted =>
    simp only [List.mem_cons, List.not_mem_nil, or_false, not_or] at other
    have hstatus : status ≠ 204 := fun hstatus => hchange (accepted hstatus)
    simp [Outcome.isAccepted, other, hstatus]
  | stalled reads => exact absurd reads hchange
  | broken reads => exact absurd reads hchange
  | unreadable reads => exact absurd reads hchange
  | _ => rfl

theorem not_listed {bytes : List UInt8} (hbytes : Listing.ofBytes? bytes = some listing) :
    ¬Fails request (.answered ⟨200, .whole bytes⟩) fault := by
  intro h
  cases h with
  | unexpected _ _ other => exact other (by decide)
  | unreadable _ _ unread => rw [hbytes] at unread; cases unread

end Fails

/-! ## Courses -/

/-- How a change ends. -/
inductive Ends (request : Request) (outcome : Outcome) (deployment : Deployment) :
    Except Fault Deployment → Prop where
  | refused (fault : Fault) (fails : Fails request outcome fault) :
    Ends request outcome deployment (.error fault)
  | accepted (accepts : outcome.isAccepted = true) :
    Ends request outcome deployment (.ok deployment)

/-- The ways that a deployment can go: it ends before any request, with the listing, or with the
change that the listing demands. -/
inductive Course (c : Client) (flow : Flow) : Log → Except Fault Deployment → Prop where
  | malformed (unlabelled : Submission.ofFlow? flow = none) :
    Course c flow [] (.error .malformedFlow)
  | unlisted {sub : Submission} {log : Log} {outcome : Outcome} {fault : Fault}
    (labelled : Submission.ofFlow? flow = some sub)
    (lists : Sends c.retries c.listRequest log outcome)
    (fails : Fails c.listRequest outcome fault) : Course c flow log (.error fault)
  | submitted {sub : Submission} {reads changes : Log} {bytes : List UInt8} {listing : Listing}
    {request : Request} {deployment : Deployment} {outcome : Outcome}
    {result : Except Fault Deployment}
    (labelled : Submission.ofFlow? flow = some sub)
    (lists : Sends c.retries c.listRequest reads (.answered ⟨200, .whole bytes⟩))
    (listed : Listing.ofBytes? bytes = some listing)
    (demands : c.Demands sub listing request deployment)
    (submits : Sends c.retries request changes outcome)
    (ends : Ends request outcome deployment result) : Course c flow (reads ++ changes) result

theorem list_logs (hc : c.IsSendable) {result : Except Fault Listing}
    (h : c.list.run.Logs log result) :
    ∃ outcome, Sends c.retries c.listRequest log outcome ∧
      result = Client.settle c.listRequest outcome >>= Client.readListing c.listRequest.url :=
  checked_logs (Request.isSendable_of_token hc) (fun _ => rfl) h

/-- Checking the response to a change asks nothing. -/
theorem run_checkChange (deployment : Deployment) (response : Response) : (do
    Client.checkChange response
    return deployment : Exchange Deployment).run =
      .done ((Client.checkChange response).map fun _ => deployment) := by
  cases Client.checkChange response with
  | error fault => rfl
  | ok value => rfl

/-- A change is sent, its response is checked, and then it is done. -/
theorem change_logs (hc : c.IsSendable) {method : Method} {url : Url} {body : Option Json}
    (h : (do
      let response ← c.send method url body
      Client.checkChange response
      return deployment : Exchange Deployment).run.Logs log result) :
    ∃ outcome, Sends c.retries ⟨method, url, c.token, body⟩ log outcome ∧
      result = (Client.settle ⟨method, url, c.token, body⟩ outcome >>= Client.checkChange).map
        fun _ => deployment := by
  obtain ⟨outcome, hsends, rfl⟩ :=
    checked_logs (Request.isSendable_of_token hc) (run_checkChange deployment) h
  refine ⟨outcome, hsends, ?_⟩
  cases outcome <;> rfl

theorem submit_logs (hc : c.IsSendable)
    (h : (c.submit sub (listing.tabId? sub.label)).run.Logs log result) :
    ∃ request deployment outcome, c.Demands sub listing request deployment ∧
      Sends c.retries request log outcome ∧
      result = (Client.settle request outcome >>= Client.checkChange).map fun _ => deployment := by
  cases hid : listing.tabId? sub.label with
  | none =>
    rw [hid] at h
    obtain ⟨outcome, hsends, hresult⟩ := change_logs hc h
    exact ⟨_, _, outcome, .create (Listing.tabId?_eq_none_iff.mp hid), hsends, hresult⟩
  | some id =>
    rw [hid] at h
    obtain ⟨outcome, hsends, hresult⟩ := change_logs hc h
    exact ⟨_, _, outcome, .update id (Listing.tabId?_eq_some_iff.mp hid), hsends, hresult⟩

/-- Every log of a deployment is that of a course. -/
theorem deploy_course (hc : c.IsSendable) (h : (c.deploy flow).run.Logs log result) :
    Course c flow log result := by
  unfold Client.deploy at h
  split at h
  · rename_i hflow
    obtain ⟨rfl, rfl⟩ := Conversation.Logs.done_iff.mp h
    exact .malformed hflow
  · rename_i sub hflow
    rcases Conversation.Logs.andThen_cases h with
      ⟨fault, rfl, hlist⟩ | ⟨listing, reads, changes, hlist, hsubmit, rfl⟩
    · obtain ⟨outcome, hlists, hresult⟩ := list_logs hc hlist
      exact .unlisted hflow hlists ((list_fails_iff rfl).mp hresult.symm)
    · obtain ⟨outcome, hlists, hresult⟩ := list_logs hc hlist
      obtain ⟨response, hsettle, hread⟩ := bind_eq_ok_iff.mp hresult.symm
      obtain rfl := settle_eq_ok.mp hsettle
      obtain ⟨bytes, rfl, hbytes⟩ := readListing_eq_ok hread
      obtain ⟨request, deployment, outcome, hdemands, hsubmits, rfl⟩ := submit_logs hc hsubmit
      refine .submitted hflow hlists hbytes hdemands hsubmits ?_
      cases hcheck : Client.settle request outcome >>= Client.checkChange with
      | error fault => exact .refused fault ((change_fails_iff hdemands.method_ne_get).mp hcheck)
      | ok value =>
        obtain ⟨response, hsettle, haccepted⟩ := bind_eq_ok_iff.mp hcheck
        obtain rfl := settle_eq_ok.mp hsettle
        exact .accepted (checkChange_eq_ok haccepted)

end UplinkFlow.Engine
