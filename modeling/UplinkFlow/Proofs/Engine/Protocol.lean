import UplinkFlow.Proofs.Engine.Course

/-!
# The protocol of a deployment

* `FollowsProtocol` — what the flow, the log of its deployment and the result tell of each other.
* `Phases` — a log of a request for the listing and of at most one change, and what follows of it.
* `Course.followsProtocol` — every course keeps to it.
* `deploy_protocol` — **a deployment follows the protocol, whatever the engine does.**
-/

set_option autoImplicit false

namespace UplinkFlow.Engine

variable {c : Client} {flow : Flow} {label : String} {log : Log} {request : Request}
  {outcome : Outcome} {fault : Fault} {deployment : Deployment} {sub : Submission}
  {listing : Listing} {result : Except Fault Deployment}

/-- Whether an attempt is for a change. -/
def isChange (entry : Request × Outcome) : Bool := entry.1.method != .get

/-- What the flow, the log of its deployment and the result tell of each other.

* `mounted`, `flowsPath`, `flowPath` — the engine is asked behind the path of its address;
* `silent`, `malformed` — nothing is asked exactly if the flow has no label, and that is a fault of
  its own;
* `listsFirst` — the first request that comes to the engine is the one for the listing;
* `twoParts`, `lists` — the listing is asked for in one request, which is over before any change;
* `changes` — a change is asked for exactly if the listing has been answered and can be read;
* `change`, `once` — that is one request, the one that the listing demands, and it comes to the
  engine once at most;
* `succeeds` — the deployment succeeds exactly if the change has been accepted, and tells which
  change it was;
* `fails` — otherwise the fault is the one that the last request leaves. -/
structure FollowsProtocol (c : Client) (flow : Flow) (log : Log)
    (result : Except Fault Deployment) : Prop where
  mounted : c.base.path.IsMountedAt c.mount
  flowsPath : (c.endpoint ["flows"]).path.text = c.mount ++ "/flows"
  flowPath : (c.endpoint ["flow"]).path.text = c.mount ++ "/flow"
  silent : log = [] ↔ ¬∃ label, HasLabel flow label
  malformed : result = .error .malformedFlow ↔ ¬∃ label, HasLabel flow label
  listsFirst : ∀ entry ∈ log.find? isReached, entry.1 = c.listRequest
  twoParts : log = log.filter (!isChange ·) ++ log.filter isChange
  lists : log ≠ [] → ∃ outcome, Sends c.retries c.listRequest (log.filter (!isChange ·)) outcome
  changes : (∃ entry ∈ log, isChange entry = true) ↔ ∃ listing, c.HasListed log listing
  change : ∀ label listing, HasLabel flow label → c.HasListed log listing →
    ∃ sub request deployment outcome, Submission.ofFlow? flow = some sub ∧ sub.label = label ∧
      c.Demands sub listing request deployment ∧
      Sends c.retries request (log.filter isChange) outcome
  once : (log.filter fun entry => isReached entry && isChange entry).length ≤ 1
  succeeds : ∀ deployment, result = .ok deployment ↔
    ∃ entry ∈ log, entry.1.method = deployment.method ∧ entry.2.isAccepted = true
  fails : (∃ label, HasLabel flow label) → ∀ fault, result = .error fault ↔
    ∃ entry ∈ log.getLast?, Fails entry.1 entry.2 fault

/-! ## Parts of a log -/

theorem isChange_of_ne_get (h : request.method ≠ .get) : isChange (request, outcome) = true :=
  bne_iff_ne.mpr h

theorem isReached_of_isAccepted {entry : Request × Outcome} (h : entry.2.isAccepted = true) :
    isReached entry = true := by
  rw [isReached, Outcome.isUnconnected_of_isAccepted h]
  rfl

/-- The two parts of a log: the request for the listing, with its outcome, and a request for a
change if there is one, which only a listing that can be read leads to. -/
inductive Phases (c : Client) : Outcome → Log → Log → Prop where
  | listing {reads : Log} {outcome : Outcome}
    (lists : Sends c.retries c.listRequest reads outcome) : Phases c outcome reads []
  | change {reads changes : Log} {bytes : List UInt8} {listing : Listing} {request : Request}
    {outcome : Outcome}
    (lists : Sends c.retries c.listRequest reads (.answered ⟨200, .whole bytes⟩))
    (listed : Listing.ofBytes? bytes = some listing) (changing : request.method ≠ .get)
    (sends : Sends c.retries request changes outcome) :
    Phases c (.answered ⟨200, .whole bytes⟩) reads changes

namespace Phases

variable {reads changes : Log}

theorem lists (h : Phases c outcome reads changes) :
    Sends c.retries c.listRequest reads outcome := by
  cases h with
  | listing lists => exact lists
  | change lists => exact lists

theorem isChange_of_mem (h : Phases c outcome reads changes) :
    ∀ entry ∈ changes, isChange entry = true := by
  intro entry he
  cases h with
  | listing => cases he
  | change _ _ changing sends => exact isChange_of_ne_get (sends.request_eq he ▸ changing)

theorem not_isChange_of_mem (h : Phases c outcome reads changes) :
    ∀ entry ∈ reads, isChange entry = false := by
  intro entry he
  rw [isChange, h.lists.request_eq he]
  rfl

theorem filter_isChange (h : Phases c outcome reads changes) :
    (reads ++ changes).filter isChange = changes := by
  have hreads : reads.filter isChange = [] :=
    List.filter_eq_nil_iff.mpr fun entry he => by simp [h.not_isChange_of_mem entry he]
  rw [List.filter_append, hreads, List.nil_append, List.filter_eq_self.mpr h.isChange_of_mem]

theorem filter_not_isChange (h : Phases c outcome reads changes) :
    (reads ++ changes).filter (!isChange ·) = reads := by
  have hreads : reads.filter (!isChange ·) = reads :=
    List.filter_eq_self.mpr fun entry he => by simp [h.not_isChange_of_mem entry he]
  have hchanges : changes.filter (!isChange ·) = [] :=
    List.filter_eq_nil_iff.mpr fun entry he => by simp [h.isChange_of_mem entry he]
  rw [List.filter_append, hreads, hchanges, List.append_nil]

theorem twoParts (h : Phases c outcome reads changes) : reads ++ changes =
    (reads ++ changes).filter (!isChange ·) ++ (reads ++ changes).filter isChange := by
  rw [h.filter_not_isChange, h.filter_isChange]

theorem listsFirst (h : Phases c outcome reads changes) :
    ∀ entry ∈ (reads ++ changes).find? isReached, entry.1 = c.listRequest := by
  intro entry hentry
  cases h with
  | listing lists =>
    rw [List.append_nil] at hentry
    exact lists.request_eq (List.mem_of_find?_eq_some hentry)
  | change lists =>
    rw [List.find?_append] at hentry
    -- the listing has been answered, so the first request to arrive is among those for it
    cases hreads : reads.find? isReached with
    | none => exact absurd rfl (List.find?_eq_none.mp hreads _ lists.mem)
    | some first =>
      rw [hreads] at hentry
      cases hentry
      exact lists.request_eq (List.mem_of_find?_eq_some hreads)

theorem once (h : Phases c outcome reads changes) :
    ((reads ++ changes).filter fun entry => isReached entry && isChange entry).length ≤ 1 := by
  rw [← List.filter_filter, h.filter_isChange]
  cases h with
  | listing => exact Nat.zero_le 1
  | change _ _ _ sends => exact sends.length_reached_le

/-- The listing of a log is the one in the answer to the request for it. -/
theorem hasListed_iff (h : Phases c outcome reads changes) :
    c.HasListed (reads ++ changes) listing ↔
      ∃ bytes, outcome = .answered ⟨200, .whole bytes⟩ ∧ Listing.ofBytes? bytes = some listing := by
  constructor
  · rintro ⟨bytes, hmem, hbytes⟩
    refine ⟨bytes, ?_, hbytes⟩
    rcases List.mem_append.mp hmem with hmem | hmem
    · exact (Prod.mk.inj (h.lists.eq_of_isReached hmem rfl)).2.symm
    · cases h.isChange_of_mem _ hmem
  · rintro ⟨bytes, rfl, hbytes⟩
    exact ⟨bytes, List.mem_append_left _ h.lists.mem, hbytes⟩

theorem hasListed_iff_eq {bytes : List UInt8} {listing' : Listing}
    (h : Phases c (.answered ⟨200, .whole bytes⟩) reads changes)
    (hbytes : Listing.ofBytes? bytes = some listing) :
    c.HasListed (reads ++ changes) listing' ↔ listing' = listing := by
  rw [h.hasListed_iff]
  constructor
  · rintro ⟨bytes', hanswer, hbytes'⟩
    cases hanswer
    exact Option.some.inj (hbytes'.symm.trans hbytes)
  · rintro rfl
    exact ⟨bytes, rfl, hbytes⟩

end Phases

theorem Fails.not_hasListed (hfails : Fails c.listRequest outcome fault)
    (h : Phases c outcome log []) : ¬c.HasListed log listing := by
  intro hlisted
  rw [← List.append_nil log, h.hasListed_iff] at hlisted
  obtain ⟨bytes, rfl, hbytes⟩ := hlisted
  exact hfails.not_listed hbytes

/-! ## Courses -/

namespace Course

theorem silent (h : Course c flow log result) : log = [] ↔ ¬∃ label, HasLabel flow label := by
  rw [← ofFlow?_eq_none_iff]
  cases h with
  | malformed unlabelled => simp [unlabelled]
  | unlisted labelled lists => simp [labelled, lists.ne_nil]
  | submitted labelled lists => simp [labelled, lists.ne_nil]

theorem malformed_iff (h : Course c flow log result) :
    result = .error .malformedFlow ↔ ¬∃ label, HasLabel flow label := by
  rw [← ofFlow?_eq_none_iff]
  cases h with
  | malformed unlabelled => simp [unlabelled]
  | unlisted labelled _ fails => simp [labelled, fails.ne_malformedFlow]
  | submitted labelled _ _ _ _ ends =>
    cases ends with
    | refused fault fails => simp [labelled, fails.ne_malformedFlow]
    | accepted => simp [labelled]

theorem phases (h : Course c flow log result) (hne : log ≠ []) :
    ∃ outcome reads changes, Phases c outcome reads changes ∧ log = reads ++ changes := by
  cases h with
  | malformed => exact absurd rfl hne
  | unlisted _ lists => exact ⟨_, _, _, .listing lists, (List.append_nil _).symm⟩
  | submitted _ lists listed demands submits =>
    exact ⟨_, _, _, .change lists listed demands.method_ne_get submits, rfl⟩

/-- What holds of the two parts of a log, and of an empty one, holds of every log. -/
theorem phases_cases {P : Log → Prop} (h : Course c flow log result) (hempty : P [])
    (hparts : ∀ {outcome reads changes}, Phases c outcome reads changes → P (reads ++ changes)) :
    P log := by
  by_cases hne : log = []
  · exact hne ▸ hempty
  · obtain ⟨outcome, reads, changes, hphases, rfl⟩ := h.phases hne
    exact hparts hphases

theorem listsFirst (h : Course c flow log result) :
    ∀ entry ∈ log.find? isReached, entry.1 = c.listRequest :=
  h.phases_cases (P := fun log => ∀ entry ∈ log.find? isReached, entry.1 = c.listRequest)
    (by simp) Phases.listsFirst

theorem twoParts (h : Course c flow log result) :
    log = log.filter (!isChange ·) ++ log.filter isChange :=
  h.phases_cases (P := fun log => log = log.filter (!isChange ·) ++ log.filter isChange)
    rfl Phases.twoParts

theorem once (h : Course c flow log result) :
    (log.filter fun entry => isReached entry && isChange entry).length ≤ 1 :=
  h.phases_cases
    (P := fun log => (log.filter fun entry => isReached entry && isChange entry).length ≤ 1)
    (Nat.zero_le 1) Phases.once

theorem lists_cases (h : Course c flow log result) (hne : log ≠ []) :
    ∃ outcome, Sends c.retries c.listRequest (log.filter (!isChange ·)) outcome := by
  obtain ⟨outcome, reads, changes, hphases, rfl⟩ := h.phases hne
  rw [hphases.filter_not_isChange]
  exact ⟨outcome, hphases.lists⟩

theorem changes_iff (h : Course c flow log result) :
    (∃ entry ∈ log, isChange entry = true) ↔ ∃ listing, c.HasListed log listing := by
  cases h with
  | malformed => simp [Client.HasListed]
  | unlisted _ lists fails =>
    have hphases : Phases c _ log [] := .listing lists
    constructor
    · rintro ⟨entry, hentry, hchange⟩
      rw [hphases.not_isChange_of_mem entry hentry] at hchange
      cases hchange
    · rintro ⟨listing, hlisted⟩
      exact absurd hlisted (fails.not_hasListed hphases)
  | @submitted _ _ _ bytes listing request _ _ _ _ lists listed demands submits =>
    constructor
    · exact fun _ => ⟨listing, bytes, List.mem_append_left _ lists.mem, listed⟩
    · exact fun _ => ⟨_, List.mem_append_right _ submits.mem,
        isChange_of_ne_get demands.method_ne_get⟩

theorem change (h : Course c flow log result) (hlabel : HasLabel flow label)
    (hlisted : c.HasListed log listing) :
    ∃ sub request deployment outcome, Submission.ofFlow? flow = some sub ∧ sub.label = label ∧
      c.Demands sub listing request deployment ∧
      Sends c.retries request (log.filter isChange) outcome := by
  obtain ⟨sub', hsub', rfl⟩ := hasLabel_iff.mp hlabel
  cases h with
  | malformed unlabelled => rw [hsub'] at unlabelled; cases unlabelled
  | unlisted _ lists fails => exact absurd hlisted (fails.not_hasListed (.listing lists))
  | @submitted sub reads changes bytes listed' request deployment outcome _ labelled lists listed
      demands submits =>
    rw [hsub'] at labelled
    obtain rfl := Option.some.inj labelled
    have hphases : Phases c _ reads changes := .change lists listed demands.method_ne_get submits
    obtain rfl := (hphases.hasListed_iff_eq listed).mp hlisted
    rw [hphases.filter_isChange]
    exact ⟨_, request, deployment, outcome, hsub', rfl, demands, submits⟩

theorem ok_iff (h : Course c flow log result) (d : Deployment) :
    result = .ok d ↔ ∃ entry ∈ log, entry.1.method = d.method ∧ entry.2.isAccepted = true := by
  have hlists : ∀ {reads : Log} {outcome : Outcome} {entry : Request × Outcome},
      Sends c.retries c.listRequest reads outcome → entry ∈ reads → entry.1.method ≠ d.method := by
    intro reads outcome entry lists hentry hmethod
    rw [lists.request_eq hentry] at hmethod
    exact d.method_ne_get hmethod.symm
  cases h with
  | malformed => simp
  | unlisted _ lists =>
    constructor
    · nofun
    · rintro ⟨entry, hentry, hmethod, -⟩
      exact absurd hmethod (hlists lists hentry)
  | @submitted _ reads changes _ _ request deployment outcome _ _ lists _ demands submits ends =>
    -- an accepted change can only be the last attempt
    have hsubmits : ∀ entry ∈ reads ++ changes, entry.1.method = d.method →
        entry.2.isAccepted = true → entry = (request, outcome) := by
      intro entry hentry hmethod haccepted
      rcases List.mem_append.mp hentry with hentry | hentry
      · exact absurd hmethod (hlists lists hentry)
      · exact submits.eq_of_isReached hentry (isReached_of_isAccepted haccepted)
    cases ends with
    | refused fault fails =>
      constructor
      · nofun
      · rintro ⟨entry, hentry, hmethod, haccepted⟩
        cases hsubmits entry hentry hmethod haccepted
        rw [fails.isAccepted_eq_false demands.method_ne_get] at haccepted
        cases haccepted
    | accepted accepts =>
      constructor
      · intro hd
        cases hd
        exact ⟨_, List.mem_append_right _ submits.mem, demands.method_eq, accepts⟩
      · rintro ⟨entry, hentry, hmethod, haccepted⟩
        cases hsubmits entry hentry hmethod haccepted
        rw [Deployment.method_inj (demands.method_eq.symm.trans hmethod)]

theorem error_iff (h : Course c flow log result) (hlabel : ∃ label, HasLabel flow label)
    (fault : Fault) :
    result = .error fault ↔ ∃ entry ∈ log.getLast?, Fails entry.1 entry.2 fault := by
  cases h with
  | malformed unlabelled => exact absurd hlabel (ofFlow?_eq_none_iff.mp unlabelled)
  | unlisted _ lists fails =>
    simp only [lists.getLast?_eq, Option.mem_def, Option.some.injEq, exists_eq_left',
      Except.error.injEq]
    exact ⟨fun heq => heq ▸ fails, fails.unique⟩
  | @submitted _ reads changes _ _ request deployment outcome _ _ lists _ demands submits ends =>
    have hlast : (reads ++ changes).getLast? = some (request, outcome) := by
      rw [List.getLast?_append, submits.getLast?_eq, Option.some_or]
    simp only [hlast, Option.mem_def, Option.some.injEq, exists_eq_left']
    cases ends with
    | refused _ fails =>
      rw [Except.error.injEq]
      exact ⟨fun heq => heq ▸ fails, fails.unique⟩
    | accepted accepts =>
      refine ⟨nofun, fun fails => ?_⟩
      rw [fails.isAccepted_eq_false demands.method_ne_get] at accepts
      cases accepts

theorem followsProtocol (h : Course c flow log result) : FollowsProtocol c flow log result where
  mounted := c.isMountedAt_mount
  flowsPath := by rw [Client.endpoint_path isPlainSegment_flows, String.append_assoc]; rfl
  flowPath := by rw [Client.endpoint_path isPlainSegment_flow, String.append_assoc]; rfl
  silent := h.silent
  malformed := h.malformed_iff
  listsFirst := h.listsFirst
  twoParts := h.twoParts
  lists := h.lists_cases
  changes := h.changes_iff
  change := fun _ _ => h.change
  once := h.once
  succeeds := h.ok_iff
  fails := h.error_iff

end Course

/-- **A deployment follows the protocol.**  The client may be any whose token can be written into a
header, the flow any, and the engine may answer as it likes, also with regard to everything that it
has been asked before. -/
theorem deploy_protocol (hc : c.IsSendable) (flow : Flow) (engine : Behaviour) :
    FollowsProtocol c flow ((c.deploy flow).run.record engine).2
      ((c.deploy flow).run.record engine).1 :=
  (deploy_course hc (Conversation.record_logs engine _)).followsProtocol

/-- A client with a token, which asks below a folder. -/
def tokenClient : Client :=
  ⟨⟨false, "", "localhost", some 1880, ⟨[], ["red".toList]⟩, none, none⟩, some "t0", 1000, 3, 100⟩

/-- A flow of a node and a tab with a label. -/
def labelledFlow : Flow :=
  [⟨"d4", "debug", some "c3", []⟩, ⟨"c3", "tab", none, [("label", .str "sensorA")]⟩]

/-- A listing of a tab with the label. -/
def labelledListing : Json :=
  .arr [.obj [("id", .str "1b.a2"), ("type", .str "tab"), ("label", .str "sensorA")]]

/-- An engine that is late, then lists the tab, and accepts every change. -/
def lateEngine : Behaviour := fun log request =>
  if log.isEmpty then .unreachable
  else if request.method = .get then
    .answered ⟨200, .whole (Text.utf8Bytes labelledListing.compact)⟩
  else .answered ⟨204, .whole []⟩

theorem tokenClient_isSendable : tokenClient.IsSendable := by
  intro token htoken
  obtain rfl := Option.some.inj htoken
  rw [String.all_bool_eq]
  decide

/-- The listed tab is replaced in three attempts, the first of them without a connection. -/
theorem deploy_protocol_late :
    tokenClient.IsSendable ∧
      FollowsProtocol tokenClient labelledFlow
        ((tokenClient.deploy labelledFlow).run.record lateEngine).2
        ((tokenClient.deploy labelledFlow).run.record lateEngine).1 ∧
      ((tokenClient.deploy labelledFlow).run.record lateEngine).1.toOption = some .updated ∧
      (((tokenClient.deploy labelledFlow).run.record lateEngine).2.map fun entry =>
        (entry.1.method, entry.1.url.path.text)) =
        [(.get, "/red/flows"), (.get, "/red/flows"), (.put, "/red/flow/1b.a2")] := by
  have hsendable : ∀ method url body,
      Request.isSendable ⟨method, url, tokenClient.token, body⟩ = true :=
    fun _ _ _ => Request.isSendable_of_token tokenClient_isSendable
  refine ⟨tokenClient_isSendable, deploy_protocol tokenClient_isSendable labelledFlow lateEngine,
    ?_, ?_⟩
  · simp only [Client.deploy, Client.list, Client.submit, send_eq (hsendable _ _ _)]
    decide +kernel
  · simp only [Client.deploy, Client.list, Client.submit, send_eq (hsendable _ _ _)]
    decide +kernel

end UplinkFlow.Engine
