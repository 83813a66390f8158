import UplinkFlow.Proofs.Engine.Matching
import UplinkFlow.Proofs.Engine.Protocol

/-!
# The protocol of a deletion

* `Client.HasFound` — the flow that a deletion has found in the listing.
* `RemovalFails`, `removal_fails_iff` — the fault that a removal leaves.
* `DeletionCourse`, `delete_course` — the ways that a deletion can go.
* `FollowsDeletion` — what the label, the log of a deletion and the result tell of each other.
* `delete_protocol` — **a deletion follows the protocol, whatever the engine does**: that nothing is
  deployed is told only of a listing that has been read.
-/

set_option autoImplicit false

namespace UplinkFlow.Engine

variable {c : Client} {label id : String} {log reads changes : Log} {request : Request}
  {outcome : Outcome} {fault : Fault} {listing : Listing} {result : Except Fault Deletion}

/-! ## Listings -/

theorem Listing.HasFirstTab.unique {id' : String} (h : listing.HasFirstTab label id)
    (h' : listing.HasFirstTab label id') : id = id' := by
  rw [← Listing.tabId?_eq_some_iff] at h h'
  exact Option.some.inj (h.symm.trans h')

theorem Listing.HasFirstTab.exists_isTabOf (h : listing.HasFirstTab label id) :
    ∃ n ∈ listing, n.IsTabOf label := by
  obtain ⟨before, node, after, rfl, -, hnode, -⟩ := h
  exact ⟨node, List.mem_append_right before List.mem_cons_self, hnode⟩

/-- The listing in a log has a first tab with a label, which has an identifier. -/
def Client.HasFound (c : Client) (log : Log) (label id : String) : Prop :=
  ∃ listing, c.HasListed log listing ∧ listing.HasFirstTab label id

/-! ## Faults -/

/-- The response to a request is that there is no such flow. -/
def Outcome.IsMissing (outcome : Outcome) : Prop := ∃ content, outcome = .answered ⟨404, content⟩

theorem Outcome.IsMissing.isAccepted_eq_false (h : outcome.IsMissing) :
    outcome.isAccepted = false := by
  obtain ⟨content, rfl⟩ := h
  rfl

/-- The fault that a removal leaves: a flow that is missing is named, and otherwise it is the fault
of any request. -/
inductive RemovalFails (id : String) (request : Request) (outcome : Outcome) : Fault → Prop where
  | missing (missing : outcome.IsMissing) : RemovalFails id request outcome (.notFound id)
  | other {fault : Fault} (present : ¬outcome.IsMissing) (fails : Fails request outcome fault) :
    RemovalFails id request outcome fault

theorem Fails.ne_notFound (h : Fails request outcome fault) (id : String) :
    fault ≠ .notFound id := by
  cases h <;> nofun

theorem settle_checkDeletion (h : ¬outcome.IsMissing) :
    (Client.settle request outcome >>= Client.checkDeletion id) =
      (Client.settle request outcome >>= Client.checkChange) := by
  cases outcome with
  | answered response =>
    have hstatus : response.status ≠ 404 := by
      intro hstatus
      obtain ⟨status, content⟩ := response
      cases hstatus
      exact h ⟨content, rfl⟩
    exact if_neg hstatus
  | unreachable => rfl
  | connectTimedOut => rfl
  | timedOut => rfl
  | failed => rfl

theorem removal_fails_iff (hchange : request.method ≠ .get) :
    (Client.settle request outcome >>= Client.checkDeletion id) = .error fault ↔
      RemovalFails id request outcome fault := by
  by_cases hmissing : outcome.IsMissing
  · have hfault : (Client.settle request outcome >>= Client.checkDeletion id) =
        .error (.notFound id) := by
      obtain ⟨content, rfl⟩ := hmissing
      rfl
    rw [hfault, Except.error.injEq]
    constructor
    · rintro rfl
      exact .missing hmissing
    · intro h
      cases h with
      | missing => rfl
      | other present => exact absurd hmissing present
  · rw [settle_checkDeletion hmissing, change_fails_iff hchange]
    constructor
    · exact .other hmissing
    · intro h
      cases h with
      | missing missing => exact absurd missing hmissing
      | other _ fails => exact fails

namespace RemovalFails

theorem isAccepted_eq_false (h : RemovalFails id request outcome fault)
    (hchange : request.method ≠ .get) : outcome.isAccepted = false := by
  cases h with
  | missing missing => exact missing.isAccepted_eq_false
  | other _ fails => exact fails.isAccepted_eq_false hchange

theorem eq_notFound_iff (h : RemovalFails id request outcome fault) {id' : String} :
    fault = .notFound id' ↔ id' = id ∧ outcome.IsMissing := by
  cases h with
  | missing missing =>
    constructor
    · intro heq
      cases heq
      exact ⟨rfl, missing⟩
    · rintro ⟨rfl, -⟩
      rfl
  | other present fails =>
    exact ⟨fun heq => absurd heq (fails.ne_notFound id'), fun h => absurd h.2 present⟩

end RemovalFails

/-! ## Courses -/

/-- How a removal ends. -/
inductive RemovalEnds (id : String) (request : Request) (outcome : Outcome) :
    Except Fault Deletion → Prop where
  | refused (fault : Fault) (fails : RemovalFails id request outcome fault) :
    RemovalEnds id request outcome (.error fault)
  | accepted (accepts : outcome.isAccepted = true) :
    RemovalEnds id request outcome (.ok (.deleted id))

/-- The ways that a deletion can go: it ends with the listing, which fails or has no tab with the
label, or with the removal of the first such tab. -/
inductive DeletionCourse (c : Client) (label : String) : Log → Except Fault Deletion → Prop where
  | unlisted {log : Log} {outcome : Outcome} {fault : Fault}
    (lists : Sends c.retries c.listRequest log outcome)
    (fails : Fails c.listRequest outcome fault) : DeletionCourse c label log (.error fault)
  | absent {log : Log} {bytes : List UInt8} {listing : Listing}
    (lists : Sends c.retries c.listRequest log (.answered ⟨200, .whole bytes⟩))
    (listed : Listing.ofBytes? bytes = some listing)
    (absent : ∀ n ∈ listing, ¬n.IsTabOf label) : DeletionCourse c label log (.ok .notDeployed)
  | removed {reads changes : Log} {bytes : List UInt8} {listing : Listing} {id : String}
    {outcome : Outcome} {result : Except Fault Deletion}
    (lists : Sends c.retries c.listRequest reads (.answered ⟨200, .whole bytes⟩))
    (listed : Listing.ofBytes? bytes = some listing) (first : listing.HasFirstTab label id)
    (removes : Sends c.retries (c.deleteRequest id) changes outcome)
    (ends : RemovalEnds id (c.deleteRequest id) outcome result) :
    DeletionCourse c label (reads ++ changes) result

theorem deleteRequest_ne_get : (c.deleteRequest id).method ≠ .get := nofun

theorem remove_logs (hc : c.IsSendable) (h : (do
      let response ← c.send .delete (c.endpoint ["flow", id]) none
      Client.checkDeletion id response
      return .deleted id : Exchange Deletion).run.Logs log result) :
    ∃ outcome, Sends c.retries (c.deleteRequest id) log outcome ∧
      RemovalEnds id (c.deleteRequest id) outcome result := by
  obtain ⟨outcome, hsends, hresult⟩ :=
    checked_logs (hc.isSendable _ _ _) (run_checkDeletion id) h
  refine ⟨outcome, hsends, ?_⟩
  have hchecked : result = (Client.settle (c.deleteRequest id) outcome >>=
      Client.checkDeletion id).map fun _ => .deleted id := by
    rw [hresult]
    cases outcome <;> rfl
  rw [hchecked]
  cases hcheck : Client.settle (c.deleteRequest id) outcome >>= Client.checkDeletion id with
  | error fault => exact .refused fault ((removal_fails_iff deleteRequest_ne_get).mp hcheck)
  | ok value =>
    obtain ⟨response, hsettle, haccepted⟩ := bind_eq_ok_iff.mp hcheck
    obtain rfl := settle_eq_ok.mp hsettle
    exact .accepted (checkDeletion_eq_ok haccepted)

/-- Every log of a deletion is that of a course. -/
theorem delete_course (hc : c.IsSendable) (h : (c.delete label).run.Logs log result) :
    DeletionCourse c label log result := by
  unfold Client.delete at h
  rcases Conversation.Logs.andThen_cases h with
    ⟨fault, rfl, hlist⟩ | ⟨listing, reads, changes, hlist, hremove, rfl⟩
  · obtain ⟨outcome, hlists, hresult⟩ := list_logs hc hlist
    exact .unlisted hlists ((list_fails_iff rfl).mp hresult.symm)
  · obtain ⟨outcome, hlists, hresult⟩ := list_logs hc hlist
    obtain ⟨response, hsettle, hread⟩ := bind_eq_ok_iff.mp hresult.symm
    obtain rfl := settle_eq_ok.mp hsettle
    obtain ⟨bytes, rfl, hbytes⟩ := readListing_eq_ok hread
    cases hid : listing.tabId? label with
    | none =>
      rw [hid] at hremove
      obtain ⟨rfl, rfl⟩ := Conversation.Logs.done_iff.mp hremove
      rw [List.append_nil]
      exact .absent hlists hbytes (Listing.tabId?_eq_none_iff.mp hid)
    | some id =>
      rw [hid] at hremove
      obtain ⟨outcome, hremoves, hends⟩ := remove_logs hc hremove
      exact .removed hlists hbytes (Listing.tabId?_eq_some_iff.mp hid) hremoves hends

/-! ## The protocol -/

/-- What the label, the log of a deletion and the result tell of each other.

* `mounted`, `flowsPath` — the engine is asked behind the path of its address;
* `listsFirst` — the first request that comes to the engine is the one for the listing;
* `twoParts`, `lists` — the listing is asked for in one request, which is over before any change;
* `notDeployed`, `nothingMore` — nothing is deployed exactly if the listing has been answered, can
  be read and has no tab with the label, and then nothing else is asked;
* `removes` — a change is asked for exactly if the listing has a first tab with the label;
* `removal`, `once` — that is one request, the one that removes this tab, and it comes to the engine
  once at most;
* `deleted`, `notFound` — the result names the tab exactly if its removal has been accepted, or if
  the tab has been missing;
* `fails` — any other fault is the one that the last request leaves. -/
structure FollowsDeletion (c : Client) (label : String) (log : Log)
    (result : Except Fault Deletion) : Prop where
  mounted : c.base.path.IsMountedAt c.mount
  flowsPath : (c.endpoint ["flows"]).path.text = c.mount ++ "/flows"
  listsFirst : ∀ entry ∈ log.find? isReached, entry.1 = c.listRequest
  twoParts : log = log.filter (!isChange ·) ++ log.filter isChange
  lists : ∃ outcome, Sends c.retries c.listRequest (log.filter (!isChange ·)) outcome
  notDeployed : result = .ok .notDeployed ↔
    ∃ listing, c.HasListed log listing ∧ ∀ n ∈ listing, ¬n.IsTabOf label
  nothingMore : result = .ok .notDeployed → log.filter isChange = []
  removes : (∃ entry ∈ log, isChange entry = true) ↔ ∃ id, c.HasFound log label id
  removal : ∀ id, c.HasFound log label id →
    ∃ outcome, Sends c.retries (c.deleteRequest id) (log.filter isChange) outcome
  once : (log.filter fun entry => isReached entry && isChange entry).length ≤ 1
  deleted : ∀ id, result = .ok (.deleted id) ↔
    c.HasFound log label id ∧ ∃ entry ∈ log, entry.1.method = .delete ∧ entry.2.isAccepted = true
  notFound : ∀ id, result = .error (.notFound id) ↔
    c.HasFound log label id ∧ ∃ entry ∈ log, entry.1.method = .delete ∧ entry.2.IsMissing
  fails : ∀ fault, (∀ id, fault ≠ .notFound id) → (result = .error fault ↔
    ∃ entry ∈ log.getLast?, Fails entry.1 entry.2 fault ∧
      ¬(entry.1.method = .delete ∧ entry.2.IsMissing))

namespace DeletionCourse

theorem phases (h : DeletionCourse c label log result) :
    ∃ outcome reads changes, Phases c outcome reads changes ∧ log = reads ++ changes := by
  cases h with
  | unlisted lists => exact ⟨_, _, _, .listing lists, (List.append_nil _).symm⟩
  | absent lists => exact ⟨_, _, _, .listing lists, (List.append_nil _).symm⟩
  | removed lists listed _ removes =>
    exact ⟨_, _, _, .change lists listed deleteRequest_ne_get removes, rfl⟩

/-- The listing of a course that has found nothing has no tab with the label. -/
theorem not_hasFound_of_absent {bytes : List UInt8}
    (lists : Sends c.retries c.listRequest log (.answered ⟨200, .whole bytes⟩))
    (listed : Listing.ofBytes? bytes = some listing) (absent : ∀ n ∈ listing, ¬n.IsTabOf label) :
    ¬c.HasFound log label id := by
  rintro ⟨listing', hlisted, hfirst⟩
  have hphases : Phases c _ log [] := .listing lists
  rw [← List.append_nil log, hphases.hasListed_iff_eq listed] at hlisted
  obtain ⟨n, hn, htab⟩ := hfirst.exists_isTabOf
  exact absent n (hlisted ▸ hn) htab

theorem removal (h : DeletionCourse c label log result) (hfound : c.HasFound log label id) :
    ∃ outcome, Sends c.retries (c.deleteRequest id) (log.filter isChange) outcome ∧
      RemovalEnds id (c.deleteRequest id) outcome result := by
  cases h with
  | unlisted lists fails =>
    obtain ⟨listing, hlisted, -⟩ := hfound
    exact absurd hlisted (fails.not_hasListed (.listing lists))
  | absent lists listed absent => exact absurd hfound (not_hasFound_of_absent lists listed absent)
  | @removed reads changes bytes listing id' outcome _ lists listed first removes ends =>
    obtain ⟨listing', hlisted, hfirst⟩ := hfound
    have hphases : Phases c _ reads changes := .change lists listed deleteRequest_ne_get removes
    obtain rfl := (hphases.hasListed_iff_eq listed).mp hlisted
    obtain rfl := first.unique hfirst
    rw [hphases.filter_isChange]
    exact ⟨outcome, removes, ends⟩

theorem hasFound (h : DeletionCourse c label log result) {entry : Request × Outcome}
    (hentry : entry ∈ log) (hchange : isChange entry = true) : ∃ id, c.HasFound log label id := by
  cases h with
  | unlisted lists | absent lists =>
    have hphases : Phases c _ log [] := .listing lists
    rw [hphases.not_isChange_of_mem entry hentry] at hchange
    cases hchange
  | @removed reads changes bytes listing id outcome _ lists listed first =>
    exact ⟨id, listing, ⟨bytes, List.mem_append_left _ lists.mem, listed⟩, first⟩

/-- The attempt of a removal that comes to the engine is the last one. -/
theorem of_exists_delete {P : Outcome → Prop}
    (hP : ∀ o, P o → o.isUnconnected = false)
    (hremoves : Sends c.retries (c.deleteRequest id) (log.filter isChange) outcome)
    (hdelete : ∃ entry ∈ log, entry.1.method = .delete ∧ P entry.2) : P outcome := by
  obtain ⟨entry, hentry, hmethod, houtcome⟩ := hdelete
  have hchange : isChange entry = true := isChange_of_ne_get (hmethod ▸ nofun)
  have hreached : isReached entry = true := by rw [isReached, hP _ houtcome]; rfl
  rwa [hremoves.eq_of_isReached (List.mem_filter.mpr ⟨hentry, hchange⟩) hreached] at houtcome

theorem changes_iff (h : DeletionCourse c label log result) :
    (∃ entry ∈ log, isChange entry = true) ↔ ∃ id, c.HasFound log label id := by
  constructor
  · rintro ⟨entry, hentry, hchange⟩
    exact h.hasFound hentry hchange
  · rintro ⟨id, hfound⟩
    obtain ⟨outcome, hremoves, -⟩ := h.removal hfound
    exact ⟨_, List.mem_filter.mp hremoves.mem⟩

theorem notDeployed_iff (h : DeletionCourse c label log result) : result = .ok .notDeployed ↔
    ∃ listing, c.HasListed log listing ∧ ∀ n ∈ listing, ¬n.IsTabOf label := by
  cases h with
  | unlisted lists fails =>
    refine ⟨nofun, ?_⟩
    rintro ⟨listing, hlisted, -⟩
    exact absurd hlisted (fails.not_hasListed (.listing lists))
  | @absent log bytes listing lists listed absent =>
    exact ⟨fun _ => ⟨listing, ⟨bytes, lists.mem, listed⟩, absent⟩, fun _ => rfl⟩
  | @removed reads changes bytes listing id outcome _ lists listed first removes ends =>
    constructor
    · rintro rfl
      cases ends
    · rintro ⟨listing', hlisted, habsent⟩
      have hphases : Phases c _ reads changes := .change lists listed deleteRequest_ne_get removes
      obtain rfl := (hphases.hasListed_iff_eq listed).mp hlisted
      obtain ⟨n, hn, htab⟩ := first.exists_isTabOf
      exact absurd htab (habsent n hn)

theorem nothingMore (h : DeletionCourse c label log result) (hresult : result = .ok .notDeployed) :
    log.filter isChange = [] := by
  obtain ⟨listing, hlisted, habsent⟩ := h.notDeployed_iff.mp hresult
  refine List.filter_eq_nil_iff.mpr fun entry hentry hchange => ?_
  obtain ⟨id, hfound⟩ := h.hasFound hentry hchange
  obtain ⟨outcome, -, hends⟩ := h.removal hfound
  rw [hresult] at hends
  cases hends

theorem hasFound_of_named (h : DeletionCourse c label log result)
    (hnamed : result = .ok (.deleted id) ∨ result = .error (.notFound id)) :
    c.HasFound log label id := by
  cases h with
  | unlisted lists fails =>
    rcases hnamed with hnamed | hnamed
    · cases hnamed
    · exact absurd (Except.error.inj hnamed) (fails.ne_notFound id)
  | absent => rcases hnamed with hnamed | hnamed <;> cases hnamed
  | @removed reads changes bytes listing id' outcome _ lists listed first removes ends =>
    refine ⟨listing, ⟨bytes, List.mem_append_left _ lists.mem, listed⟩, ?_⟩
    cases ends with
    | refused fault fails =>
      rcases hnamed with hnamed | hnamed
      · cases hnamed
      · obtain ⟨rfl, -⟩ := fails.eq_notFound_iff.mp (Except.error.inj hnamed)
        exact first
    | accepted accepts =>
      rcases hnamed with hnamed | hnamed
      · cases hnamed
        exact first
      · cases hnamed

theorem deleted_iff (h : DeletionCourse c label log result) :
    result = .ok (.deleted id) ↔ c.HasFound log label id ∧
      ∃ entry ∈ log, entry.1.method = .delete ∧ entry.2.isAccepted = true := by
  constructor
  · rintro rfl
    have hfound := h.hasFound_of_named (.inl rfl)
    obtain ⟨outcome, hremoves, hends⟩ := h.removal hfound
    cases hends with
    | accepted accepts => exact ⟨hfound, _, (List.mem_filter.mp hremoves.mem).1, rfl, accepts⟩
  · rintro ⟨hfound, hdelete⟩
    obtain ⟨outcome, hremoves, hends⟩ := h.removal hfound
    have haccepted : outcome.isAccepted = true :=
      of_exists_delete (fun _ => Outcome.isUnconnected_of_isAccepted) hremoves hdelete
    cases hends with
    | refused fault fails =>
      rw [fails.isAccepted_eq_false deleteRequest_ne_get] at haccepted
      cases haccepted
    | accepted => rfl

theorem notFound_iff (h : DeletionCourse c label log result) :
    result = .error (.notFound id) ↔ c.HasFound log label id ∧
      ∃ entry ∈ log, entry.1.method = .delete ∧ entry.2.IsMissing := by
  constructor
  · rintro rfl
    have hfound := h.hasFound_of_named (.inr rfl)
    obtain ⟨outcome, hremoves, hends⟩ := h.removal hfound
    cases hends with
    | refused _ fails =>
      obtain ⟨-, hmissing⟩ := fails.eq_notFound_iff.mp rfl
      exact ⟨hfound, _, (List.mem_filter.mp hremoves.mem).1, rfl, hmissing⟩
  · rintro ⟨hfound, hdelete⟩
    obtain ⟨outcome, hremoves, hends⟩ := h.removal hfound
    have hmissing : outcome.IsMissing := 
      of_exists_delete (by rintro _ ⟨_, rfl⟩; rfl) hremoves hdelete
    cases hends with
    | refused fault fails => rw [fails.eq_notFound_iff.mpr ⟨rfl, hmissing⟩]
    | accepted accepts =>
      rw [hmissing.isAccepted_eq_false] at accepts
      cases accepts

theorem error_iff (h : DeletionCourse c label log result) (hother : ∀ id, fault ≠ .notFound id) :
    result = .error fault ↔ ∃ entry ∈ log.getLast?, Fails entry.1 entry.2 fault ∧
      ¬(entry.1.method = .delete ∧ entry.2.IsMissing) := by
  cases h with
  | unlisted lists fails =>
    simp only [lists.getLast?_eq, Option.mem_def, Option.some.injEq, exists_eq_left',
      Except.error.injEq]
    constructor
    · rintro rfl
      exact ⟨fails, nofun⟩
    · exact fun h => fails.unique h.1
  | absent lists listed =>
    simp only [lists.getLast?_eq, Option.mem_def, Option.some.injEq, exists_eq_left']
    exact ⟨nofun, fun h => absurd h.1 (Fails.not_listed listed)⟩
  | @removed reads changes bytes listing id outcome _ lists listed first removes ends =>
    have hlast : (reads ++ changes).getLast? = some (c.deleteRequest id, outcome) := by
      rw [List.getLast?_append, removes.getLast?_eq, Option.some_or]
    simp only [hlast, Option.mem_def, Option.some.injEq, exists_eq_left']
    cases ends with
    | refused _ fails =>
      rw [Except.error.injEq]
      cases fails with
      | missing missing =>
        exact ⟨fun h => absurd h.symm (hother id), fun h => absurd ⟨rfl, missing⟩ h.2⟩
      | other present fails =>
        constructor
        · rintro rfl
          exact ⟨fails, fun h => present h.2⟩
        · exact fun h => fails.unique h.1
    | accepted accepts =>
      refine ⟨nofun, fun h => ?_⟩
      rw [h.1.isAccepted_eq_false deleteRequest_ne_get] at accepts
      cases accepts

theorem followsDeletion (h : DeletionCourse c label log result) :
    FollowsDeletion c label log result := by
  obtain ⟨outcome, reads, changes, hphases, hlog⟩ := h.phases
  exact {
    mounted := c.isMountedAt_mount
    flowsPath := by rw [Client.endpoint_path isPlainSegment_flows, String.append_assoc]; rfl
    listsFirst := hlog ▸ hphases.listsFirst
    twoParts := hlog ▸ hphases.twoParts
    lists := ⟨outcome, by rw [hlog, hphases.filter_not_isChange]; exact hphases.lists⟩
    notDeployed := h.notDeployed_iff
    nothingMore := h.nothingMore
    removes := h.changes_iff
    removal := fun id hfound => (h.removal hfound).imp fun _ => And.left
    once := hlog ▸ hphases.once
    deleted := fun _ => h.deleted_iff
    notFound := fun _ => h.notFound_iff
    fails := fun _ => h.error_iff }

end DeletionCourse

/-- **A deletion follows the protocol.**  The client may be any whose token can be written into a
header, the label any, and the engine may answer as it likes, also with regard to everything that it
has been asked before. -/
theorem delete_protocol (hc : c.IsSendable) (label : String) (engine : Behaviour) :
    FollowsDeletion c label ((c.delete label).run.record engine).2
      ((c.delete label).run.record engine).1 :=
  (delete_course hc (Conversation.record_logs engine _)).followsDeletion

/-- The listed tab is removed in three attempts, the first of them without a connection. -/
theorem delete_protocol_late :
    tokenClient.IsSendable ∧
      FollowsDeletion tokenClient "sensorA"
        ((tokenClient.delete "sensorA").run.record lateEngine).2
        ((tokenClient.delete "sensorA").run.record lateEngine).1 ∧
      ((tokenClient.delete "sensorA").run.record lateEngine).1.toOption =
        some (.deleted "1b.a2") ∧
      (((tokenClient.delete "sensorA").run.record lateEngine).2.map fun entry =>
        (entry.1.method, entry.1.url.path.text)) =
        [(.get, "/red/flows"), (.get, "/red/flows"), (.delete, "/red/flow/1b.a2")] := by
  refine ⟨tokenClient_isSendable, delete_protocol tokenClient_isSendable "sensorA" lateEngine,
    ?_, ?_⟩
  · simp only [Client.delete, Client.list, send_eq (tokenClient_isSendable.isSendable _ _ _)]
    decide +kernel
  · simp only [Client.delete, Client.list, send_eq (tokenClient_isSendable.isSendable _ _ _)]
    decide +kernel

/-- A label that stands on no listed tab is asked for once, and that is all. -/
example :
    ((tokenClient.delete "sensorB").run.record lateEngine).1.toOption = some .notDeployed ∧
      ((tokenClient.delete "sensorB").run.record lateEngine).2.length = 2 := by
  simp only [Client.delete, Client.list, send_eq (tokenClient_isSendable.isSendable _ _ _)]
  decide +kernel

end UplinkFlow.Engine
