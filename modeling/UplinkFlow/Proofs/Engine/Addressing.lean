import UplinkFlow.Proofs.Engine.Matching
import UplinkFlow.Proofs.Url.Segment

/-!
# Where a change of a flow is addressed

A flow is replaced and deleted under the identifier that the engine lists for it, which can be any
text.

* `AddressesFlows` — what the addresses of flows tell of their identifiers.
* `ofUrl_addressesFlows` — **a change is addressed to the flow that was found exactly if the
  identifier is a whole segment and the engine is not at the empty folder of the root.**
* `flows_share_address` — identifiers of other forms share an address with those of other flows.
-/

set_option autoImplicit false

namespace UplinkFlow.Engine

open Url (IsWholeSegment)

variable {c : Client} {log : Log} {id other : String}

/-- The address under which a flow is replaced and deleted. -/
def Client.flowPath (c : Client) (id : String) : Url.Path := (c.endpoint ["flow", id]).path

/-- What the addresses of flows tell of their identifiers.

* `found` — the path of a flow is the base path, `flow/` and one segment that stands for the
  identifier, exactly if that is a whole segment and the base path is not the empty folder;
* `distinct` — whole segments are addressed by different paths, behind any base path;
* `updates` — a flow is replaced at the address of the first listed tab with its label;
* `deletes` — so it is deleted there. -/
structure AddressesFlows (c : Client) : Prop where
  found : ∀ id, c.base.path.LeadsTo (c.flowPath id) "flow" id ↔
    c.base.path.text ≠ "//" ∧ IsWholeSegment id
  distinct : ∀ id other, IsWholeSegment id → IsWholeSegment other →
    (c.flowPath id).text = (c.flowPath other).text → id = other
  updates : ∀ (engine : Behaviour) (flow : Flow), ∀ entry ∈ ((c.deploy flow).run.record engine).2,
    entry.1.method = .put → ∃ sub listing id, Submission.ofFlow? flow = some sub ∧
      c.HasListed ((c.deploy flow).run.record engine).2 listing ∧
      listing.HasFirstTab sub.label id ∧ entry.1.url.path = c.flowPath id
  deletes : ∀ (engine : Behaviour) (label : String),
    ∀ entry ∈ ((c.delete label).run.record engine).2, entry.1.method = .delete →
      ∃ listing id, c.HasListed ((c.delete label).run.record engine).2 listing ∧
        listing.HasFirstTab label id ∧ entry.1.url.path = c.flowPath id

/-! ## Paths -/

theorem asFolder_last (p : Url.Path) : p.asFolder.last = [] := by
  unfold Url.Path.asFolder
  split
  · rename_i hlast
    exact List.isEmpty_iff.mp hlast
  · rfl

theorem flowPath_found (hfolder : c.base.path.last = []) (id : String) :
    c.base.path.LeadsTo (c.flowPath id) "flow" id ↔
      c.base.path.text ≠ "//" ∧ IsWholeSegment id := by
  have htext : c.base.path.text ≠ "//" ↔ c.base.path.chars ≠ ['/', '/'] := by
    refine not_congr ⟨fun h => ?_, fun h => congrArg String.ofList h⟩
    exact String.ofList_injective h
  rw [htext]
  exact Url.Path.leadsTo_iff isPlainSegment_flow hfolder

theorem flowPath_inj (hid : IsWholeSegment id) (hother : IsWholeSegment other)
    (h : (c.flowPath id).text = (c.flowPath other).text) : id = other := by
  have hchars : (c.flowPath id).chars = (c.flowPath other).chars := String.ofList_injective h
  have hpath (id : String) : c.flowPath id = c.base.path.addAll ["flow", id] := rfl
  rw [hpath, hpath, Url.Path.addAll_of_whole isPlainSegment_flow hid,
    Url.Path.addAll_of_whole isPlainSegment_flow hother] at hchars
  have hencoded := List.append_cancel_left hchars
  exact String.toList_inj.mp (Url.encoded_inj (List.cons.inj hencoded).2)

/-! ## Requests -/

theorem deploy_updates {flow : Flow} {result : Except Fault Deployment}
    (h : (c.deploy flow).run.Logs log result) {entry : Request × Outcome} (he : entry ∈ log)
    (hmethod : entry.1.method = .put) : ∃ sub listing id, Submission.ofFlow? flow = some sub ∧
      c.HasListed log listing ∧ listing.HasFirstTab sub.label id ∧
      entry.1.url.path = c.flowPath id := by
  cases hsub : Submission.ofFlow? flow with
  | none =>
    unfold Client.deploy at h
    rw [hsub] at h
    obtain ⟨rfl, -⟩ := Conversation.Logs.done_iff.mp h
    cases he
  | some sub =>
    rcases (deploy_demands hsub h).2 entry he with hlist | ⟨listing, deployment, hlisted, hdemands⟩
    · rw [hlist] at hmethod
      cases hmethod
    · obtain ⟨request, outcome⟩ := entry
      cases hdemands with
      | update id first => exact ⟨sub, listing, id, rfl, hlisted, first, rfl⟩
      | create new => cases hmethod

theorem delete_deletes {label : String} {result : Except Fault Deletion}
    (h : (c.delete label).run.Logs log result) {entry : Request × Outcome} (he : entry ∈ log)
    (hmethod : entry.1.method = .delete) : ∃ listing id, c.HasListed log listing ∧
      listing.HasFirstTab label id ∧ entry.1.url.path = c.flowPath id := by
  rcases delete_removes h he with hlist | ⟨listing, id, hlisted, first, hdelete⟩
  · rw [hlist] at hmethod
    cases hmethod
  · refine ⟨listing, id, hlisted, first, ?_⟩
    rw [hdelete]
    rfl

/-- **A change is addressed to the flow that was found exactly if its identifier is a whole
segment**, for every address of the engine but the empty folder of the root, and whatever the engine
lists. -/
theorem ofUrl_addressesFlows (url : Url) (token : Option String) (timeout retries backoff : Nat) :
    AddressesFlows (Client.ofUrl url token timeout retries backoff) where
  found := flowPath_found (asFolder_last url.path)
  distinct _ _ := flowPath_inj
  updates engine _ _ := deploy_updates (Conversation.record_logs engine _)
  deletes engine _ _ := delete_deletes (Conversation.record_logs engine _)

/-- **Two flows can share an address**, which then is not that of a flow with a tab stop in its
identifier. -/
theorem flows_share_address :
    (¬ ∀ (url : Url) (id : String), let c := Client.ofUrl url none 5000 0 0
      c.base.path.LeadsTo (c.flowPath id) "flow" id) ∧
    ¬ ∀ (url : Url) (id other : String), let c := Client.ofUrl url none 5000 0 0
      (c.flowPath id).text = (c.flowPath other).text → id = other := by
  have hsame (c : Client) : c.flowPath "a\tb" = c.flowPath "ab" := rfl
  constructor
  · intro hall
    obtain ⟨-, hwhole⟩ := (flowPath_found (asFolder_last Url.Path.root) _).mp
      (hall ⟨false, "", "localhost", some 1880, .root, none, none⟩ "a\tb")
    exact absurd hwhole.noneIgnored (by decide)
  · intro hall
    have hid := hall ⟨false, "", "localhost", some 1880, .root, none, none⟩ "a\tb" "ab"
      (congrArg Url.Path.text (hsame _))
    exact absurd hid (by decide)

end UplinkFlow.Engine
