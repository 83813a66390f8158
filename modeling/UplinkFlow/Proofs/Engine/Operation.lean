import UplinkFlow.Proofs.Engine.Exchange
import UplinkFlow.Proofs.Text.Hexadecimal
import UplinkFlow.Proofs.Url.Endpoint

/-!
# Operations on an engine

* `tabId?_eq_some`, `tabId?_eq_none` — a listing leads to the flow with a label, if there is one.
* `endpoint_flow` — an identifier stands in a path as it is.
* `deploy_cases`, `delete_cases` — **everything that one operation can do to an engine.**
-/

set_option autoImplicit false

namespace UplinkFlow.Engine

variable {mount label : String} {s s' : Store} {visited : List Store} {c : Client}

/-! ## Matching -/

section Matching

variable {docs : List Members} {listing : Listing}

theorem ListedNode.Shows.isTab_iff {n : ListedNode} {ms : Members} (h : n.Shows ms) :
    n.isTab label = true ↔ Store.isTab ms = true ∧ ms.text? "label" = some label := by
  have hkind : n.kind = Node.tabKind ↔ ms.text? "type" = some Node.tabKind := by
    rw [h.kind]
    cases ms.text? "type" with
    | none => simp [Node.tabKind]
    | some kind => simp
  simp [ListedNode.isTab, Store.isTab, hkind, h.label]

theorem tabId?_eq_some {id : String} (hdocs : s.IsListedBy docs) (hshows : listing.Shows docs)
    (h : listing.tabId? label = some id) : ∃ d ∈ s, d.id = id ∧ d.label = label := by
  obtain ⟨n, hfind, rfl⟩ := Option.map_eq_some_iff.mp h
  obtain ⟨ms, hms, hn⟩ := hshows.sound n (List.mem_of_find?_eq_some hfind)
  have htab : n.isTab label = true := by simpa using List.find?_some hfind
  obtain ⟨htab, hlabel⟩ := hn.isTab_iff.mp htab
  have hmem : (ms.text? "id", ms.text? "label") ∈
      (docs.filter Store.isTab).map fun ms => (ms.text? "id", ms.text? "label") :=
    List.mem_map.mpr ⟨ms, List.mem_filter.mpr ⟨hms, htab⟩, rfl⟩
  obtain ⟨d, hd, heq⟩ := List.mem_map.mp (hdocs.mem_iff.mp hmem)
  obtain ⟨hid, hsame⟩ := Prod.mk.inj heq
  refine ⟨d, hd, ?_, ?_⟩
  · rw [hn.id, ← hid, Option.getD_some]
  · exact Option.some.inj (hsame.trans hlabel)

theorem tabId?_eq_none (hdocs : s.IsListedBy docs) (hshows : listing.Shows docs)
    (h : listing.tabId? label = none) : ∀ d ∈ s, d.label ≠ label := by
  rintro d hd rfl
  have hmem : (some d.id, some d.label) ∈ s.map fun d => (some d.id, some d.label) :=
    List.mem_map.mpr ⟨d, hd, rfl⟩
  obtain ⟨ms, hms, heq⟩ := List.mem_map.mp (hdocs.mem_iff.mpr hmem)
  obtain ⟨hms, htab⟩ := List.mem_filter.mp hms
  obtain ⟨n, hn, hshow⟩ := hshows.complete ms hms
  have hfound := hshow.isTab_iff.mpr ⟨htab, (Prod.mk.inj heq).2⟩
  rw [Listing.tabId?, Option.map_eq_none_iff, List.find?_eq_none] at h
  exact h n hn hfound

end Matching

/-! ## Addresses -/

theorem keepsInSegment_of_isHexDigit {ch : Char} (h : Text.isHexDigit ch = true) :
    Url.keepsInSegment ch = true := by
  have hascii : ∀ n < 128, Text.isHexDigit (Char.ofNat n) = true →
      Url.keepsInSegment (Char.ofNat n) = true := by decide
  obtain ⟨d, hd⟩ := Option.isSome_iff_exists.mp h
  have hself := hascii ch.toNat (Text.toNat_lt_of_hexDigit? hd)
  rw [Char.ofNat_toNat] at hself
  exact hself h

theorem IsNodeId.isPlainSegment {id : String} (h : IsNodeId id) : Url.IsPlainSegment id where
  all_kept := List.all_eq_true.mpr fun ch hch => by
    have hchar := List.all_eq_true.mp h.chars ch hch
    simp only [Bool.or_eq_true, beq_iff_eq] at hchar
    rcases hchar with hdigit | rfl
    · exact keepsInSegment_of_isHexDigit hdigit
    · decide
  notEmpty := by
    rintro rfl
    exact absurd h.digit (by decide)
  notSame := by
    rintro rfl
    exact absurd h.digit (by decide)
  notOuter := by
    rintro rfl
    exact absurd h.digit (by decide)

theorem isPlainSegment_flows : Url.IsPlainSegment "flows" :=
  ⟨by decide, by decide, by decide, by decide⟩

theorem isPlainSegment_flow : Url.IsPlainSegment "flow" :=
  ⟨by decide, by decide, by decide, by decide⟩

/-- Where the flows are listed, there each flow has its address. -/
theorem endpoint_flow {id : String} (hid : IsNodeId id)
    (hmount : (c.endpoint ["flows"]).path.text = mount ++ "/flows") :
    (c.endpoint ["flow", id]).path.text = mount ++ "/flow/" ++ id := by
  have hflows := c.base.path.addAll_chars "flows" [] (by simpa using isPlainSegment_flows)
  have hflow := c.base.path.addAll_chars "flow" [id]
    (by simpa using ⟨isPlainSegment_flow, hid.isPlainSegment⟩)
  have hchars := congrArg String.toList hmount
  simp only [Client.endpoint, Url.endpoint, Url.Path.text, String.toList_ofList, hflows,
    String.toList_append, List.flatMap_cons, List.flatMap_nil, List.append_nil] at hchars
  have hstem : c.base.path.dropEmpty.stem = mount.toList := List.append_cancel_right hchars
  apply String.toList_inj.mp
  simp only [Client.endpoint, Url.endpoint, Url.Path.text, String.toList_ofList, hflow, hstem,
    String.toList_append, List.flatMap_cons, List.flatMap_nil, List.append_nil, List.append_assoc]
  rfl

/-! ## Changes -/

/-- A request for a change has been answered once, and a success tells that the change has been
accepted. -/
theorem change_cases {β : Type} {method : Method} {url : Url} {body : Option Json}
    {check : Response → Except Fault Unit} {value : β} {result : Except Fault β}
    (hcheck : ∀ response, check response = .ok () → (Outcome.answered response).isAccepted = true)
    (h : Talks mount (do
      let response ← c.send method url body
      check response
      return value : Exchange β).run s visited s' result) :
    ∃ outcome, Answers mount s ⟨method, url, c.token, body⟩ outcome s' ∧
      (∀ st ∈ visited, st = s ∨ st = s') ∧
      ∀ v, result = .ok v → v = value ∧ outcome.isAccepted = true := by
  rcases Talks.andThen_cases h with
    ⟨fault, rfl, hsend⟩ | ⟨response, s₁, before, after, hsend, hrest, rfl⟩
  · obtain ⟨outcome, hanswer, -, hvisited⟩ := send_cases hsend
    exact ⟨outcome, hanswer, hvisited, fun v hv => by cases hv⟩
  · obtain ⟨outcome, hanswer, hsettle, hvisited⟩ := send_cases hsend
    obtain rfl := settle_eq_ok.mp hsettle.symm
    rcases Talks.andThen_cases hrest with
      ⟨fault, rfl, hfault⟩ | ⟨⟨⟩, s₂, before', after', hok, hdone, rfl⟩
    · obtain ⟨rfl, rfl, -⟩ := Talks.done_iff.mp hfault
      exact ⟨_, hanswer, by simpa using hvisited, fun v hv => by cases hv⟩
    · obtain ⟨rfl, rfl, hchecked⟩ := Talks.done_iff.mp hok
      obtain ⟨rfl, rfl, rfl⟩ := Talks.done_iff.mp hdone
      refine ⟨_, hanswer, by simpa using hvisited, fun v hv => ?_⟩
      exact ⟨(Except.ok.inj hv).symm, hcheck response hchecked.symm⟩

theorem checkChange_eq_ok {response : Response} (h : Client.checkChange response = .ok ()) :
    (Outcome.answered response).isAccepted = true := by
  unfold Client.checkChange at h
  split at h
  · rename_i hstatus
    simpa [Outcome.isAccepted] using hstatus
  · split at h
    · split at h <;> cases h
    · split at h <;> cases h

theorem checkDeletion_eq_ok {id : String} {response : Response}
    (h : Client.checkDeletion id response = .ok ()) :
    (Outcome.answered response).isAccepted = true := by
  unfold Client.checkDeletion at h
  split at h
  · cases h
  · exact checkChange_eq_ok h

theorem submits_toJson {r : Request} {sub : Submission} {nodes : Json}
    (hbody : r.body = some sub.toJson) (h : Submits r label nodes) :
    label = sub.label ∧ nodes = Flow.toJson sub.nodes := by
  obtain ⟨ms, hms, hlabel, hnodes⟩ := h.body
  rw [hbody] at hms
  cases hms
  exact ⟨by simpa [Members.text?, Members.member?, Json.asString?] using hlabel.symm,
    by simpa [Members.member?] using hnodes.symm⟩

theorem create_cases {sub : Submission} {result : Except Fault Deployment}
    (hnew : ∀ d ∈ s, d.label ≠ sub.label)
    (h : Talks mount (c.submit sub none).run s visited s' result) :
    (∀ st ∈ visited, st = s ∨ st = s') ∧ Store.Change sub.label s s' ∧
      ∀ deployment, result = .ok deployment → deployment = .created ∧
        ∃ held, s' = held :: s ∧ held.label = sub.label ∧ held.nodes = Flow.toJson sub.nodes := by
  obtain ⟨outcome, hanswer, hvisited, hresult⟩ := change_cases (fun _ => checkChange_eq_ok) h
  refine ⟨hvisited, ?_⟩
  cases hanswer with
  | refused _ hrefused =>
    refine ⟨.nothing, fun deployment hok => ?_⟩
    rw [(hresult deployment hok).2] at hrefused
    cases hrefused
  | listed hget => cases hget
  | cut hget => cases hget
  | created _ _ label nodes submits id valid fresh =>
    obtain ⟨rfl, rfl⟩ := submits_toJson rfl submits
    exact ⟨.created _ rfl hnew valid fresh,
      fun deployment hok => ⟨(hresult deployment hok).1, _, rfl, rfl, rfl⟩⟩
  | replaced hput => cases hput
  | removed hdelete => cases hdelete

theorem eq_of_flow_path {id id' : String} (h : mount ++ "/flow/" ++ id = mount ++ "/flow/" ++ id') :
    id = id' := by
  have hchars := congrArg String.toList h
  simp only [String.toList_append] at hchars
  exact String.toList_inj.mp (List.append_cancel_left hchars)

/-- A submission in the place of a flow that the engine holds under the same label. -/
theorem update_cases {sub : Submission} {d : Deployed} {result : Except Fault Deployment}
    (hs : s.IsSound) (hd : d ∈ s) (hlabel : d.label = sub.label)
    (hmount : (c.endpoint ["flows"]).path.text = mount ++ "/flows")
    (h : Talks mount (c.submit sub (some d.id)).run s visited s' result) :
    (∀ st ∈ visited, st = s ∨ st = s') ∧ Store.Change sub.label s s' ∧
      ∀ deployment, result = .ok deployment → deployment = .updated ∧
        s' = s.replace d.id sub.label (Flow.toJson (sub.onto d.id).nodes) := by
  obtain ⟨outcome, hanswer, hvisited, hresult⟩ := change_cases (fun _ => checkChange_eq_ok) h
  refine ⟨hvisited, ?_⟩
  cases hanswer with
  | refused _ hrefused =>
    refine ⟨.nothing, fun deployment hok => ?_⟩
    rw [(hresult deployment hok).2] at hrefused
    cases hrefused
  | listed hget => cases hget
  | cut hget => cases hget
  | created hpost => cases hpost
  | replaced _ id held path label nodes submits =>
    obtain rfl := eq_of_flow_path ((endpoint_flow (hs.ids d hd) hmount).symm.trans path)
    obtain ⟨rfl, rfl⟩ := submits_toJson rfl submits
    exact ⟨.replaced d hd hlabel _, fun deployment hok => ⟨(hresult deployment hok).1, rfl⟩⟩
  | removed hdelete => cases hdelete

theorem remove_cases {d : Deployed} {result : Except Fault Deletion} (hs : s.IsSound) (hd : d ∈ s)
    (hmount : (c.endpoint ["flows"]).path.text = mount ++ "/flows")
    (h : Talks mount (do
      let response ← c.send .delete (c.endpoint ["flow", d.id]) none
      Client.checkDeletion d.id response
      return .deleted d.id : Exchange Deletion).run s visited s' result) :
    (∀ st ∈ visited, st = s ∨ st = s') ∧ Store.Change d.label s s' ∧
      ∀ deletion, result = .ok deletion → s' = s.remove d.id := by
  obtain ⟨outcome, hanswer, hvisited, hresult⟩ := change_cases (fun _ => checkDeletion_eq_ok) h
  refine ⟨hvisited, ?_⟩
  cases hanswer with
  | refused _ hrefused =>
    refine ⟨.nothing, fun deletion hok => ?_⟩
    rw [(hresult deletion hok).2] at hrefused
    cases hrefused
  | listed hget => cases hget
  | cut hget => cases hget
  | created hpost => cases hpost
  | replaced hput => cases hput
  | removed _ id held path =>
    obtain rfl := eq_of_flow_path ((endpoint_flow (hs.ids d hd) hmount).symm.trans path)
    exact ⟨.removed d hd rfl, fun _ _ => rfl⟩

/-! ## Operations -/

/-- The nodes that a deployment leaves under an identifier: those of a flow that has been there
before belong to its tab. -/
def Submission.nodesAfter (sub : Submission) (id : String) : Deployment → Flow
  | .created => sub.nodes
  | .updated => (sub.onto id).nodes

/-- Everything that a deployment can do. -/
theorem deploy_cases {flow : Flow} {result : Except Fault Deployment} (hs : s.IsTidy)
    (h : Talks mount (c.deploy flow).run s visited s' result) :
    (Submission.ofFlow? flow = none ∧ s' = s ∧ visited = [] ∧ result = .error .malformedFlow) ∨
      ∃ sub, Submission.ofFlow? flow = some sub ∧ (∀ st ∈ visited, st = s ∨ st = s') ∧
        Store.Change sub.label s s' ∧ ∀ deployment, result = .ok deployment →
          ∃ held, s'.labelled sub.label = [held] ∧
            held.nodes = Flow.toJson (sub.nodesAfter held.id deployment) := by
  unfold Client.deploy at h
  split at h
  · rename_i hflow
    obtain ⟨rfl, rfl, rfl⟩ := Talks.done_iff.mp h
    exact .inl ⟨hflow, rfl, rfl, rfl⟩
  · rename_i sub hflow
    refine .inr ⟨sub, hflow, ?_⟩
    rcases Talks.andThen_cases h with
      ⟨fault, rfl, hlist⟩ | ⟨listing, s₁, before, after, hlist, hsubmit, rfl⟩
    · obtain ⟨rfl, hvisited, -⟩ := list_cases hlist
      exact ⟨fun st hst => .inl (hvisited st hst), .nothing, fun deployment hok => by cases hok⟩
    · obtain ⟨rfl, hbefore, hlisting⟩ := list_cases hlist
      obtain ⟨hmount, docs, hdocs, hshows⟩ := hlisting listing rfl
      have hvisited : (∀ st ∈ after, st = s₁ ∨ st = s') →
          ∀ st ∈ before ++ after, st = s₁ ∨ st = s' := by
        intro hafter st hst
        rcases List.mem_append.mp hst with hst | hst
        · exact .inl (hbefore st hst)
        · exact hafter st hst
      cases hid : listing.tabId? sub.label with
      | none =>
        rw [hid] at hsubmit
        obtain ⟨hafter, hchange, hok⟩ := create_cases (tabId?_eq_none hdocs hshows hid) hsubmit
        refine ⟨hvisited hafter, hchange, fun deployment hdone => ?_⟩
        obtain ⟨rfl, held, rfl, hsame, hnodes⟩ := hok deployment hdone
        have htidy := hchange.isTidy hs
        exact ⟨held, hsame ▸ htidy.labels.labelled_eq List.mem_cons_self, hnodes⟩
      | some id =>
        rw [hid] at hsubmit
        obtain ⟨d, hd, rfl, hlabel⟩ := tabId?_eq_some hdocs hshows hid
        obtain ⟨hafter, hchange, hok⟩ := update_cases hs.toIsSound hd hlabel hmount hsubmit
        refine ⟨hvisited hafter, hchange, fun deployment hdone => ?_⟩
        obtain ⟨rfl, rfl⟩ := hok deployment hdone
        have htidy := hchange.isTidy hs
        have hheld : ⟨d.id, sub.label, Flow.toJson (sub.onto d.id).nodes⟩ ∈
            s₁.replace d.id sub.label (Flow.toJson (sub.onto d.id).nodes) :=
          List.mem_map.mpr ⟨d, hd, by simp⟩
        exact ⟨_, htidy.labels.labelled_eq hheld, rfl⟩

/-- Everything that a deletion can do. -/
theorem delete_cases {result : Except Fault Deletion} (hs : s.IsTidy)
    (h : Talks mount (c.delete label).run s visited s' result) :
    (∀ st ∈ visited, st = s ∨ st = s') ∧ Store.Change label s s' ∧
      ∀ deletion, result = .ok deletion → s'.labelled label = [] := by
  unfold Client.delete at h
  rcases Talks.andThen_cases h with
    ⟨fault, rfl, hlist⟩ | ⟨listing, s₁, before, after, hlist, hrest, rfl⟩
  · obtain ⟨rfl, hvisited, -⟩ := list_cases hlist
    exact ⟨fun st hst => .inl (hvisited st hst), .nothing, fun deletion hok => by cases hok⟩
  · obtain ⟨rfl, hbefore, hlisting⟩ := list_cases hlist
    obtain ⟨hmount, docs, hdocs, hshows⟩ := hlisting listing rfl
    cases hid : listing.tabId? label with
    | none =>
      rw [hid] at hrest
      obtain ⟨rfl, rfl, rfl⟩ := Talks.done_iff.mp hrest
      refine ⟨by simpa using hbefore, .nothing, fun _ _ => ?_⟩
      refine List.filter_eq_nil_iff.mpr fun d hd => ?_
      simpa using tabId?_eq_none hdocs hshows hid d hd
    | some id =>
      rw [hid] at hrest
      obtain ⟨d, hd, rfl, rfl⟩ := tabId?_eq_some hdocs hshows hid
      obtain ⟨hafter, hchange, hok⟩ := remove_cases hs.toIsSound hd hmount hrest
      refine ⟨fun st hst => ?_, hchange, fun deletion hdone => ?_⟩
      · rcases List.mem_append.mp hst with hst | hst
        · exact .inl (hbefore st hst)
        · exact hafter st hst
      · obtain rfl := hok deletion hdone
        exact hs.labels.labelled_remove hd

end UplinkFlow.Engine
