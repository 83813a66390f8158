import UplinkFlow.Engine.Client
import UplinkFlow.Proofs.Engine.Store
import UplinkFlow.Proofs.Text.Utf8

/-!
# Conversations with an engine

* `Talks` — a conversation with an engine, from one store to another, with all the stores that the
  engine holds in between.
* `Talks.bind_cases`, `Talks.andThen_cases` — a conversation in two parts, without and with faults.
* `send_cases` — **a request is answered once**: attempts that do not reach the engine change
  nothing.
-/

set_option autoImplicit false

namespace UplinkFlow.Engine

variable {α β : Type} {mount : String} {s s₁ s' : Store} {visited before after : List Store}

/-- A conversation with an engine.  `visited` are the stores after each request. -/
inductive Talks (mount : String) : Conversation α → Store → List Store → Store → α → Prop where
  | done (value : α) (s : Store) : Talks mount (.done value) s [] s value
  | ask {pause : Nat} {request : Request} {next : Outcome → Conversation α} {s s₁ s₂ : Store}
    {outcome : Outcome} {visited : List Store} {value : α}
    (answer : Answers mount s request outcome s₁)
    (rest : Talks mount (next outcome) s₁ visited s₂ value) :
    Talks mount (.ask pause request next) s (s₁ :: visited) s₂ value

namespace Talks

theorem done_iff {value a : α} :
    Talks mount (.done value) s visited s' a ↔ visited = [] ∧ s' = s ∧ a = value := by
  constructor
  · intro h
    cases h
    exact ⟨rfl, rfl, rfl⟩
  · rintro ⟨rfl, rfl, rfl⟩
    exact .done _ _

theorem bind {c : Conversation α} {f : α → Conversation β} {a : α} {b : β}
    (hc : Talks mount c s before s₁ a) (hf : Talks mount (f a) s₁ after s' b) :
    Talks mount (c.bind f) s (before ++ after) s' b := by
  induction hc with
  | done value s => exact hf
  | ask answer rest ih => exact .ask answer (ih hf)

theorem andThen {x : Exchange α} {f : α → Exchange β} {a : α} {result : Except Fault β}
    (hx : Talks mount x.run s before s₁ (.ok a)) (hf : Talks mount (f a).run s₁ after s' result) :
    Talks mount (x >>= f).run s (before ++ after) s' result :=
  bind hx hf

theorem bind_cases {c : Conversation α} {f : α → Conversation β} {b : β}
    (h : Talks mount (c.bind f) s visited s' b) :
    ∃ a s₁ before after, Talks mount c s before s₁ a ∧ Talks mount (f a) s₁ after s' b ∧
      visited = before ++ after := by
  induction c generalizing s visited with
  | done value => exact ⟨value, s, [], visited, .done value s, h, rfl⟩
  | ask pause request next ih =>
    cases h with
    | ask answer rest =>
      obtain ⟨a, s₁, before, after, hbefore, hafter, rfl⟩ := ih _ rest
      exact ⟨a, s₁, _ :: before, after, .ask answer hbefore, hafter, rfl⟩

/-- The two parts of a conversation that may fail: it ends with the fault of the first part, or
goes on with its value. -/
theorem andThen_cases {x : Exchange α} {f : α → Exchange β} {result : Except Fault β}
    (h : Talks mount (x >>= f).run s visited s' result) :
    (∃ fault, result = .error fault ∧ Talks mount x.run s visited s' (.error fault)) ∨
      (∃ a s₁ before after, Talks mount x.run s before s₁ (.ok a) ∧
        Talks mount (f a).run s₁ after s' result ∧ visited = before ++ after) := by
  obtain ⟨first, s₁, before, after, hfirst, hrest, rfl⟩ := bind_cases h
  cases first with
  | error fault =>
    obtain ⟨rfl, rfl, rfl⟩ := done_iff.mp hrest
    rw [List.append_nil]
    exact .inl ⟨fault, rfl, hfirst⟩
  | ok a => exact .inr ⟨a, s₁, before, after, hfirst, hrest, rfl⟩

end Talks

/-- Attempts are over once one of them has reached the engine; the others have no effect. -/
theorem attempt_cases {pause delay retries : Nat} {request : Request} {outcome : Outcome}
    (h : Talks mount (Client.attempt pause delay request retries) s visited s' outcome) :
    Answers mount s request outcome s' ∧ ∀ st ∈ visited, st = s ∨ st = s' := by
  induction retries generalizing pause delay s visited with
  | zero =>
    cases h with
    | ask answer rest =>
      obtain ⟨rfl, rfl, rfl⟩ := Talks.done_iff.mp rest
      exact ⟨answer, by simp⟩
  | succ retries ih =>
    rw [Client.attempt] at h
    cases h with
    | ask answer rest =>
      dsimp only at rest
      split at rest
      · rename_i hfirst
        obtain rfl := answer.eq_of_isUnconnected hfirst
        obtain ⟨hanswer, hvisited⟩ := ih rest
        refine ⟨hanswer, fun st hst => ?_⟩
        rcases List.mem_cons.mp hst with rfl | hst
        · exact .inl rfl
        · exact hvisited st hst
      · obtain ⟨rfl, rfl, rfl⟩ := Talks.done_iff.mp rest
        exact ⟨answer, by simp⟩

theorem settle_eq_ok {request : Request} {outcome : Outcome} {response : Response} :
    Client.settle request outcome = .ok response ↔ outcome = .answered response := by
  cases outcome with
  | answered response => simp [Client.settle]
  | _ => simp [Client.settle]

/-- Whatever becomes of a request, the engine has answered it once. -/
theorem send_cases {c : Client} {method : Method} {url : Url} {body : Option Json}
    {result : Except Fault Response}
    (h : Talks mount (c.send method url body).run s visited s' result) :
    ∃ outcome, Answers mount s ⟨method, url, c.token, body⟩ outcome s' ∧
      result = Client.settle ⟨method, url, c.token, body⟩ outcome ∧
      ∀ st ∈ visited, st = s ∨ st = s' := by
  simp only [Client.send, ExceptT.run_mk] at h
  split at h
  · obtain ⟨outcome, s₁, before, after, hattempt, hdone, rfl⟩ := Talks.bind_cases h
    obtain ⟨rfl, rfl, rfl⟩ := Talks.done_iff.mp hdone
    obtain ⟨hanswer, hvisited⟩ := attempt_cases hattempt
    exact ⟨outcome, hanswer, rfl, by simpa using hvisited⟩
  · obtain ⟨rfl, rfl, rfl⟩ := Talks.done_iff.mp h
    exact ⟨.failed, .refused .failed rfl, rfl, by simp⟩

theorem send_eq {c : Client} {method : Method} {url : Url} {body : Option Json}
    (hsendable : Request.isSendable ⟨method, url, c.token, body⟩ = true) :
    c.send method url body = ExceptT.mk
      ((Client.attempt 0 c.backoff ⟨method, url, c.token, body⟩ c.retries).bind fun outcome =>
        .done (Client.settle ⟨method, url, c.token, body⟩ outcome)) :=
  if_pos hsendable

theorem send_answered {c : Client} {method : Method} {url : Url} {body : Option Json}
    {response : Response} (hsendable : Request.isSendable ⟨method, url, c.token, body⟩ = true)
    (answer : Answers mount s ⟨method, url, c.token, body⟩ (.answered response) s') :
    Talks mount (c.send method url body).run s [s'] s' (.ok response) := by
  have hattempt : Talks mount (Client.attempt 0 c.backoff ⟨method, url, c.token, body⟩ c.retries)
      s [s'] s' (.answered response) := by
    cases c.retries with
    | zero => exact .ask answer (.done _ _)
    | succ retries => exact .ask answer (.done _ _)
  rw [send_eq hsendable, ExceptT.run_mk]
  exact hattempt.bind (.done _ _)

/-- A request can be written down if its token can, behind the word that stands before it. -/
theorem Request.isSendable_of_token {r : Request}
    (h : ∀ token, r.token = some token → ("Bearer " ++ token).all isHeaderChar = true) :
    r.isSendable = true := by
  have hversion : interfaceVersion.all isHeaderChar = true := by
    rw [String.all_bool_eq]
    decide
  have htype : "application/json".all isHeaderChar = true := by
    rw [String.all_bool_eq]
    decide
  refine List.all_eq_true.mpr fun header hheader => ?_
  simp only [headers, List.cons_append, List.mem_cons, List.mem_append, Option.mem_toList,
    Option.map_eq_some_iff, authorization, contentType] at hheader
  rcases hheader with rfl | ⟨value, ⟨token, htoken, rfl⟩, rfl⟩ | ⟨value, ⟨body, hbody, rfl⟩, rfl⟩
  · exact hversion
  · exact h token htoken
  · exact htype

/-- The token is in a header, so a request that can be written down has one that can. -/
theorem Request.isSendable_iff {r : Request} : r.isSendable = true ↔
    ∀ token, r.token = some token → ("Bearer " ++ token).all isHeaderChar = true := by
  refine ⟨fun h token htoken => ?_, isSendable_of_token⟩
  exact List.all_eq_true.mp h ("Authorization", "Bearer " ++ token) (by
    simp [headers, authorization, htoken])

theorem Request.isSendable_of_token_eq_none {r : Request} (h : r.token = none) :
    r.isSendable = true :=
  isSendable_of_token fun token htoken => by rw [h] at htoken; cases htoken

/-! ## Listing -/

theorem Answers.eq_of_get {r : Request} {outcome : Outcome} (h : Answers mount s r outcome s')
    (hget : r.method = .get) : s' = s := by
  cases h with
  | refused => rfl
  | listed => rfl
  | cut => rfl
  | created hpost => rw [hget] at hpost; cases hpost
  | replaced hput => rw [hget] at hput; cases hput
  | removed hdelete => rw [hget] at hdelete; cases hdelete

theorem Answers.listed_of_get {r : Request} {bytes : List UInt8}
    (h : Answers mount s r (.answered ⟨200, .whole bytes⟩) s') (hget : r.method = .get) :
    r.url.path.text = mount ++ "/flows" ∧ ∃ docs, s.IsListedBy docs ∧
      ∀ listing, Listing.ofBytes? bytes = some listing → Listing.Shows listing docs := by
  generalize houtcome : Outcome.answered ⟨200, .whole bytes⟩ = outcome at h
  cases h with
  | refused _ hrefused =>
    rw [← houtcome] at hrefused
    cases hrefused
  | listed _ hpath docs hdocs doc hform text htext =>
    cases houtcome
    refine ⟨hpath, docs, hdocs, fun listing hlisting => ?_⟩
    rw [Listing.ofBytes?, Text.ofUtf8?_utf8Bytes, Option.bind_some] at hlisting
    exact Listing.ofText?_spec hform htext hlisting
  | cut _ content hcontent =>
    cases houtcome
    exact absurd rfl (hcontent bytes)
  | created hpost => rw [hget] at hpost; cases hpost
  | replaced hput => rw [hget] at hput; cases hput
  | removed hdelete => rw [hget] at hdelete; cases hdelete

theorem readListing_eq_ok {url : Url} {response : Response} {listing : Listing}
    (h : Client.readListing url response = .ok listing) :
    ∃ bytes, response = ⟨200, .whole bytes⟩ ∧ Listing.ofBytes? bytes = some listing := by
  obtain ⟨status, content⟩ := response
  unfold Client.readListing at h
  split at h
  · rename_i hstatus
    obtain rfl : status = 200 := hstatus
    split at h
    · rename_i bytes hcontent
      obtain rfl : content = .whole bytes := hcontent
      split at h
      · rename_i found hfound
        cases h
        exact ⟨bytes, rfl, hfound⟩
      · cases h
    · cases h
    · cases h
  · split at h
    · cases h
    · split at h <;> cases h

/-- Listing changes nothing, and the listing shows the store. -/
theorem list_cases {c : Client} {result : Except Fault Listing}
    (h : Talks mount c.list.run s visited s' result) :
    s' = s ∧ (∀ st ∈ visited, st = s) ∧ ∀ listing, result = .ok listing →
      (c.endpoint ["flows"]).path.text = mount ++ "/flows" ∧
        ∃ docs, s.IsListedBy docs ∧ Listing.Shows listing docs := by
  have hsend : ∀ {result : Except Fault Response} {visited : List Store} {s' : Store},
      Talks mount (c.send .get (c.endpoint ["flows"]) none).run s visited s' result →
        s' = s ∧ ∀ st ∈ visited, st = s := by
    intro result visited s' h
    obtain ⟨outcome, hanswer, -, hvisited⟩ := send_cases h
    obtain rfl := hanswer.eq_of_get rfl
    exact ⟨rfl, by simpa using hvisited⟩
  rcases Talks.andThen_cases h with
    ⟨fault, rfl, hfirst⟩ | ⟨response, s₁, before, after, hfirst, hdone, rfl⟩
  · obtain ⟨rfl, hvisited⟩ := hsend hfirst
    exact ⟨rfl, hvisited, fun listing hlisting => by cases hlisting⟩
  · obtain ⟨rfl, hvisited⟩ := hsend hfirst
    obtain ⟨rfl, rfl, rfl⟩ := Talks.done_iff.mp hdone
    refine ⟨rfl, by simpa using hvisited, fun listing hlisting => ?_⟩
    obtain ⟨bytes, rfl, hbytes⟩ := readListing_eq_ok hlisting
    obtain ⟨outcome, hanswer, hsettle, -⟩ := send_cases hfirst
    obtain rfl := settle_eq_ok.mp hsettle.symm
    obtain ⟨hpath, docs, hdocs, hshows⟩ := hanswer.listed_of_get rfl
    exact ⟨hpath, docs, hdocs, hshows listing hbytes⟩

end UplinkFlow.Engine
