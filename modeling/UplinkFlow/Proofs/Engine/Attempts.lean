import UplinkFlow.Proofs.Engine.Protocol
import UplinkFlow.Proofs.Engine.Requests

/-!
# How often a request is attempted

* `Behaviour.inOrder` — attempts of which the outcomes are given one after the other.
* `Conversation.record_answers` — every entry of a log has the answer to all that stands before it.
* `Attempts` — what the outcomes of attempts, the log and the result tell of each other.
* `send_attempts` — **a request is attempted again only while there is no connection, and no more
  often than the client may.**
-/

set_option autoImplicit false

namespace UplinkFlow.Engine

variable {α : Type} {c : Client} {request : Request} {outcome : Outcome} {log : Log}
  {entry : Request × Outcome} {retries i : Nat} {outcomes : Nat → Outcome}

/-- The outcomes of attempts one after the other, whatever they are made for. -/
def Behaviour.inOrder (outcomes : Nat → Outcome) : Behaviour := fun log _ => outcomes log.length

/-! ## Logs -/

namespace Conversation

/-- What is added to a log are the answers to all that stands before them. -/
theorem run_answers (engine : Behaviour) (c : Conversation α) (past : Log) :
    ∃ log, ((c.run engine.answer).run past).2 = past ++ log ∧
      ∀ i entry, log[i]? = some entry → entry.2 = engine (past ++ log.take i) entry.1 := by
  induction c generalizing past with
  | done value =>
    refine ⟨[], (List.append_nil past).symm, fun i entry hentry => ?_⟩
    rw [List.getElem?_nil] at hentry
    cases hentry
  | ask pause request next ih =>
    obtain ⟨log, hrun, hlog⟩ :=
      ih (engine past request) (past ++ [(request, engine past request)])
    rw [List.append_assoc] at hrun
    refine ⟨(request, engine past request) :: log, hrun, fun i entry hentry => ?_⟩
    cases i with
    | zero =>
      obtain rfl := Option.some.inj hentry
      rw [List.take_zero, List.append_nil]
    | succ i => simpa using hlog i entry hentry

/-- Every entry of a log has the answer to all that stands before it. -/
theorem record_answers {engine : Behaviour} {c : Conversation α}
    (h : (c.record engine).2[i]? = some entry) :
    entry.2 = engine ((c.record engine).2.take i) entry.1 := by
  obtain ⟨log, hrun, hlog⟩ := run_answers engine c []
  have hrecord : (c.record engine).2 = log := hrun
  rw [hrecord] at h ⊢
  exact hlog i entry h

theorem record_inOrder {c : Conversation α}
    (h : (c.record (.inOrder outcomes)).2[i]? = some entry) : entry.2 = outcomes i := by
  obtain ⟨hlt, -⟩ := List.getElem?_eq_some_iff.mp h
  rw [record_answers h, Behaviour.inOrder, List.length_take_of_le (Nat.le_of_lt hlt)]

end Conversation

/-! ## Attempts -/

/-- What the outcomes that attempts of a request have in order, the log and the result tell of each
other.  The attempts are one more than the connection failures that come first, unless there are
more of these than retries. -/
structure Attempts (retries : Nat) (request : Request) (outcomes : Nat → Outcome) (log : Log)
    (result : Except Fault Response) : Prop where
  same : ∀ i entry, log[i]? = some entry → entry = (request, outcomes i)
  count : ∀ n, (∀ i < n, (outcomes i).isUnconnected = true) →
    (outcomes n).isUnconnected = false → log.length = min retries n + 1
  exhausted : (∀ i, (outcomes i).isUnconnected = true) → log.length = retries + 1
  ends : log.length ≤ retries + 1
  last : ∀ i, (outcomes i).isUnconnected = false → log.length ≤ i + 1
  response : ∀ response, result = .ok response ↔
    log.getLast? = some (request, .answered response)
  timedOut : result = .error (.timedOut request.url.text) ↔
    log.getLast? = some (request, .timedOut) ∨ log.getLast? = some (request, .connectTimedOut)
  transport : result = .error .transport ↔
    log.getLast? = some (request, .unreachable) ∨ log.getLast? = some (request, .failed)

/-- The outcomes of a request that is sent are the first ones of those given. -/
theorem Sends.outcomes_eq (h : Sends retries request log outcome)
    (hlog : ∀ i entry, log[i]? = some entry → entry.2 = outcomes i) :
    ∃ k ≤ retries, log.length = k + 1 ∧ (∀ i < k, (outcomes i).isUnconnected = true) ∧
      outcomes k = outcome ∧ (outcome.isUnconnected = true → k = retries) := by
  obtain ⟨earlier, hle, hearlier, rfl, hlast⟩ := h
  refine ⟨earlier.length, hle, by simp, fun i hi => ?_, ?_, hlast⟩
  · have hentry : earlier[i] = outcomes i := hlog i (request, earlier[i]) (by
      rw [List.getElem?_append_left (by simpa using hi), List.getElem?_map,
        List.getElem?_eq_getElem hi, Option.map_some])
    exact hentry ▸ hearlier _ (List.getElem_mem hi)
  · refine (hlog earlier.length (request, outcome) ?_).symm
    rw [List.getElem?_append_right (by simp)]
    simp

/-- A request that is sent is attempted as often as its outcomes demand. -/
theorem Sends.attempts (h : Sends retries request log outcome)
    (hlog : ∀ i entry, log[i]? = some entry → entry.2 = outcomes i) :
    Attempts retries request outcomes log (Client.settle request outcome) := by
  obtain ⟨k, hk, hlength, hearlier, hhere, hfailed⟩ := h.outcomes_eq hlog
  have hlast (other : Outcome) : log.getLast? = some (request, other) ↔ outcome = other := by
    simp [h.getLast?_eq]
  refine
    { same := fun i entry hentry =>
        Prod.ext (h.request_eq (List.mem_of_getElem? hentry)) (hlog i entry hentry)
      count := fun n hbefore hn => ?_
      exhausted := fun hall => ?_
      ends := by omega
      last := fun i hi => ?_
      response := fun response => by rw [hlast, settle_eq_ok]
      timedOut := ?_
      transport := ?_ }
  · have hle : k ≤ n := Nat.le_of_not_lt fun hlt => by simp [hearlier n hlt] at hn
    rcases Nat.eq_or_lt_of_le hle with rfl | hlt
    · rw [hlength, Nat.min_eq_right hk]
    · -- a connection failure among the first ones can only be the last attempt
      obtain rfl := hfailed (hhere ▸ hbefore k hlt)
      rw [hlength, Nat.min_eq_left hle]
  · rw [hlength, hfailed (hhere ▸ hall k)]
  · have hle : k ≤ i := Nat.le_of_not_lt fun hlt => by simp [hearlier i hlt] at hi
    omega
  · rw [hlast, hlast]
    cases outcome <;> simp [Client.settle]
  · rw [hlast, hlast]
    cases outcome <;> simp [Client.settle]

/-- **A request is attempted again only while there is no connection, and no more often than the
client may.**  The request and the outcomes of its attempts may be any; a request that cannot be
written down does not leave the client. -/
theorem send_attempts (c : Client) (method : Method) (url : Url) (body : Option Json)
    (outcomes : Nat → Outcome) :
    (Request.isSendable ⟨method, url, c.token, body⟩ = true →
      Attempts c.retries ⟨method, url, c.token, body⟩ outcomes
        ((c.send method url body).run.record (.inOrder outcomes)).2
        ((c.send method url body).run.record (.inOrder outcomes)).1) ∧
    (¬Request.isSendable ⟨method, url, c.token, body⟩ = true →
      (c.send method url body).run.record (.inOrder outcomes) = (.error .transport, [])) := by
  have hlogs := Conversation.record_logs (.inOrder outcomes) (c.send method url body).run
  constructor
  · intro hsendable
    obtain ⟨outcome, hsends, hresult⟩ := send_logs hsendable hlogs
    rw [hresult]
    exact hsends.attempts fun i entry hentry => Conversation.record_inOrder hentry
  · intro hsendable
    obtain ⟨hlog, hresult⟩ := unsent_logs hsendable hlogs
    exact Prod.ext hresult hlog

/-- Outcomes of which the third is an answer. -/
def thirdAnswered : Nat → Outcome
  | 0 => .unreachable
  | 1 => .connectTimedOut
  | _ => .answered ⟨503, .whole []⟩

/-- A client like another one, with a line break in its token. -/
def brokenTokenClient : Client := { tokenClient with token := some "t\n0" }

theorem not_isSendable_brokenToken (method : Method) (url : Url) (body : Option Json) :
    ¬Request.isSendable ⟨method, url, brokenTokenClient.token, body⟩ = true := by
  intro h
  have htoken := Request.isSendable_iff.mp h "t\n0" rfl
  rw [String.all_bool_eq] at htoken
  exact absurd htoken (by decide)

/-- The third attempt is the last one of the four that the client may make, and its answer is the
result.  With a line break in the token there is no attempt. -/
theorem send_attempts_third :
    Request.isSendable ⟨.get, tokenClient.base, tokenClient.token, none⟩ = true ∧
    Attempts 3 ⟨.get, tokenClient.base, some "t0", none⟩ thirdAnswered
      ((tokenClient.send .get tokenClient.base none).run.record (.inOrder thirdAnswered)).2
      ((tokenClient.send .get tokenClient.base none).run.record (.inOrder thirdAnswered)).1 ∧
    ((tokenClient.send .get tokenClient.base none).run.record
      (.inOrder thirdAnswered)).2.length = 3 ∧
    ((tokenClient.send .get tokenClient.base none).run.record (.inOrder thirdAnswered)).1 =
      .ok ⟨503, .whole []⟩ ∧
    ¬Request.isSendable ⟨.get, tokenClient.base, brokenTokenClient.token, none⟩ = true ∧
    (brokenTokenClient.send .get tokenClient.base none).run.record (.inOrder thirdAnswered) =
      (.error .transport, []) := by
  have hsendable : Request.isSendable ⟨.get, tokenClient.base, tokenClient.token, none⟩ = true :=
    tokenClient_isSendable.isSendable _ _ _
  have hbroken := not_isSendable_brokenToken .get tokenClient.base none
  have hattempts := (send_attempts tokenClient .get tokenClient.base none thirdAnswered).1 hsendable
  refine ⟨hsendable, hattempts, hattempts.count 2 (by decide) (by decide), ?_, hbroken,
    (send_attempts brokenTokenClient .get tokenClient.base none thirdAnswered).2 hbroken⟩
  rw [send_eq hsendable]
  rfl

end UplinkFlow.Engine
