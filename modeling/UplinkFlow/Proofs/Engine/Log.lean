import UplinkFlow.Proofs.Engine.Exchange

/-!
# What is asked and what comes of it

A `Log` has every attempt to send a request in order, with its outcome.

* `Behaviour`, `Conversation.record` — a conversation with an engine that may answer as it likes,
  also with regard to everything that it has been asked before.
* `Conversation.Logs` — a log that a conversation can have, and the value at its end;
  `record_logs` — what is recorded is one.
* `Sends`, `send_logs` — **a request is attempted until it reaches the engine or no attempt is
  left.**
-/

set_option autoImplicit false

namespace UplinkFlow.Engine

variable {α β : Type}

/-- Attempts to send requests in order, with their outcomes. -/
abbrev Log := List (Request × Outcome)

/-- What becomes of the next attempt after a log. -/
abbrev Behaviour := Log → Request → Outcome

/-- Answers an attempt and writes it down. -/
def Behaviour.answer (engine : Behaviour) (_pause : Nat) (request : Request) : StateM Log Outcome :=
  fun log => (engine log request, log ++ [(request, engine log request)])

namespace Conversation

/-- The value of a conversation with an engine, and its log. -/
def record (engine : Behaviour) (c : Conversation α) : α × Log := (c.run engine.answer).run []

/-- A conversation ends with a value after a log. -/
inductive Logs : Conversation α → Log → α → Prop where
  | done (value : α) : Logs (.done value) [] value
  | ask {pause : Nat} {request : Request} {next : Outcome → Conversation α} {log : Log} {value : α}
    (outcome : Outcome) (rest : Logs (next outcome) log value) :
    Logs (.ask pause request next) ((request, outcome) :: log) value

/-- A run adds a log of the conversation to what has been asked before. -/
theorem run_logs (engine : Behaviour) (c : Conversation α) (past : Log) :
    ∃ value log, (c.run engine.answer).run past = (value, past ++ log) ∧ c.Logs log value := by
  -- the past grows with every answer, on which the engine's further answers depend
  induction c generalizing past with
  | done value => exact ⟨value, [], by rw [List.append_nil]; rfl, .done value⟩
  | ask pause request next ih =>
    obtain ⟨value, log, hrun, hlogs⟩ :=
      ih (engine past request) (past ++ [(request, engine past request)])
    rw [List.append_assoc] at hrun
    exact ⟨value, _, hrun, .ask _ hlogs⟩

/-- What is recorded is a log of the conversation, with the value at its end. -/
theorem record_logs (engine : Behaviour) (c : Conversation α) :
    c.Logs (c.record engine).2 (c.record engine).1 := by
  obtain ⟨value, log, hrun, hlogs⟩ := run_logs engine c []
  have hrecord : c.record engine = (value, log) := hrun
  rw [hrecord]
  exact hlogs

namespace Logs

variable {log : Log}

theorem done_iff {value a : α} : Logs (.done value) log a ↔ log = [] ∧ a = value := by
  constructor
  · intro h
    cases h
    exact ⟨rfl, rfl⟩
  · rintro ⟨rfl, rfl⟩
    exact .done _

theorem unique {c : Conversation α} {a b : α} (h : Logs c log a) (h' : Logs c log b) : a = b := by
  induction h with
  | done value => exact (done_iff.mp h').2.symm
  | ask outcome rest ih =>
    cases h' with
    | ask _ rest' => exact ih rest'

theorem bind_cases {c : Conversation α} {f : α → Conversation β} {b : β}
    (h : Logs (c.bind f) log b) :
    ∃ a before after, Logs c before a ∧ Logs (f a) after b ∧ log = before ++ after := by
  induction c generalizing log with
  | done value => exact ⟨value, [], log, .done value, h, rfl⟩
  | ask pause request next ih =>
    cases h with
    | ask outcome rest =>
      obtain ⟨a, before, after, hbefore, hafter, rfl⟩ := ih _ rest
      exact ⟨a, _ :: before, after, .ask outcome hbefore, hafter, rfl⟩

/-- The logs of the two parts of a conversation that may fail: it ends with the fault of the first
part, or goes on with its value. -/
theorem andThen_cases {x : Exchange α} {f : α → Exchange β} {result : Except Fault β}
    (h : Logs (x >>= f).run log result) :
    (∃ fault, result = .error fault ∧ Logs x.run log (.error fault)) ∨
      (∃ a before after, Logs x.run before (.ok a) ∧ Logs (f a).run after result ∧
        log = before ++ after) := by
  obtain ⟨first, before, after, hfirst, hrest, rfl⟩ := bind_cases h
  cases first with
  | error fault =>
    obtain ⟨rfl, rfl⟩ := done_iff.mp hrest
    rw [List.append_nil]
    exact .inl ⟨fault, rfl, hfirst⟩
  | ok a => exact .inr ⟨a, before, after, hfirst, hrest, rfl⟩

end Logs

end Conversation

/-! ## One request -/

/-- Whether an attempt has come to the engine, as far as the client can tell. -/
def isReached (entry : Request × Outcome) : Bool := !entry.2.isUnconnected

/-- The log of one request: attempts without a connection, at most as many as may be repeated, and
the last attempt, which is without a connection only if no further one is left. -/
def Sends (retries : Nat) (request : Request) (log : Log) (outcome : Outcome) : Prop :=
  ∃ earlier : List Outcome, earlier.length ≤ retries ∧
    (∀ o ∈ earlier, o.isUnconnected = true) ∧
    log = earlier.map (fun o => (request, o)) ++ [(request, outcome)] ∧
    (outcome.isUnconnected = true → earlier.length = retries)

namespace Sends

variable {retries : Nat} {request : Request} {log : Log} {outcome : Outcome}
  {entry : Request × Outcome}

theorem getLast?_eq (h : Sends retries request log outcome) :
    log.getLast? = some (request, outcome) := by
  obtain ⟨earlier, -, -, rfl, -⟩ := h
  exact List.getLast?_concat

theorem mem (h : Sends retries request log outcome) : (request, outcome) ∈ log :=
  List.mem_of_getLast? h.getLast?_eq

theorem ne_nil (h : Sends retries request log outcome) : log ≠ [] :=
  List.ne_nil_of_mem h.mem

theorem mem_cases (h : Sends retries request log outcome) (he : entry ∈ log) :
    (∃ o, o.isUnconnected = true ∧ entry = (request, o)) ∨ entry = (request, outcome) := by
  obtain ⟨earlier, -, hearlier, rfl, -⟩ := h
  rcases List.mem_append.mp he with he | he
  · obtain ⟨o, ho, rfl⟩ := List.mem_map.mp he
    exact .inl ⟨o, hearlier o ho, rfl⟩
  · exact .inr (List.mem_singleton.mp he)

theorem request_eq (h : Sends retries request log outcome) (he : entry ∈ log) :
    entry.1 = request := by
  rcases h.mem_cases he with ⟨o, -, rfl⟩ | rfl <;> rfl

/-- No other attempt than the last one comes to the engine. -/
theorem eq_of_isReached (h : Sends retries request log outcome) (he : entry ∈ log)
    (hreached : isReached entry = true) : entry = (request, outcome) := by
  rcases h.mem_cases he with ⟨o, ho, rfl⟩ | rfl
  · simp [isReached, ho] at hreached
  · rfl

theorem length_reached_le (h : Sends retries request log outcome) :
    (log.filter isReached).length ≤ 1 := by
  obtain ⟨earlier, -, hearlier, rfl, -⟩ := h
  have hnone : (earlier.map fun o => (request, o)).filter isReached = [] := by
    simpa [List.filter_eq_nil_iff, isReached] using hearlier
  rw [List.filter_append, hnone, List.nil_append]
  exact List.length_filter_le _ _

end Sends

/-- An attempt is repeated as long as there is no connection. -/
theorem attempt_logs {pause delay retries : Nat} {request : Request} {log : Log} {outcome : Outcome}
    (h : (Client.attempt pause delay request retries).Logs log outcome) :
    Sends retries request log outcome := by
  induction retries generalizing pause delay log with
  | zero =>
    cases h with
    | ask outcome rest =>
      obtain ⟨rfl, rfl⟩ := Conversation.Logs.done_iff.mp rest
      exact ⟨[], Nat.le_refl 0, List.forall_mem_nil _, rfl, fun _ => rfl⟩
  | succ retries ih =>
    rw [Client.attempt] at h
    cases h with
    | ask first rest =>
      dsimp only at rest
      split at rest
      · rename_i hfirst
        obtain ⟨earlier, hle, hearlier, rfl, hlast⟩ := ih rest
        exact ⟨first :: earlier, Nat.succ_le_succ hle, List.forall_mem_cons.mpr ⟨hfirst, hearlier⟩,
          rfl, fun h => congrArg Nat.succ (hlast h)⟩
      · rename_i hfirst
        obtain ⟨rfl, rfl⟩ := Conversation.Logs.done_iff.mp rest
        exact ⟨[], Nat.zero_le _, List.forall_mem_nil _, rfl, fun h => absurd h hfirst⟩

/-- A request that can be written down is sent, and its outcome is settled. -/
theorem send_logs {c : Client} {method : Method} {url : Url} {body : Option Json} {log : Log}
    {result : Except Fault Response}
    (hsendable : Request.isSendable ⟨method, url, c.token, body⟩ = true)
    (h : (c.send method url body).run.Logs log result) :
    ∃ outcome, Sends c.retries ⟨method, url, c.token, body⟩ log outcome ∧
      result = Client.settle ⟨method, url, c.token, body⟩ outcome := by
  rw [send_eq hsendable, ExceptT.run_mk] at h
  obtain ⟨outcome, before, after, hattempt, hdone, rfl⟩ := Conversation.Logs.bind_cases h
  obtain ⟨rfl, rfl⟩ := Conversation.Logs.done_iff.mp hdone
  rw [List.append_nil]
  exact ⟨outcome, attempt_logs hattempt, rfl⟩

/-- A request whose response is checked without asking again. -/
theorem checked_logs {c : Client} {method : Method} {url : Url} {body : Option Json} {log : Log}
    {rest : Response → Exchange β} {check : Response → Except Fault β} {result : Except Fault β}
    (hsendable : Request.isSendable ⟨method, url, c.token, body⟩ = true)
    (hrest : ∀ response, (rest response).run = .done (check response))
    (h : (c.send method url body >>= rest).run.Logs log result) :
    ∃ outcome, Sends c.retries ⟨method, url, c.token, body⟩ log outcome ∧
      result = Client.settle ⟨method, url, c.token, body⟩ outcome >>= check := by
  rcases Conversation.Logs.andThen_cases h with
    ⟨fault, rfl, hsend⟩ | ⟨response, before, after, hsend, hchecked, rfl⟩
  · obtain ⟨outcome, hsends, hsettle⟩ := send_logs hsendable hsend
    exact ⟨outcome, hsends, by rw [← hsettle]; rfl⟩
  · obtain ⟨outcome, hsends, hsettle⟩ := send_logs hsendable hsend
    rw [hrest] at hchecked
    obtain ⟨rfl, rfl⟩ := Conversation.Logs.done_iff.mp hchecked
    rw [List.append_nil]
    exact ⟨outcome, hsends, by rw [← hsettle]; rfl⟩

end UplinkFlow.Engine
