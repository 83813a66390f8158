import Mathlib.Data.List.Forall2
import UplinkFlow.Proofs.Engine.Log

/-!
# Conversations with engines that answer alike

A `Likeness` says which outcomes of a request are alike.

* `Likeness.OfLogs`, `Likeness.OfEngines` — logs and engines that are alike.
* `Conversation.Ignores` — a conversation that goes on in the same way after outcomes that are
  alike; `Ignores.cannotTell` — **with engines that answer alike it ends with the same value, after
  the same requests.**
* `ignores_send` — sending a request ignores what makes no difference to what follows it.
-/

set_option autoImplicit false

namespace UplinkFlow.Engine

variable {α : Type}

/-- Which outcomes of a request are alike. -/
abbrev Likeness := Request → Outcome → Outcome → Prop

namespace Likeness

/-- Logs of the same requests, with outcomes that are alike. -/
def OfLogs (R : Likeness) : Log → Log → Prop :=
  List.Forall₂ fun entry entry' => entry.1 = entry'.1 ∧ R entry.1 entry.2 entry'.2

/-- Engines that answer alike after all that is alike. -/
def OfEngines (R : Likeness) (engine engine' : Behaviour) : Prop :=
  ∀ log log' request, R.OfLogs log log' → R request (engine log request) (engine' log' request)

theorem OfLogs.requests_eq {R : Likeness} {log log' : Log} (h : R.OfLogs log log') :
    log.map Prod.fst = log'.map Prod.fst := by
  induction h with
  | nil => rfl
  | cons hentry _ ih => rw [List.map_cons, List.map_cons, hentry.1, ih]

end Likeness

variable {R : Likeness} {engine engine' : Behaviour}

namespace Conversation

/-- A conversation that goes on in the same way after outcomes that are alike. -/
inductive Ignores (R : Likeness) : Conversation α → Prop where
  | done (value : α) : Ignores R (.done value)
  | ask {pause : Nat} {request : Request} {next : Outcome → Conversation α}
    (same : ∀ outcome outcome', R request outcome outcome' → next outcome = next outcome')
    (rest : ∀ outcome, Ignores R (next outcome)) : Ignores R (.ask pause request next)

/-- With engines that answer alike it adds logs that are alike, and ends with the same value. -/
theorem Ignores.run {c : Conversation α} (h : c.Ignores R) (hengines : R.OfEngines engine engine')
    {past past' : Log} (hpast : R.OfLogs past past') :
    ∃ value log log', (c.run engine.answer).run past = (value, past ++ log) ∧
      (c.run engine'.answer).run past' = (value, past' ++ log') ∧ R.OfLogs log log' := by
  induction h generalizing past past' with
  | done value =>
    exact ⟨value, [], [], by rw [List.append_nil]; rfl, by rw [List.append_nil]; rfl, .nil⟩
  | @ask pause request next same rest ih =>
    have hanswer := hengines past past' request hpast
    have hentry : R.OfLogs [(request, engine past request)] [(request, engine' past' request)] :=
      .cons ⟨rfl, hanswer⟩ .nil
    obtain ⟨value, log, log', hrun, hrun', hlogs⟩ :=
      ih (engine past request) (List.rel_append hpast hentry)
    rw [same _ _ hanswer] at hrun'
    rw [List.append_assoc] at hrun hrun'
    exact ⟨value, _, _, hrun, hrun', .cons ⟨rfl, hanswer⟩ hlogs⟩

/-- Whether a conversation goes the same way with two engines: it ends with the same value, after
the same requests. -/
def CannotTell (c : Conversation α) (engine engine' : Behaviour) : Prop :=
  (c.record engine).1 = (c.record engine').1 ∧
    (c.record engine).2.map Prod.fst = (c.record engine').2.map Prod.fst

/-- **It goes the same way with engines that answer alike.** -/
theorem Ignores.cannotTell {c : Conversation α} (h : c.Ignores R)
    (hengines : R.OfEngines engine engine') : c.CannotTell engine engine' := by
  obtain ⟨value, log, log', hrun, hrun', hlogs⟩ := h.run hengines (List.Forall₂.nil)
  have hrecord : c.record engine = (value, log) := hrun
  have hrecord' : c.record engine' = (value, log') := hrun'
  rw [CannotTell, hrecord, hrecord']
  exact ⟨rfl, hlogs.requests_eq⟩

end Conversation

/-! ## One request -/

/-- What follows the outcome of a request. -/
def Client.follow (request : Request) (rest : Response → Exchange α) (outcome : Outcome) :
    Conversation (Except Fault α) :=
  match Client.settle request outcome with
  | .ok response => (rest response).run
  | .error fault => .done (.error fault)

theorem run_send_bind {c : Client} {method : Method} {url : Url} {body : Option Json}
    {rest : Response → Exchange α}
    (hsendable : Request.isSendable ⟨method, url, c.token, body⟩ = true) :
    (c.send method url body >>= rest).run =
      (Client.attempt 0 c.backoff ⟨method, url, c.token, body⟩ c.retries).bind
        (Client.follow ⟨method, url, c.token, body⟩ rest) := by
  rw [send_eq hsendable]
  refine (Conversation.bind_bind _ _ (ExceptT.bindCont rest)).trans
    (congrArg _ (funext fun outcome => ?_))
  unfold Client.follow
  cases Client.settle ⟨method, url, c.token, body⟩ outcome <;> rfl

variable {request : Request} {rest : Response → Exchange α}

/-- Attempts ignore what makes no difference to what follows them, if it is no difference between a
connection and none. -/
theorem ignores_attempt {β : Type} {f : Outcome → Conversation β} {pause delay retries : Nat}
    (hreach : ∀ outcome outcome', R request outcome outcome' →
      outcome.isUnconnected = outcome'.isUnconnected)
    (hsame : ∀ outcome outcome', R request outcome outcome' → f outcome = f outcome')
    (hrest : ∀ outcome, (f outcome).Ignores R) :
    ((Client.attempt pause delay request retries).bind f).Ignores R := by
  induction retries generalizing pause delay with
  | zero => exact .ask hsame hrest
  | succ retries ih =>
    rw [Client.attempt]
    refine .ask (fun outcome outcome' hlike => ?_) fun outcome => ?_
    · dsimp only
      rw [← hreach outcome outcome' hlike]
      split
      · rfl
      · exact hsame outcome outcome' hlike
    · dsimp only
      split
      · exact ih
      · exact hrest outcome

/-- So does a request, whether or not it can be written down. -/
theorem ignores_send {c : Client} {method : Method} {url : Url} {body : Option Json}
    (hreach : ∀ outcome outcome', R ⟨method, url, c.token, body⟩ outcome outcome' →
      outcome.isUnconnected = outcome'.isUnconnected)
    (hsame : ∀ outcome outcome', R ⟨method, url, c.token, body⟩ outcome outcome' →
      Client.follow ⟨method, url, c.token, body⟩ rest outcome =
        Client.follow ⟨method, url, c.token, body⟩ rest outcome')
    (hrest : ∀ response, (rest response).run.Ignores R) :
    (c.send method url body >>= rest).run.Ignores R := by
  by_cases hsendable : Request.isSendable ⟨method, url, c.token, body⟩ = true
  · rw [run_send_bind hsendable]
    refine ignores_attempt hreach hsame fun outcome => ?_
    unfold Client.follow
    split
    · exact hrest _
    · exact .done _
  · rw [Client.send, if_neg hsendable]
    exact .done _

end UplinkFlow.Engine
