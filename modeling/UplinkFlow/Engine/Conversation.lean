import UplinkFlow.Engine.Basic

/-!
# Conversations with the engine

A `Conversation` is a tree: it asks the engine and goes on as the outcome demands, or it is done
with a value.  What the engine does is not part of it.

* `Conversation.run` — the conversation with an engine that acts in a monad.
* `Conversation.replay` — the conversation with an engine that gives listed outcomes; the requests
  sent are listed with the value.
-/

set_option autoImplicit false

namespace UplinkFlow.Engine

/-- A conversation that ends with a value.  Every request is preceded by a pause of some
milliseconds. -/
inductive Conversation (α : Type) where
  | done (value : α)
  | ask (pause : Nat) (request : Request) (next : Outcome → Conversation α)

namespace Conversation

variable {α β γ : Type}

/-- Goes on after a conversation. -/
def bind (c : Conversation α) (f : α → Conversation β) : Conversation β :=
  match c with
  | .done value => f value
  | .ask pause request next => .ask pause request fun outcome => (next outcome).bind f

instance : Monad Conversation where
  pure := done
  bind := bind

theorem bind_done (c : Conversation α) : c.bind done = c := by
  induction c with
  | done value => rfl
  | ask pause request next ih => exact congrArg (ask pause request) (funext ih)

theorem bind_bind (c : Conversation α) (f : α → Conversation β) (g : β → Conversation γ) :
    (c.bind f).bind g = c.bind fun a => (f a).bind g := by
  induction c with
  | done value => rfl
  | ask pause request next ih => exact congrArg (ask pause request) (funext ih)

instance : LawfulMonad Conversation :=
  LawfulMonad.mk' Conversation bind_done (fun _ _ => rfl) bind_bind

/-- The conversation with an engine that answers each request in a monad. -/
def run {m : Type → Type} [Monad m] (engine : Nat → Request → m Outcome) :
    Conversation α → m α
  | .done value => pure value
  | .ask pause request next => do run engine (next (← engine pause request))

/-- The value of a conversation, and the requests sent, when the engine gives listed outcomes and
cannot be reached after that. -/
def replay : List Outcome → Conversation α → List Request × α
  | _, .done value => ([], value)
  | outcomes, .ask _ request next =>
    let (requests, value) := replay outcomes.tail (next (outcomes.headD .unreachable))
    (request :: requests, value)

end Conversation

end UplinkFlow.Engine
