import UplinkFlow.Engine.Client
import UplinkFlow.Template

/-!
# Rollouts

A `Rollout` joins a template, a counter and the engine.

* `Rollout.generate` — the flow of a sensor with the counter's next number.
* `Rollout.rollOut` — generates the flow and deploys it.  The conversation with the engine
  begins after the counter has been stored.
* `Rollout.withdraw` — removes the flow of a sensor from the engine.
-/

set_option autoImplicit false

namespace UplinkFlow

/-- What flows are generated from and where they go. -/
structure Rollout where
  template : Template
  counter : Counter
  client : Engine.Client

/-- Why there is no flow for a sensor. -/
structure GenerationFault where
  sensorId : String
  cause : TemplateFault
deriving DecidableEq, Repr

def GenerationFault.chain (f : GenerationFault) : List String :=
  ("failed to generate flow for sensor " ++ f.sensorId) :: f.cause.chain

namespace Rollout

/-- The rollout that settings describe. -/
def ofSettings (settings : Settings) (s : Storage) : Except TemplateFault Rollout := do
  let template ← Template.load s settings.templatePath settings.idPattern
  return ⟨template, Counter.atPath settings.counterPath settings.lockTimeout,
    Engine.Client.ofSettings settings⟩

/-- The flow of a sensor. -/
def generate (p : Rollout) (sensor : Sensor) (layout : Layout) (s : Storage) :
    Except GenerationFault Flow × Storage :=
  let (result, s) := p.template.issue p.counter sensor layout s
  (result.mapError (GenerationFault.mk sensor.id), s)

def deploy (p : Rollout) (flow : Flow) : Engine.Conversation Bool :=
  Engine.Client.succeeds (p.client.deploy flow)

/-- Removes the flow of a sensor. -/
def withdraw (p : Rollout) (sensorId : String) : Engine.Conversation Bool :=
  Engine.Client.succeeds (p.client.delete sensorId)

/-- Generates the flow of a sensor and deploys it. -/
def rollOut (p : Rollout) (sensor : Sensor) (layout : Layout) (s : Storage) :
    Engine.Conversation Bool × Storage :=
  match p.generate sensor layout s with
  | (.ok flow, s) => (p.deploy flow, s)
  | (.error _, s) => (.done false, s)

end Rollout

end UplinkFlow
