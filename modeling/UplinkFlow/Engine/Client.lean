import UplinkFlow.Engine.Conversation
import UplinkFlow.Engine.Listing
import UplinkFlow.Settings.Basic

/-!
# Reconciling flows with the engine

Every operation first lists what is deployed and then acts on the flow whose tab has the wanted
label, so that a label stands for one flow however often it is deployed.

* `Client.list` — the nodes on the engine.
* `Client.deploy` — creates a flow, or replaces the one with its label.
* `Client.delete` — removes the flow with a label, if there is one.

A request is repeated only if no connection came about, up to a limit, with growing pauses.
-/

set_option autoImplicit false

namespace UplinkFlow.Engine

/-- The way to the engine; durations are milliseconds. -/
structure Client where
  base : Url
  token : Option String
  timeout : Nat
  retries : Nat
  backoff : Nat

/-- What a deployment has done. -/
inductive Deployment where
  | created
  | updated
deriving DecidableEq, Repr

/-- What a deletion has found. -/
inductive Deletion where
  | deleted (id : String)
  | notDeployed
deriving DecidableEq, Repr

/-- A flow as it is submitted: the identifier and the label of its tab, and the other nodes. -/
structure Submission where
  id : String
  label : String
  nodes : Flow

namespace Submission

/-- The submission of a flow whose first tab has a label. -/
def ofFlow? (flow : Flow) : Option Submission :=
  flow.tab?.bind fun tab =>
    (tab.label?.filter fun label => !label.isEmpty).map fun label =>
      ⟨tab.id, label, flow.withoutTab⟩

/-- The submission for a flow that is deployed already: every node goes to its tab. -/
def onto (s : Submission) (id : String) : Submission :=
  { s with id := id, nodes := s.nodes.map fun n => { n with tab := some id } }

def toJson (s : Submission) : Json :=
  .obj [("id", .str s.id), ("label", .str s.label), ("nodes", Flow.toJson s.nodes)]

end Submission

/-- A conversation that may fail. -/
abbrev Exchange := ExceptT Fault Conversation

namespace Client

/-- The client for an address, which is taken as a folder. -/
def ofUrl (url : Url) (token : Option String) (timeout retries backoff : Nat) : Client :=
  ⟨url.asFolder, token, timeout, retries, backoff⟩

/-- The client that settings describe. -/
def ofSettings (s : Settings) : Client :=
  ofUrl s.engineUrl s.engineToken s.httpTimeout s.connectRetries s.retryBackoff

/-- The address of something on the engine. -/
def endpoint (c : Client) (segments : List String) : Url := c.base.endpoint segments

/-- The longest pause after the first one. -/
def maxPause : Nat := 5000

/-- Sends a request after a pause; without a connection again after a further delay, which doubles
each time. -/
def attempt (pause delay : Nat) (request : Request) : (retries : Nat) → Conversation Outcome
  | 0 => .ask pause request .done
  | retries + 1 =>
    .ask pause request fun outcome =>
      if outcome.isUnconnected then attempt delay (min (2 * delay) maxPause) request retries
      else .done outcome

/-- The response of an outcome.  Where the time to connect has run out, the fault is that of any
request that has run out of time. -/
def settle (request : Request) : Outcome → Except Fault Response
  | .answered response => .ok response
  | .timedOut | .connectTimedOut => .error (.timedOut request.url.text)
  | .unreachable | .failed => .error .transport

/-- Sends a request, if it can be written down. -/
def send (c : Client) (method : Method) (url : Url) (body : Option Json) : Exchange Response :=
  let request : Request := ⟨method, url, c.token, body⟩
  ExceptT.mk <|
    if request.isSendable then
      (attempt 0 c.backoff request c.retries).bind fun outcome => .done (settle request outcome)
    else .done (.error .transport)

def readListing (url : Url) (response : Response) : Except Fault Listing :=
  if response.status = 200 then
    match response.content with
    | .whole bytes =>
      match Listing.ofBytes? bytes with
      | some listing => .ok listing
      | none => .error .invalidListing
    | .stalled => .error (.timedOut url.text)
    | .broken => .error .invalidListing
  else if response.status = 401 then .error .unauthorized
  else if response.status = 400 then .error .invalidApiVersion
  else .error (.unexpectedStatus response.status)

/-- Checks the response to a change; the body of a refusal is empty if it cannot be read. -/
def checkChange (response : Response) : Except Fault Unit :=
  if response.status = 200 ∨ response.status = 204 then .ok ()
  else if response.status = 400 then
    match response.content with
    | .whole bytes => .error (.badRequest (Text.lossyUtf8 bytes))
    | _ => .error (.badRequest "")
  else if response.status = 401 then .error .unauthorized
  else .error (.unexpectedStatus response.status)

/-- The nodes on the engine. -/
def list (c : Client) : Exchange Listing := do
  let url := c.endpoint ["flows"]
  let response ← c.send .get url none
  readListing url response

/-- Submits a flow: in place of the one with an identifier, or as a new one. -/
def submit (c : Client) (s : Submission) (existing : Option String) : Exchange Deployment := do
  let (method, url, s, done) := match existing with
    | some id => (Method.put, c.endpoint ["flow", id], s.onto id, Deployment.updated)
    | none => (Method.post, c.endpoint ["flow"], s, Deployment.created)
  let response ← c.send method url (some s.toJson)
  checkChange response
  return done

/-- Creates a flow, or replaces the one with its label. -/
def deploy (c : Client) (flow : Flow) : Exchange Deployment :=
  match Submission.ofFlow? flow with
  | none => throw .malformedFlow
  | some s => do
    let listing ← c.list
    c.submit s (listing.tabId? s.label)

def checkDeletion (id : String) (response : Response) : Except Fault Unit :=
  if response.status = 404 then .error (.notFound id) else checkChange response

/-- Removes the flow with a label.  It is no fault if there is none. -/
def delete (c : Client) (label : String) : Exchange Deletion := do
  let listing ← c.list
  match listing.tabId? label with
  | none => return .notDeployed
  | some id =>
    let response ← c.send .delete (c.endpoint ["flow", id]) none
    checkDeletion id response
    return .deleted id

def succeeds {α : Type} (exchange : Exchange α) : Conversation Bool :=
  exchange.run.bind fun result => .done result.isOk

end Client

end UplinkFlow.Engine
