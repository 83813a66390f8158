import UplinkFlow.Command.Run
import UplinkFlow.Host.Files
import UplinkFlow.Host.Link
import Std.Async.Signal

/-!
# The service on a socket

`serve` answers requests at an address until the program is interrupted.  Every connection carries
one request.
-/

set_option autoImplicit false

namespace UplinkFlow.Host

open Std.Async (Async Selectable)
open Std.Async.TCP (Socket.Client Socket.Server)

/-- The present time in nanoseconds since 1970. -/
def now : IO Int64 := do
  let present ← Std.Time.Timestamp.now
  return Int64.ofInt present.toNanosecondsSinceUnixEpoch.val

/-- Reads a request up to a moment. -/
partial def readQuestion (client : Socket.Client) (deadline : Nat) (received : List UInt8) :
    Async Http.Arrival := do
  match Http.readRequest received with
  | .all head body => return .all head body
  | .malformed => return .malformed
  | arrival =>
    match ← receive client deadline with
    | .bytes data => readQuestion client deadline (received ++ data.toList)
    | _ => return arrival

/-- The response to a request as received. -/
def respondTo (p : Rollout) (arrival : Http.Arrival) : IO Service.Response :=
  match arrival with
  | .all head body => do
    let (method, target) := head.request?.getD ("", "")
    let request : Service.Request := ⟨method, target, head.header? "content-type", body⟩
    let present ← now
    let conversation ← transact (counterPaths p.counter) (some p.counter)
      (Service.respond p present request)
    conversation.run (ask p.client.timeout)
  | _ => return .empty 400

/-- How many milliseconds a request may take to arrive. -/
def requestTimeout : Nat := 30000

def answer (p : Rollout) (client : Socket.Client) : Async Unit := do
  try
    let arrival ← readQuestion client ((← IO.monoMsNow) + requestTimeout) []
    let response ← respondTo p arrival
    client.send ⟨(Http.responseBytes response).toArray⟩
    client.shutdown
  catch _ => return ()

/-- Accepts connections until the program is interrupted. -/
partial def accept (p : Rollout) (server : Socket.Server)
    (interrupt : Std.Async.Signal.Waiter) : Async Unit := do
  let next ← Selectable.one #[
    .case server.acceptSelector fun client => return some client,
    .case interrupt.selector fun _ => return none ]
  match next with
  | none => return ()
  | some client =>
    Std.Async.background (answer p client)
    accept p server interrupt

/-- Listens at the first socket address that the system allows. -/
def listen (addresses : List Std.Net.SocketAddress) : IO Socket.Server := do
  let server ← Socket.Server.mk
  match addresses with
  | [] => throw (IO.userError "could not resolve to any addresses")
  | address :: _ =>
    server.bind address
    server.listen 1024
    return server

/-- The wording of a failure of the system. -/
def reasonOf (e : IO.Error) : Service.Address.Fault := .refused (toString e)

/-- Answers requests at an address until the program is interrupted. -/
def serve (p : Rollout) (text : String) (address : Service.Address) : IO Command.Report := do
  let bound ←
    try
      let addresses ← (resolve address.host address.port).block
      pure (Except.ok (← listen addresses))
    catch e => pure (Except.error (reasonOf e))
  match bound with
  | .error fault => return .error (.address text fault)
  | .ok server =>
    let interrupt ← Std.Async.Signal.Waiter.mk .sigint false
    (accept p server interrupt).block
    return .ok ""

end UplinkFlow.Host
