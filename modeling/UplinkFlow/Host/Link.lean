import UplinkFlow.Http.Message
import UplinkFlow.Http.Writing
import Std.Async.DNS
import Std.Async.TCP
import Std.Async.Timer

/-!
# The connection to the engine

`ask` sends one request over a connection of its own and waits for the response.  Only addresses of
the scheme `http` can be reached.
-/

set_option autoImplicit false

namespace UplinkFlow.Host

open Std.Async (Async Selectable)
open Std.Async.TCP (Socket.Client)
open Std.Net (SocketAddress)

/-- The outcome of a response that has stopped to arrive. -/
def outcomeOf (arrival : Http.Arrival) (content : Engine.Content) (otherwise : Engine.Outcome) :
    Engine.Outcome :=
  match arrival with
  | .all head body => .answered ⟨head.status?.getD 0, .whole body⟩
  | .head head => .answered ⟨head.status?.getD 0, content⟩
  | .nothing => otherwise
  | .malformed => .failed

/-- The socket addresses of a host. -/
def resolve (host : String) (port : Nat) : Async (List SocketAddress) := do
  let plain := String.ofList (host.toList.filter fun c => c != '[' && c != ']')
  let found ← Std.Async.DNS.getAddrInfo plain (Text.decimal port)
  let address (ip : Std.Net.IPAddr) : SocketAddress :=
    match ip with
    | .v4 addr => .v4 ⟨addr, UInt16.ofNat port⟩
    | .v6 addr => .v6 ⟨addr, UInt16.ofNat port⟩
  return found.toList.map address

/-- The outcome of an attempt that has found no connection. -/
def unconnected : IO.Error → Engine.Outcome
  | .timeExpired .. => .connectTimedOut
  | _ => .unreachable

/-- Connects to the first address that answers; if none does, the outcome is that of the last. -/
def connect (outcome : Engine.Outcome) :
    List SocketAddress → Async (Except Engine.Outcome Socket.Client)
  | [] => return .error outcome
  | address :: rest => do
    let client ← Socket.Client.mk
    try
      client.connect address
      return .ok client
    catch fault => connect (unconnected fault) rest

/-- What the next bytes on a connection are: some, the end, or none in time. -/
inductive Received where
  | bytes (data : ByteArray)
  | ended
  | late

/-- Waits for the next bytes up to a moment. -/
def receive (client : Socket.Client) (deadline : Nat) : Async Received := do
  let now ← IO.monoMsNow
  if deadline ≤ now then return .late
  let pause ← Std.Async.Selector.sleep (Std.Time.Millisecond.Offset.ofNat (deadline - now))
  Selectable.one #[
    .case (client.recvSelector 65536) fun data? =>
      return match data? with
        | some data => .bytes data
        | none => .ended,
    .case pause fun _ => return .late ]

/-- Reads a response up to a moment. -/
partial def readAnswer (client : Socket.Client) (deadline : Nat) (received : List UInt8) :
    Async Engine.Outcome := do
  match Http.readResponse false received with
  | .all head body => return outcomeOf (.all head body) .broken .failed
  | .malformed => return .failed
  | _ =>
    match ← receive client deadline with
    | .bytes data => readAnswer client deadline (received ++ data.toList)
    | .ended => return outcomeOf (Http.readResponse true received) .broken .failed
    | .late => return outcomeOf (Http.readResponse false received) .stalled .timedOut

/-- Sends a request and waits for the response. -/
def exchange (timeout : Nat) (request : Engine.Request) : Async Engine.Outcome := do
  let deadline := (← IO.monoMsNow) + timeout
  let connected : Async (Option (Except Engine.Outcome Socket.Client)) := do
    try
      let addresses ← resolve request.url.host (request.url.port.getD 80)
      return some (← connect .unreachable addresses)
    catch _ => return some (.error .unreachable)
  let late : Async (Option (Except Engine.Outcome Socket.Client)) := do
    Std.Async.sleep (Std.Time.Millisecond.Offset.ofNat timeout)
    return none
  match ← Async.race connected late with
  | none => return .timedOut
  | some (.error outcome) => return outcome
  | some (.ok client) =>
    try
      client.send ⟨(Http.requestBytes request).toArray⟩
      readAnswer client deadline []
    catch _ => return .failed

/-- Sends a request after a pause. -/
def ask (timeout pause : Nat) (request : Engine.Request) : IO Engine.Outcome := do
  IO.sleep (UInt32.ofNat (min pause 0xFFFFFFFF))
  if request.url.secure then return .failed
  (exchange timeout request).block

end UplinkFlow.Host
