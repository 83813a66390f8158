import UplinkFlow.Http.Status
import UplinkFlow.Json.Printer
import UplinkFlow.Url.Basic

/-!
# Requests to the flow engine

* `Request` — one request to the engine, with its headers.
* `Outcome` — what becomes of an attempt to send it.
* `Fault` — why an operation on the engine fails.
-/

set_option autoImplicit false

namespace UplinkFlow.Engine

/-- The methods that the engine is asked with. -/
inductive Method where
  | get
  | post
  | put
  | delete
deriving DecidableEq, Repr

def Method.name : Method → String
  | .get => "GET"
  | .post => "POST"
  | .put => "PUT"
  | .delete => "DELETE"

/-- A request to the engine. -/
structure Request where
  method : Method
  url : Url
  token : Option String
  body : Option Json

namespace Request

/-- The version of the interface that every request names. -/
def interfaceVersion : String := "v1"

/-- The authorization that a token gives. -/
def authorization (r : Request) : Option String := r.token.map fun token => "Bearer " ++ token

def contentType (r : Request) : Option String := r.body.map fun _ => "application/json"

def bodyText (r : Request) : Option String := r.body.map Json.compact

/-- The headers of a request, apart from those of the connection. -/
def headers (r : Request) : List (String × String) :=
  ("Node-RED-API-Version", interfaceVersion) ::
    (r.authorization.map fun value => ("Authorization", value)).toList ++
    (r.contentType.map fun value => ("Content-Type", value)).toList

/-- Whether a character may stand in the value of a header. -/
def isHeaderChar (c : Char) : Bool := c == '\t' || (' ' ≤ c && c != '\x7f')

/-- Whether the request can be written down. -/
def isSendable (r : Request) : Bool := r.headers.all fun (_, value) => value.all isHeaderChar

end Request

/-- The body of a response as far as it arrives. -/
inductive Content where
  | whole (bytes : List UInt8)
  | broken
  | stalled
deriving DecidableEq, Repr

/-- A response of the engine. -/
structure Response where
  status : Nat
  content : Content
deriving DecidableEq, Repr

/-- What becomes of an attempt: no connection, no connection in time, no answer in time, another
failure, or a response. -/
inductive Outcome where
  | unreachable
  | connectTimedOut
  | timedOut
  | failed
  | answered (response : Response)
deriving DecidableEq, Repr

/-- Whether no connection has come about, for whatever reason. -/
def Outcome.isUnconnected : Outcome → Bool
  | .unreachable | .connectTimedOut => true
  | _ => false

/-- Why an operation on the engine fails. -/
inductive Fault where
  | malformedFlow
  | unauthorized
  | invalidApiVersion
  | badRequest (body : String)
  | notFound (id : String)
  | unexpectedStatus (status : Nat)
  | timedOut (url : String)
  | transport
  | invalidListing
deriving DecidableEq, Repr

def Fault.message : Fault → String
  | .malformedFlow =>
    "could not extract flow info, malformed flow object (no labelled \"tab\" node)"
  | .unauthorized => "not authorized"
  | .invalidApiVersion => "invalid API version"
  | .badRequest body => "engine rejected the request: " ++ body
  | .notFound id => "flow " ++ id ++ " not found"
  | .unexpectedStatus status => "unexpected status code " ++ Http.statusText status
  | .timedOut url => "request to " ++ url ++ " timed out"
  | .transport => "request failed"
  | .invalidListing => "invalid flow listing"

end UplinkFlow.Engine
