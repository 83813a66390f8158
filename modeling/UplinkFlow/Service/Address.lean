import UplinkFlow.Text.Decimal
import UplinkFlow.Text.Parts

/-!
# Addresses to listen on

An address is a host and a port, with a colon before the port.
-/

set_option autoImplicit false

namespace UplinkFlow.Service

/-- Where the service listens. -/
structure Address where
  host : String
  port : Nat
deriving DecidableEq, Repr

namespace Address

/-- Why the service cannot listen at an address; the system may have reasons of its own. -/
inductive Fault where
  | noPort
  | invalidPort
  | refused (reason : String)
deriving DecidableEq, Repr

def Fault.message : Fault → String
  | .noPort => "invalid socket address"
  | .invalidPort => "invalid port value"
  | .refused reason => reason

/-- The address that a text denotes; the port stands behind the last colon. -/
def ofText (s : String) : Except Fault Address :=
  match (Text.partsAt ':' s.toList).reverse with
  | port :: before :: rest =>
    match Text.readNat 65535 port with
    | .ok n =>
      let host := [':'].intercalate (before :: rest).reverse
      .ok ⟨String.ofList host, n⟩
    | .error _ => .error .invalidPort
  | _ => .error .noPort

end Address

end UplinkFlow.Service
