import UplinkFlow.Engine.Basic
import UplinkFlow.Http.Status
import UplinkFlow.Service.Basic
import UplinkFlow.Text.Utf8

/-!
# HTTP messages as sent

Every connection carries one message each way, and every body is preceded by its length.

* `requestBytes` — a request to the engine.
* `responseBytes` — a response of the service.
-/

set_option autoImplicit false

namespace UplinkFlow.Http

/-- The bytes of a message: its lines, an empty one and the body. -/
def messageBytes (start : String) (headers : List (String × String)) (body : String) :
    List UInt8 :=
  let bytes := Text.utf8Bytes body
  let lines := start :: (headers ++ [("Content-Length", Text.decimal bytes.length),
    ("Connection", "close")]).map fun (name, value) => name ++ ": " ++ value
  Text.utf8Bytes (String.join ((lines ++ [""]).map (· ++ "\r\n"))) ++ bytes

def requestBytes (r : Engine.Request) : List UInt8 :=
  messageBytes (r.method.name ++ " " ++ r.url.target ++ " HTTP/1.1")
    (("Host", r.url.authorityText) :: r.headers) (r.bodyText.getD "")

def responseBytes (r : Service.Response) : List UInt8 :=
  messageBytes ("HTTP/1.1 " ++ Text.decimal r.status ++ " " ++ (reasons.lookup r.status).getD "")
    (r.contentType.map fun kind => ("Content-Type", kind)).toList r.body

end UplinkFlow.Http
