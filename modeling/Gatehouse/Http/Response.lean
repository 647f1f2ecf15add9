import Gatehouse.Fault
import Gatehouse.Json.Printer

/-!
# HTTP responses

A response has a status, perhaps a content type and a list of allowed methods, and a body. A
fault becomes a JSON object with the name of its code and the caller's view of it.
-/

namespace Gatehouse.Http

/-- A response to one request. -/
structure Response where
  status : Nat
  contentType : Option String
  body : ByteArray
  /-- The value of the `Allow` header. -/
  allow : Option String

namespace Response

/-- The content type of plain text. -/
def plainText : String := "text/plain; charset=utf-8"

/-- A response with a body that is text of a content type. -/
def ofText (status : Nat) (contentType text : String) : Response :=
  ⟨status, some contentType, text.toUTF8, none⟩

/-- A response without a body. -/
def bare (status : Nat) : Response := ⟨status, none, ByteArray.empty, none⟩

/-- The JSON text that answers a fault. -/
def faultText (f : Fault) : String :=
  Json.objectText [("error", Json.stringText f.code.name),
    ("message", Json.stringText f.clientMessage)]

/-- The response to a fault. -/
def ofFault (f : Fault) : Response := ofText f.status "application/json" (faultText f)

/-- The reply of a service. -/
def ofReply (bytes : ByteArray) : Response := ⟨200, some "application/octet-stream", bytes, none⟩

/-- The response without its body. -/
def withoutBody (r : Response) : Response := { r with body := ByteArray.empty }

end Response

end Gatehouse.Http
