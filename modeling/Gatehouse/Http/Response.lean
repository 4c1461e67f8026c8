import Gatehouse.Fault
import Gatehouse.Http.Body
import Gatehouse.Http.Headers
import Gatehouse.Json.Writer

/-!
# Responses

A response and the two ways the gateway makes one itself: from a status with a message, and from a
fault.
-/

namespace Gatehouse.Http

structure Response where
  status : Nat
  headers : Headers
  body : Body
deriving DecidableEq, Repr, Inhabited

namespace Response

def errorBody (status : Nat) (message : String) : Json :=
  .obj [("code", .int status), ("data", .null), ("message", .str message)]

/-- An answer that reports an error as JSON. -/
def error (status : Nat) (message : String) : Response where
  status := status
  headers := Headers.ofList [("content-type", "application/json")]
  body := .ofText (errorBody status message).toText

/-- The answer to a fault. The causes inside the gateway are not told. -/
def ofFault (f : Fault) : Response :=
  if f.isInternal then error 500 "Internal Server Error" else error f.status f.message

end Response

end Gatehouse.Http
