import Gatehouse.Http.Body
import Gatehouse.Http.Headers

/-!
# Requests

A request as it reaches the gateway. The target is cut into path and query at its first `?`.
-/

namespace Gatehouse.Http

structure Request where
  method : String
  path : String
  query : Option String
  headers : Headers
  body : Body
  clientIp : Option String
deriving DecidableEq, Repr, Inhabited

namespace Request

/-- A request without headers and body for a target. -/
def ofTarget (method target : String) : Request :=
  let (path, query) := match Text.cutString? '?' target with
    | some (p, q) => (p, some q)
    | none => (target, none)
  { method, path, query, headers := .empty, body := .empty, clientIp := none }

/-- The first value of a header, if it can be read. -/
def header? (r : Request) (name : String) : Option String := r.headers.read? name

end Request

end Gatehouse.Http
