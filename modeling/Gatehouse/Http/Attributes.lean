import Gatehouse.Http.Query
import Gatehouse.Http.Request

/-!
# Request attributes

What conditions look at: the parts of a request, taken out of it once.
-/

namespace Gatehouse.Http

/-- The attributes of a request. The lists hold one value for each name, in the order of names. -/
structure Attributes where
  path : String
  host : Option String
  ip : Option String
  method : String
  query : List (String × String)
  headers : List (String × String)
  cookies : List (String × String)
deriving DecidableEq, Repr, Inhabited

/-- The name in a host field, without the number behind it: an address in brackets up to the
closing one, else the text before a single colon. -/
def hostName (host : String) : String :=
  let s := host.toList
  match s with
  | '[' :: _ =>
    match Text.cut? ']' s with
    | some (a, _) => String.ofList (a ++ [']'])
    | none => host
  | _ =>
    match Text.cut? ':' s with
    | some (name, rest) => if rest.contains ':' then host else String.ofList name
    | none => host

namespace Attributes

/-- One value for each name, the last one. -/
def lastOfEach (ps : List (String × String)) : List (String × String) := Keyed.ofList ps

def cookiePairs (header : String) : List (String × String) :=
  (Text.splitString ';' header).filterMap fun part =>
    (Text.cutString? '=' (Text.trimString part)).map fun (k, v) =>
      (Text.trimString k, Text.trimString v)

def ofRequest (r : Request) : Attributes :=
  let headers := lastOfEach (r.headers.fields.filter fun (_, v) => Headers.isReadable v)
  { path := r.path
    host := (headers.lookup "host").map hostName
    ip := r.clientIp
    method := r.method
    query := (r.query.map Query.parse).getD []
    headers := headers
    cookies := ((headers.lookup "cookie").map fun h => lastOfEach (cookiePairs h)).getD [] }

end Attributes

end Gatehouse.Http
