import Gatehouse.Chain.Stage
import Gatehouse.Gateway.State

/-!
# The target of the call

The URL to call: the domain of the backend without slashes at its end, the reshaped path or else
the path itself, and the query.
-/

namespace Gatehouse.Stages

open Chain Gateway

namespace Target

/-- The path to ask for. A blank one does not count as reshaped. -/
def path (c : Context) : String :=
  (c.reshaped.filter fun p => !Text.isBlankText p).getD c.realUrl

/-- A query behind a question mark, if it is not empty. -/
def queryPart (query : Option String) : String :=
  match query with
  | some q => if q.isEmpty then "" else "?" ++ q
  | none => ""

def url (domain : String) (x : Exchange) : String :=
  Text.dropTrailing '/' domain ++ path x.context ++ queryPart x.request.query

end Target

/-- The stage that puts the URL together. -/
def target : Stage State where
  name := "uri"
  order := 210
  skips x := !x.context.rpc.isPlainHttp
  run _ s x :=
    match x.context.domain with
    | none => conclude .proceed s x
    | some domain =>
      conclude .proceed s (withContext x fun c => { c with target := some (Target.url domain x) })

end Gatehouse.Stages
