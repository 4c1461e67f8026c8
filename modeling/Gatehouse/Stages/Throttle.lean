import Gatehouse.Chain.Stage
import Gatehouse.Gateway.State

/-!
# Throttled requests

Requests under a rule of this stage are admitted as long as there are tokens for them.
-/

namespace Gatehouse.Stages

open Chain Gateway

variable {α : Type} [Number.Counting α]

def tooMany : Http.Response := .error 429 "You have been restricted, please try again later!"

/-- The stage that admits only so many requests. -/
def throttle : Scoped (State α) where
  name := throttleStage
  order := 60
  skips _ := false
  unselected := .proceed
  unruled _ := .proceed
  matched moment s x _ rule :=
    let (admitted, buckets) := s.buckets.grant rule x.client moment.elapsedNs
    let s := { s with buckets := buckets }
    match admitted with
    | .ok true => conclude .proceed s x
    | .ok false => conclude (.respond tooMany) s x
    | .error f => conclude (.fail f.toFault) s x

end Gatehouse.Stages
