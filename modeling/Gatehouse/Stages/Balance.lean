import Gatehouse.Chain.Stage
import Gatehouse.Gateway.State

/-!
# Choosing a backend

Plain requests need a selector and a rule of this stage. The selector names the backends, and the
rule says how to choose among them, and what is different about the call.
-/

namespace Gatehouse.Stages

open Chain Gateway

namespace Balance

open Json.Decoder

/-- How a rule wants requests to be passed on. -/
structure Directive where
  strategy : String
  /-- In milliseconds. -/
  timeout : Option Nat
  retry : Option Nat
deriving DecidableEq, Repr, Inhabited

namespace Directive

def default : Directive := ⟨Gatehouse.Balance.Strategy.fallback.label, none, none⟩

def decode : Json.Decoder Directive :=
  record "Directive" <|
    Directive.mk <$> optional "loadBalance" string default.strategy []
      <*> optional "timeout" (nullable (unsigned 64)) none []
      <*> optional "retry" (nullable (unsigned 32)) none []

def encode (d : Directive) : Json :=
  .obj [("loadBalance", .str d.strategy), ("retry", encodeOption (fun n => .int (n : Nat)) d.retry),
    ("timeout", encodeOption (fun n => .int (n : Nat)) d.timeout)]

end Directive

def assign (d : Directive) (b : Backend) (c : Context) : Context :=
  { c with
    backend := some b
    domain := some b.domain
    timeout := d.timeout.or c.timeout
    retry := d.retry.or c.retry }

end Balance

/-- The stage that chooses a backend. -/
def balance (scatter : Gatehouse.Balance.Scatter) : Scoped State where
  name := balanceStage
  order := 200
  skips x := !x.context.rpc.isPlainHttp
  unselected := .fail (.noSelector balanceStage)
  unruled selector := .fail (.noRule balanceStage selector.id)
  matched moment s x selector rule :=
    match parseHandle Balance.Directive.decode .default rule.handle with
    | .error f => conclude (.fail f.toFault) s x
    | .ok directive =>
      let (chosen, pool) := s.pool.choose scatter moment selector.id
        ⟨x.client, selector.id, directive.strategy⟩
      let s := { s with pool := pool }
      match chosen with
      | .error f => conclude (.fail f) s x
      | .ok b => conclude .proceed s (withContext x (Balance.assign directive b))

end Gatehouse.Stages
