import Gatehouse.Balance.Pool
import Gatehouse.Call.Line
import Gatehouse.Catalog.Feed
import Gatehouse.Throttle.Basic

/-!
# The state that stages share

The catalogue and what is derived from it: the pool follows the selectors of one stage, the
buckets the rules of another. Both learn of changes by the messages of the feed alone.
-/

namespace Gatehouse.Gateway

/-- The state that stages share. Tokens are counted in doubles. -/
structure State (α : Type := Number.Binary64) where
  catalog : Catalog
  pool : Balance.Pool
  buckets : Throttle.Buckets α
  line : Call.Line

variable {α : Type}

/-- The stage whose selectors name backends. -/
def balanceStage : String := "divide"

/-- The stage whose rules limit requests. -/
def throttleStage : String := "rate_limiter"

def backendsOf (s : Selector) : Except ConfigFault (List Backend) :=
  parseHandle (Json.Decoder.list Backend.decode) [] s.handle

/-- Let the pool follow the selectors. A selector whose backends cannot be read changes nothing. -/
def tellPool (p : Balance.Pool) : Feed.Notice → Balance.Pool
  | .selectorPut s =>
    match backendsOf s with
    | .ok backends => p.put s.id backends
    | .error _ => p
  | .selectorGone s => p.remove s.id
  | _ => p

def tellBuckets (bs : Throttle.Buckets α) : Feed.Notice → Throttle.Buckets α
  | .rulePut r => bs.drop r.id
  | .ruleGone r => bs.drop r.id
  | _ => bs

namespace State

/-- A state without configuration, at a time in nanoseconds. -/
def initial (strategies : List Balance.Strategy) (line : Call.Line) (now : Nat) :
    State α where
  catalog := .empty
  pool := .empty strategies
  buckets := .empty now
  line := line

def tell (s : State α) (m : Feed.Message) : State α :=
  if m.stage = balanceStage then { s with pool := tellPool s.pool m.notice }
  else if m.stage = throttleStage then { s with buckets := tellBuckets s.buckets m.notice }
  else s

def apply (s : State α) (e : Feed.Event) : State α :=
  let outcome := Feed.apply s.catalog e
  outcome.messages.foldl tell { s with catalog := outcome.catalog }

end State

end Gatehouse.Gateway
