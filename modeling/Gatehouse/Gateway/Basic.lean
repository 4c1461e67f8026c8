import Gatehouse.Chain.Basic
import Gatehouse.Digest.Md5
import Gatehouse.Settings.Basic
import Gatehouse.Stages.Answer
import Gatehouse.Stages.Balance
import Gatehouse.Stages.Classify
import Gatehouse.Stages.Forward
import Gatehouse.Stages.Reshape
import Gatehouse.Stages.Sign
import Gatehouse.Stages.Target
import Gatehouse.Stages.Throttle

/-!
# The gateway

A gateway is the state that its stages share and the line-up of the stages. Everything that can
happen to it is an action, and `step` says what comes of it; the life of a gateway is a fold of
`step` over its actions. Requests are actions too: `handle` gives the response as well.
-/

namespace Gatehouse.Gateway

open Chain

/-- What the built-in stages are set up with. -/
structure Setup where
  policy : Match.Fallthrough
  client : HttpClientSettings
  verifier : Stages.Sign.Verifier
  scatter : Balance.Scatter

namespace Setup

def ofSettings (s : Settings) (verifier : Stages.Sign.Verifier) : Setup :=
  ⟨s.policy, s.client, verifier, Digest.Md5.ofText⟩

/-- What a request falls under at the stage of a name. -/
def resolve (u : Setup) (s : State) (stage : String) (a : Http.Attributes) : Match.Resolution :=
  s.catalog.resolve u.policy stage a

def stages (u : Setup) : List (Stage State) :=
  [Stages.classify,
    (Stages.sign u.verifier).toStage u.resolve,
    Stages.throttle.toStage u.resolve,
    Stages.reshape.toStage u.resolve,
    (Stages.balance u.scatter).toStage u.resolve,
    Stages.target,
    Stages.forward u.client,
    Stages.answer]

end Setup

end Gateway

structure Gateway where
  settings : Settings
  lineup : Chain.Lineup Gateway.State
  state : Gateway.State

namespace Gateway

open Chain

def configure (g : Gateway) (e : Feed.Event) : Gateway :=
  let state := g.state.apply e
  { g with
    state := state
    lineup :=
      if (Feed.apply g.state.catalog e).reorders then g.lineup.reorder state.catalog.descriptors
      else g.lineup }

def report (g : Gateway) (url : String) (healthy : Bool) : Gateway :=
  { g with state := { g.state with pool := g.state.pool.report url healthy } }

def register (g : Gateway) (s : Stage State) : Gateway := { g with lineup := g.lineup.add s }

def handle (g : Gateway) (moment : Moment) (r : Http.Request) : Run State :=
  Chain.run moment g.lineup.active { g.state with line := g.state.line.renew } (.ofRequest r)

/-- What can happen to a gateway. -/
inductive Action where
  | configure (e : Feed.Event)
  | report (url : String) (healthy : Bool)
  | register (s : Stage State)
  | handle (moment : Moment) (r : Http.Request)

def step (g : Gateway) : Action → Gateway
  | .configure e => g.configure e
  | .report url healthy => g.report url healthy
  | .register s => g.register s
  | .handle moment r => { g with state := (g.handle moment r).state }

def runAll (g : Gateway) (actions : List Action) : Gateway := actions.foldl step g

end Gateway

end Gatehouse
