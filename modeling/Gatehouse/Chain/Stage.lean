import Gatehouse.Exchange
import Gatehouse.Match.Resolve
import Gatehouse.Moment

/-!
# Stages

A stage looks at an exchange, may change it and the state it shares with other stages, and says
how to go on. Many stages act only on requests that fall under one of their rules (`Scoped`); how
they act otherwise is theirs to say.
-/

namespace Gatehouse.Chain

/-- How to go on after a stage. -/
inductive Verdict where
  /-- With the next stage. -/
  | proceed
  /-- With this response, and no further stage. -/
  | respond (r : Http.Response)
  | fail (f : Fault)
  /-- The stage broke down. -/
  | collapse
deriving Repr, Inhabited

structure Step (σ : Type) where
  verdict : Verdict
  state : σ
  exchange : Exchange

/-- A part of the chain. -/
structure Stage (σ : Type) where
  name : String
  /-- Its place, unless its descriptor gives another. -/
  order : Int
  /-- Whether the exchange does not concern the stage. -/
  skips : Exchange → Bool
  run : Moment → σ → Exchange → Step σ

/-- A stage that acts on the requests that fall under its rules. -/
structure Scoped (σ : Type) where
  name : String
  order : Int
  skips : Exchange → Bool
  /-- No selector matches. -/
  unselected : Verdict
  /-- A selector matches but none of its rules does. -/
  unruled : Selector → Verdict
  matched : Moment → σ → Exchange → Selector → Rule → Step σ

/-- Take a verdict without changing anything. -/
def conclude (v : Verdict) (state : σ) (x : Exchange) : Step σ := ⟨v, state, x⟩

def withContext (x : Exchange) (f : Context → Context) : Exchange :=
  { x with context := f x.context }

namespace Scoped

/-- The stage that resolves selector and rule first. `resolve` says what a request falls under at
the stage of a name. -/
def toStage (s : Scoped σ) (resolve : σ → String → Http.Attributes → Match.Resolution) :
    Stage σ where
  name := s.name
  order := s.order
  skips := s.skips
  run moment state x :=
    match resolve state s.name (.ofRequest x.request) with
    | .noSelector => conclude s.unselected state x
    | .noRule selector =>
      conclude (s.unruled selector) state
        (withContext x fun c => { c with selectorId := some selector.id })
    | .matched selector rule =>
      s.matched moment state
        (withContext x fun c =>
          { c with selectorId := some selector.id, ruleId := some rule.id }) selector rule

end Scoped

end Gatehouse.Chain
