import Gatehouse.Chain.Stage
import Gatehouse.Table

/-!
# The chain

Stages are registered, and descriptors may disable a stage or give it another place. The active
stages are the registered ones that are not disabled, in the order of their places and then of
their names. A run goes through the active stages until one of them does not proceed; exactly one
response comes of it.
-/

namespace Gatehouse.Chain

/-- What a descriptor says about the place of a stage. -/
structure Placement where
  sort : Int
  enabled : Bool
deriving DecidableEq, Repr, Inhabited

namespace Lineup

def place? (placements : Table Placement) (s : Stage σ) : Option Int :=
  match placements.get? s.name with
  | some p => if p.enabled then some p.sort else none
  | none => some s.order

/-- Whether a stage does not have to come after another. -/
def comesFirst (a b : Int × Stage σ) : Bool :=
  decide (a.1 < b.1) || (a.1 == b.1 && decide (a.2.name ≤ b.2.name))

/-- The stages that have a place, in order. -/
def arrange (registered : List (Stage σ)) (placements : Table Placement) : List (Stage σ) :=
  ((registered.filterMap fun s => (place? placements s).map fun n => (n, s)).mergeSort
    comesFirst).map Prod.snd

end Lineup

/-- Registered stages, the placements that count, and the stages that take part. These are arranged
anew whenever one of the others changes, so they are never behind. -/
structure Lineup (σ : Type) where
  registered : List (Stage σ)
  placements : Table Placement
  active : List (Stage σ)
  upToDate : active = Lineup.arrange registered placements

namespace Lineup

def rebuild (registered : List (Stage σ)) (placements : Table Placement) : Lineup σ :=
  ⟨registered, placements, arrange registered placements, rfl⟩

def ofStages (stages : List (Stage σ)) : Lineup σ := rebuild stages .empty

@[simp] theorem registered_ofStages (stages : List (Stage σ)) :
    (ofStages stages).registered = stages := rfl

/-- Register a stage behind the others, in place of those with its name. -/
def add (l : Lineup σ) (s : Stage σ) : Lineup σ :=
  rebuild ((l.registered.filter fun old => old.name != s.name) ++ [s]) l.placements

/-- Let the placements of some descriptors count, and no others. -/
def reorder (l : Lineup σ) (descriptors : Table Descriptor) : Lineup σ :=
  rebuild l.registered (descriptors.map fun d => ⟨d.sort, d.enabled⟩)

/-- What takes part is settled by the stages and the placements. -/
@[ext] theorem ext {l l' : Lineup σ} (hregistered : l.registered = l'.registered)
    (hplacements : l.placements = l'.placements) : l = l' := by
  obtain ⟨registered, placements, active, hactive⟩ := l
  obtain ⟨registered', placements', active', hactive'⟩ := l'
  cases hregistered
  cases hplacements
  cases hactive
  cases hactive'
  rfl

def names (l : Lineup σ) : List String := l.active.map Stage.name

end Lineup

inductive Ending where
  | completed
  | shortCircuited
  | failed
deriving DecidableEq, Repr, Inhabited

structure Run (σ : Type) where
  ending : Ending
  response : Http.Response
  /-- The names of the stages that ran, in order. -/
  executed : List String
  state : σ
  exchange : Exchange

def failedRun (stage : String) (f : Fault) (state : σ) (x : Exchange) : Run σ :=
  ⟨.failed, .ofFault f, [stage], state, x⟩

def run (moment : Moment) : List (Stage σ) → σ → Exchange → Run σ
  | [], state, x =>
    { ending := .completed
      response := x.answer.getD (.error 404 "no plugin handled the request")
      executed := []
      state := state
      exchange := x }
  | s :: rest, state, x =>
    if s.skips x then run moment rest state x
    else
      let step := s.run moment state x
      match step.verdict with
      | .proceed =>
        let after := run moment rest step.state step.exchange
        { after with executed := s.name :: after.executed }
      | .respond r => ⟨.shortCircuited, r, [s.name], step.state, step.exchange⟩
      | .fail f => failedRun s.name f step.state step.exchange
      | .collapse =>
        failedRun s.name (.stage s.name "plugin panicked") step.state step.exchange

end Gatehouse.Chain
