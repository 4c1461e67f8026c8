import Gatehouse.Balance.Ring
import Gatehouse.Moment
import Gatehouse.Table

/-!
# Strategies

The ways of picking one of several healthy backends: by turns, by chance, by chance in proportion
to the weights, and by the place of the client on a ring. Two of them remember something for each
selector: whose turn it is, and the ring that was built last.
-/

namespace Gatehouse.Balance

inductive Strategy where
  | hash
  | random
  | roundRobin
  | weightedRandom
deriving DecidableEq, Repr, Inhabited

namespace Strategy

def label : Strategy → String
  | hash => "hash"
  | random => "random"
  | roundRobin => "roundRobin"
  | weightedRandom => "weightedRandom"

/-- All strategies in the order of their names. -/
def all : List Strategy := [hash, random, roundRobin, weightedRandom]

/-- The strategy for names that are not available. -/
def fallback : Strategy := weightedRandom

/-- The strategy that a name stands for, given the available ones. -/
def find? (available : List Strategy) (name : String) : Option Strategy :=
  (available.find? fun s => s.label == name).or (available.find? fun s => s == fallback)

end Strategy

/-- For whom a backend is picked. -/
structure Key where
  client : String
  selector : String
  strategy : String
deriving DecidableEq, Repr, Inhabited

/-- What strategies remember, by selector. -/
structure Memory where
  /-- Whose turn it is; the counter starts anew after 2^64 turns. -/
  turns : Table UInt64
  rings : Table Ring
deriving Inhabited

namespace Memory

def empty : Memory := ⟨.empty, .empty⟩

def forget (m : Memory) (selector : String) : Memory :=
  ⟨m.turns.erase selector, m.rings.erase selector⟩

end Memory

/-- The entry at a point, where each entry covers as many points as its weight. -/
def atPoint : List (α × Nat) → Nat → Option α
  | [], _ => none
  | (x, w) :: r, point => if point < w then some x else atPoint r (point - w)

def totalWeight : List (α × Nat) → Nat
  | [] => 0
  | (_, w) :: r => w + totalWeight r

/-- By chance, each as likely as any other. -/
def pickUniform (roll : Nat) (candidates : List α) : Option α :=
  candidates[roll % candidates.length]?

/-- By chance in proportion to the weights; without any weight, each as likely as any other. -/
def pickWeighted (now roll : Nat) (candidates : List Backend) : Option Backend :=
  let weighted := candidates.map fun b => (b, b.effectiveWeight now)
  let total := totalWeight weighted
  if total = 0 then pickUniform roll candidates
  -- the point lies below the total, so it falls on a candidate
  else (atPoint weighted (roll % total)).or candidates.getLast?

def pickTurn (m : Memory) (selector : String) (candidates : List α) : Option α × Memory :=
  let turn := (m.turns.get? selector).getD 0
  (candidates[turn.toNat % candidates.length]?,
    { m with turns := m.turns.insert selector (turn + 1) })

/-- The ring for the candidates: the one that is remembered if it was built for the same
addresses. -/
def ringFor (scatter : Scatter) (m : Memory) (selector : String) (candidates : List Backend) :
    Ring :=
  match m.rings.get? selector with
  | some ring =>
    if ring.signature = Ring.signatureOf candidates then ring else Ring.build scatter candidates
  | none => Ring.build scatter candidates

def pickOnRing (scatter : Scatter) (m : Memory) (key : Key) (candidates : List Backend) :
    Option Backend × Memory :=
  let ring := ringFor scatter m key.selector candidates
  let chosen := (ring.locate (Ring.position scatter key.client)).bind fun url =>
    candidates.find? fun b => b.url == url
  (chosen, { m with rings := m.rings.insert key.selector ring })

def pick (scatter : Scatter) (s : Strategy) (moment : Moment) (m : Memory) (key : Key)
    (candidates : List Backend) : Option Backend × Memory :=
  if candidates.isEmpty then (none, m)
  else
    match s with
    | .random => (pickUniform moment.roll candidates, m)
    | .weightedRandom => (pickWeighted moment.epochMs moment.roll candidates, m)
    | .roundRobin => pickTurn m key.selector candidates
    | .hash => pickOnRing scatter m key candidates

end Gatehouse.Balance
