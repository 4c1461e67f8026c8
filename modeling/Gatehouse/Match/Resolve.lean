import Gatehouse.Item.Basic

/-!
# Resolving selectors and rules

Which selector and which rule of a stage a request falls under, given the selectors of the stage
and the rules of each selector in order. By default the first selector that accepts the request
decides. Under the continued policy a selector that is flagged so, and none of whose rules accepts
the request, gives way to the next one.
-/

namespace Gatehouse.Match

/-- Whether selectors without a matching rule may give way. -/
inductive Fallthrough where
  | firstMatch
  | continued
deriving DecidableEq, Repr, Inhabited

namespace Fallthrough

def label : Fallthrough → String
  | firstMatch => "first_match"
  | continued => "continued"

def decode : Json.Decoder Fallthrough :=
  .variant ([firstMatch, continued].map fun p => (p.label, p))

end Fallthrough

/-- What a request falls under. -/
inductive Resolution where
  | noSelector
  | noRule (s : Selector)
  | matched (s : Selector) (r : Rule)
deriving DecidableEq, Repr, Inhabited

def firstSelector? (selectors : List Selector) (a : Http.Attributes) : Option Selector :=
  selectors.find? (·.accepts a)

def firstRule? (rules : List Rule) (a : Http.Attributes) : Option Rule :=
  rules.find? (·.accepts a)

/-- Go through the accepting selectors. `missed` is the first one that had no rule. -/
def resolveAmong (policy : Fallthrough) (rulesOf : Selector → List Rule) (a : Http.Attributes) :
    (missed : Option Selector) → List Selector → Resolution
  | none, [] => .noSelector
  | some s, [] => .noRule s
  | missed, s :: rest =>
    match firstRule? (rulesOf s) a with
    | some r => .matched s r
    | none =>
      let missed := missed.getD s
      if policy = .firstMatch ∨ !s.continued then .noRule missed
      else resolveAmong policy rulesOf a (some missed) rest

def resolve (policy : Fallthrough) (selectors : List Selector) (rulesOf : Selector → List Rule)
    (a : Http.Attributes) : Resolution :=
  resolveAmong policy rulesOf a none (selectors.filter (·.accepts a))

end Gatehouse.Match
