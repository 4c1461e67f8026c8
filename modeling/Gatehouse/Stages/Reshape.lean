import Gatehouse.Chain.Stage
import Gatehouse.Gateway.State
import Gatehouse.Regex.Reader
import Gatehouse.Regex.Template

/-!
# Reshaped paths

A rule of this stage has an expression and a template; every match of the expression in the path
is replaced. The result is kept beside the path.
-/

namespace Gatehouse.Stages

open Chain Gateway

namespace Reshape

open Json.Decoder

structure Substitution where
  expression : String
  template : String
deriving DecidableEq, Repr, Inhabited

namespace Substitution

def default : Substitution := ⟨"", ""⟩

def decode : Json.Decoder Substitution :=
  record "Substitution" <|
    Substitution.mk <$> required "regex" string [] <*> optional "replace" string "" []

def encode (s : Substitution) : Json :=
  .obj [("regex", .str s.expression), ("replace", .str s.template)]

/-- The path after the substitution. There is none without an expression. -/
def apply (s : Substitution) (path : String) : Except Fault (Option String) :=
  if s.expression.isEmpty then .ok none
  else
    match Regex.read? s.expression with
    | some (regex, names) => .ok (some (Regex.replaceAll regex names s.template path))
    | none => .error (.config ("invalid rewrite regex '" ++ s.expression ++ "'"))

end Substitution

end Reshape

/-- The stage that reshapes paths. -/
def reshape : Scoped State where
  name := "rewrite"
  order := 90
  skips _ := false
  unselected := .proceed
  unruled _ := .proceed
  matched _ s x _ rule :=
    match parseHandle Reshape.Substitution.decode .default rule.handle with
    | .error f => conclude (.fail f.toFault) s x
    | .ok substitution =>
      match substitution.apply x.context.realUrl with
      | .error f => conclude (.fail f) s x
      | .ok none => conclude .proceed s x
      | .ok (some path) =>
        conclude .proceed s (withContext x fun c => { c with reshaped := some path })

end Gatehouse.Stages
