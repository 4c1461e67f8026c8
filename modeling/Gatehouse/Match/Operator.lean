import Gatehouse.Match.Glob
import Gatehouse.Regex.Reader
import Gatehouse.Regex.Search

/-!
# Comparison operators

What a condition compares with, ready for use. Path patterns may name segments in braces: each
name stands for one segment, and a pattern that ends in `/**` also matches the path without it.
An expression has to match the whole text. An operator that cannot be used matches nothing.
-/

namespace Gatehouse.Match

inductive OperatorFault where
  | badGlob (pattern : String)
  | badRegex (pattern : String)
  | unknown (operator : String)
deriving DecidableEq, Repr, Inhabited

def OperatorFault.message : OperatorFault → String
  | .badGlob pattern => "bad glob '" ++ pattern ++ "'"
  | .badRegex pattern => "bad regex '" ++ pattern ++ "'"
  | .unknown operator => "unknown operator '" ++ operator ++ "'"

inductive Operator where
  | equals (value : String)
  /-- A path pattern with its segments as stars, and the text before a final `/**`. -/
  | path (pattern : String) (glob : Glob) (stem : Option String)
  /-- An expression between anchors. -/
  | regex (pattern : String) (expression : Regex)
  | contains (value : String)
  | startsWith (value : String)
  | endsWith (value : String)
  | exclude (value : String)
  | invalid (fault : OperatorFault)
deriving Repr, Inhabited

namespace Operator

/-- The pattern with a star in place of each name in braces. A brace that is not closed ends the
search for names. -/
def starSegments : (fuel : Nat) → List Char → List Char
  | 0, s => s
  | _, [] => []
  | fuel + 1, '{' :: r =>
    match Text.cut? '}' r with
    | some (_, r) => '*' :: starSegments fuel r
    | none => '{' :: r
  | fuel + 1, c :: r => c :: starSegments fuel r

/-- The pattern that a path pattern with named segments stands for. -/
def pathPattern (pattern : String) : String :=
  let s := pattern.toList
  String.ofList (starSegments s.length s)

/-- The text before a final `/**`. -/
def pathStem? (pattern : String) : Option String :=
  (Text.before? ['/', '*', '*'] pattern.toList).map String.ofList

/-- The expression for a whole text. -/
def anchored (expression : String) : String := "^(?:" ++ expression ++ ")$"

def compile (operator value : String) : Operator :=
  match operator with
  | "=" => equals value
  | "match" =>
    let pattern := pathPattern value
    match Glob.read? pattern with
    | some glob => path pattern glob (pathStem? pattern)
    | none => invalid (.badGlob value)
  | "regex" =>
    match Regex.read? (anchored value) with
    | some (r, _) => regex (anchored value) r
    | none => invalid (.badRegex value)
  | "contains" => contains value
  | "startsWith" => startsWith value
  | "endsWith" => endsWith value
  | "exclude" => exclude value
  | other => invalid (.unknown other)

def isMatch (op : Operator) (actual : String) : Bool :=
  match op with
  | equals value => actual == value
  | path _ glob stem => glob.isMatch actual || stem == some actual
  | regex _ r => r.isMatch actual
  | contains value => Text.occursIn value.toList actual.toList
  | startsWith value => (Text.after? value.toList actual.toList).isSome
  | endsWith value => (Text.before? value.toList actual.toList).isSome
  | exclude value => actual != value
  | invalid _ => false

end Operator

end Gatehouse.Match
