import Gatehouse.Regex.CharSet

/-!
# Regular expressions

The expressions themselves. Repetitions say whether they prefer more rounds or fewer, because
which of several matches is found depends on it.
-/

namespace Gatehouse

/-- The places that an expression can ask for without reading a character. -/
inductive Regex.Place where
  | textStart
  | textEnd
  | lineStart
  | lineEnd
  /-- Start of a line where a carriage return ends lines too. -/
  | anyLineStart
  | anyLineEnd
  | wordEdge (ascii : Bool)
  | notWordEdge (ascii : Bool)
  | wordStart (ascii : Bool)
  | wordEnd (ascii : Bool)
  /-- No word character before. -/
  | wordStartHalf (ascii : Bool)
  /-- No word character after. -/
  | wordEndHalf (ascii : Bool)
deriving DecidableEq, Repr, Inhabited

inductive Regex where
  | empty
  | chars (set : Regex.CharSet)
  | place (p : Regex.Place)
  | seq (a b : Regex)
  | alt (a b : Regex)
  | group (index : Nat) (r : Regex)
  | repeated (least : Nat) (most : Option Nat) (greedy : Bool) (r : Regex)
deriving Repr, Inhabited

namespace Regex

def concat : List Regex → Regex
  | [] => .empty
  | r :: rs => rs.foldl .seq r

/-- The first of the expressions that matches. -/
def choice : List Regex → Regex
  | [] => .empty
  | [r] => r
  | r :: rs => .alt r (choice rs)

/-- An estimate of the memory that an expression takes when its repetitions are written out:
32 bytes a step, and more for sets beyond ASCII. -/
def weight : Regex → Nat
  | .empty => 0
  | .chars set => 32 + (set.map fun (_, hi) => if hi < 0x80 then 8 else 64).sum
  | .place _ => 32
  | .seq a b => a.weight + b.weight
  | .alt a b => 32 + a.weight + b.weight
  | .group _ r => 64 + r.weight
  | .repeated least most _ r =>
    match most with
    | none => 32 + max least 1 * r.weight
    | some m => m * r.weight + (m - least) * 32

/-- The largest weight that is accepted. -/
def maxWeight : Nat := 10 * 1024 * 1024

end Regex

end Gatehouse
