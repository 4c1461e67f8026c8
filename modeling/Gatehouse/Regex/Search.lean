import Gatehouse.Regex.Basic

/-!
# Searching with an expression

`run` lists the ways in which an expression can match from a spot, in the order of preference and
with one way for each spot where a match can end: the first way to a spot is as good as any later
one, because what follows depends on the spot alone. The first round of a repetition without end
may read nothing, and is then the last one; every later round has to read something. A search
tries the spots from left to right and takes the first way.
-/

namespace Gatehouse.Regex

/-- A place in a text: what stands before it, nearest character first, and what stands after. -/
structure Spot where
  before : List Char
  after : List Char
deriving DecidableEq, Repr, Inhabited

namespace Spot

def start (text : List Char) : Spot := ⟨[], text⟩

def next? : Spot → Option Spot
  | ⟨_, []⟩ => none
  | ⟨b, c :: r⟩ => some ⟨c :: b, r⟩

def left (s : Spot) : Nat := s.after.length

/-- This place and all later ones. -/
def onwards : (before after : List Char) → List Spot
  | b, [] => [⟨b, []⟩]
  | b, c :: r => ⟨b, c :: r⟩ :: onwards (c :: b) r

end Spot

/-- Whether the nearest character is a word character. -/
def isWordHead (ascii : Bool) : List Char → Bool
  | [] => false
  | c :: _ => if ascii then CharSet.asciiWord.contains c else CharSet.word.contains c

def Place.holds (p : Place) (s : Spot) : Bool :=
  match p with
  | .textStart => s.before.isEmpty
  | .textEnd => s.after.isEmpty
  | .lineStart => s.before.head?.all (· == '\n')
  | .lineEnd => s.after.head?.all (· == '\n')
  | .anyLineStart =>
    s.before.head?.all fun c => c == '\n' || (c == '\r' && s.after.head? != some '\n')
  | .anyLineEnd =>
    s.after.head?.all fun c => c == '\r' || (c == '\n' && s.before.head? != some '\r')
  | .wordEdge ascii => isWordHead ascii s.before != isWordHead ascii s.after
  | .notWordEdge ascii => isWordHead ascii s.before == isWordHead ascii s.after
  | .wordStart ascii => !isWordHead ascii s.before && isWordHead ascii s.after
  | .wordEnd ascii => isWordHead ascii s.before && !isWordHead ascii s.after
  | .wordStartHalf ascii => !isWordHead ascii s.before
  | .wordEndHalf ascii => !isWordHead ascii s.after

/-- A way that a match has come: where it is, and what its groups have read. -/
structure Way where
  spot : Spot
  groups : List (Nat × List Char)
deriving DecidableEq, Repr, Inhabited

namespace Way

def left (w : Way) : Nat := w.spot.left

/-- What was read between an earlier way and this one becomes the text of a group. -/
def close (index : Nat) (opened w : Way) : Way :=
  { w with groups := (index, opened.spot.after.take (opened.left - w.left)) ::
      w.groups.filter fun (i, _) => i != index }

/-- The first way to each spot. -/
def distinct (ws : List Way) : List Way :=
  (ws.foldl (fun (seen, out) w =>
    if seen.contains w.left then (seen, out) else (w.left :: seen, w :: out))
    (([], []) : List Nat × List Way)).2.reverse

end Way

/-- The ways that go one step after the other `n` times. -/
def times (step : Way → List Way) : Nat → Way → List Way
  | 0, w => [w]
  | n + 1, w => Way.distinct ((times step n w).flatMap step)

def atMost (step : Way → List Way) (greedy : Bool) : Nat → Way → List Way
  | 0, w => [w]
  | n + 1, w =>
    let more := (step w).flatMap (atMost step greedy n)
    Way.distinct (if greedy then more ++ [w] else w :: more)

/-- All ways that go on from `w` by rounds that read something, added to those found before.
`fuel` is more than the number of characters left. -/
def rounds (step : Way → List Way) (greedy : Bool) :
    (fuel : Nat) → List Nat × List Way → Way → List Nat × List Way
  | 0, found, _ => found
  | fuel + 1, (seen, out), w =>
    if seen.contains w.left then (seen, out)
    else
      -- a round that reads nothing leads nowhere new
      let further := (step w).filter fun v => v.left < w.left
      let seen := w.left :: seen
      if greedy then
        let (seen, out) := further.foldl (rounds step greedy fuel) (seen, out)
        (seen, w :: out)
      else further.foldl (rounds step greedy fuel) (seen, w :: out)

/-- The ways of any number of rounds that read something. -/
def anyRounds (step : Way → List Way) (greedy : Bool) (w : Way) : List Way :=
  (rounds step greedy (w.left + 1) ([], []) w).2.reverse

/-- What follows the first round of a repetition without end: a round that has read nothing is the
last one. -/
def afterRound (step : Way → List Way) (greedy : Bool) (before w : Way) : List Way :=
  if w.left = before.left then [w] else anyRounds step greedy w

/-- One round and any number of further ones. -/
def someRounds (step : Way → List Way) (greedy : Bool) (w : Way) : List Way :=
  (step w).flatMap (afterRound step greedy w)

/-- The ways in which an expression matches, in the order of preference. -/
def run : Regex → Way → List Way
  | .empty, w => [w]
  | .chars set, w =>
    match w.spot with
    | ⟨b, c :: r⟩ => if set.contains c then [{ w with spot := ⟨c :: b, r⟩ }] else []
    | _ => []
  | .place p, w => if p.holds w.spot then [w] else []
  | .seq a b, w => Way.distinct ((run a w).flatMap (run b))
  | .alt a b, w => Way.distinct (run a w ++ run b w)
  | .group index r, w => (run r w).map (Way.close index w)
  | .repeated least most greedy r, w =>
    let step := run r
    match most with
    | some m => Way.distinct ((times step least w).flatMap (atMost step greedy (m - least)))
    | none =>
      -- the last round that is asked for is the first one of those without end
      if least = 0 then
        let more := someRounds step greedy w
        Way.distinct (if greedy then more ++ [w] else w :: more)
      else Way.distinct ((times step (least - 1) w).flatMap (someRounds step greedy))

/-- The first match at or after a spot: where it starts, and the way it takes. -/
def findFrom? (r : Regex) (s : Spot) : Option (Spot × Way) :=
  (Spot.onwards s.before s.after).findSome? fun s =>
    ((run r ⟨s, []⟩).head?).map fun w => (s, w)

/-- Whether the expression matches somewhere in the text. -/
def isMatch (r : Regex) (text : String) : Bool := (findFrom? r (.start text.toList)).isSome

end Gatehouse.Regex
