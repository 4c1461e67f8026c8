import Gatehouse.Json.Reader
import Gatehouse.Text.Basic
import Gatehouse.Text.Decimal
import Gatehouse.Text.Quoted

/-!
# Socket addresses

An IPv4 address in four decimal numbers, or an IPv6 address in brackets, with a number after a
colon. Written back, an IPv6 address has its longest run of zero groups left out.
-/

namespace Gatehouse.Http

/-- An address with the number after it. -/
inductive Address where
  | v4 (octets : List Nat) (number : Nat)
  | v6 (groups : List Nat) (scope number : Nat)
deriving DecidableEq, Repr, Inhabited

namespace Address

/-- One number of an IPv4 address; it has no leading zeros. -/
def octet? (s : List Char) : Option Nat :=
  match s with
  | '0' :: _ :: _ => none
  | _ => Text.decimal? 255 s

def octets? (s : List Char) : Option (List Nat) := do
  let parts := s.splitOn '.'
  if parts.length = 4 then parts.mapM octet? else none

/-- A group of one to four hexadecimal digits. -/
def group? (s : List Char) : Option Nat :=
  if s.isEmpty || 4 < s.length then none
  else (s.mapM Json.hexDigit?).map fun ds => ds.foldl (fun n d => n * 16 + d) 0

/-- The groups of a run between colons; the last part may be an IPv4 address of two groups. -/
def groups? (mayEndInOctets : Bool) : List (List Char) → Option (List Nat)
  | [] => some []
  | [part] =>
    match group? part with
    | some g => some [g]
    | none =>
      if mayEndInOctets then
        match octets? part with
        | some [a, b, c, d] => some [a * 256 + b, c * 256 + d]
        | _ => none
      else none
  | part :: rest => do
    let g ← group? part
    let gs ← groups? mayEndInOctets rest
    pure (g :: gs)

def cutDouble? : List Char → Option (List Char × List Char)
  | ':' :: ':' :: r => some ([], r)
  | c :: r => (cutDouble? r).map fun (a, b) => (c :: a, b)
  | [] => none

def sixGroups? (s : List Char) : Option (List Nat) :=
  let run (mayEnd : Bool) (t : List Char) : Option (List Nat) :=
    if t.isEmpty then some [] else groups? mayEnd (t.splitOn ':')
  match cutDouble? s with
  | none => (groups? true (s.splitOn ':')).filter fun gs => gs.length == 8
  | some (a, b) => do
    let head ← run false a
    let tail ← run true b
    -- the gap stands for at least one group
    let missing := 8 - (head.length + tail.length)
    if missing = 0 then none else some (head ++ List.replicate missing 0 ++ tail)

def parse? (text : String) : Option Address :=
  match text.toList with
  | '[' :: r => do
    let (inside, after) ← Text.cut? ']' r
    let number ← match after with
      | ':' :: digits => Text.decimal? 65535 digits
      | _ => none
    let (groups, scope) ← match Text.cut? '%' inside with
      | some (a, b) => (Text.decimal? 0xFFFFFFFF b).map fun n => (a, n)
      | none => some (inside, 0)
    let gs ← sixGroups? groups
    pure (.v6 gs scope number)
  | s => do
    let (a, digits) ← Text.cut? ':' s
    let os ← octets? a
    let number ← Text.decimal? 65535 digits
    pure (.v4 os number)

/-- The start and the length of the first longest run of zeros. -/
def longestZeros (gs : List Nat) : Nat × Nat :=
  let step := fun (state : Nat × Nat × Nat × Nat) (g : Nat) =>
    let (index, run, start, best) := state
    if g = 0 then
      let run := run + 1
      -- a later run has to be longer than the best one so far
      if best < run then (index + 1, run, index + 1 - run, run) else (index + 1, run, start, best)
    else (index + 1, 0, start, best)
  let (_, _, start, best) := gs.foldl step (0, 0, 0, 0)
  (start, best)

private def dotted (ns : List Nat) : String := ".".intercalate (ns.map toString)

private def hexed (gs : List Nat) : String := ":".intercalate (gs.map Text.hexText)

def sixText (gs : List Nat) : String :=
  match gs with
  | [0, 0, 0, 0, 0, 0xFFFF, a, b] => "::ffff:" ++ dotted [a / 256, a % 256, b / 256, b % 256]
  | _ =>
    let (start, length) := longestZeros gs
    if length ≤ 1 then hexed gs
    else hexed (gs.take start) ++ "::" ++ hexed (gs.drop (start + length))

def toText : Address → String
  | v4 octets number => dotted octets ++ ":" ++ toString number
  | v6 groups scope number =>
    let zone := if scope = 0 then "" else "%" ++ toString scope
    "[" ++ sixText groups ++ zone ++ "]:" ++ toString number

end Address

end Gatehouse.Http
