import Gatehouse.Text.Basic

/-!
# Path globs

Patterns for paths. `?` stands for one byte that is no slash, `*` for any number of them, a
bracket expression for one byte of a set, and `**` between slashes for any number of whole
segments. A pattern is compared with the UTF-8 bytes of a text, so a character outside ASCII counts
as several bytes.
-/

namespace Gatehouse.Match

inductive GlobToken where
  /-- This character. -/
  | literal (c : Char)
  /-- One byte but a slash. -/
  | any
  /-- Any number of bytes but slashes. -/
  | anyRun
  /-- `**` at the start: nothing, or anything up to a slash. -/
  | leadingSegments
  /-- `**` at the end: a slash and anything. -/
  | trailingSegments
  /-- `**` in between: a slash, or anything between two slashes. -/
  | innerSegments
  /-- One byte of a set, or one that is not of it. -/
  | oneOf (negated : Bool) (ranges : List (Char × Char))
deriving DecidableEq, Repr, Inhabited

abbrev Glob := List GlobToken

namespace Glob

/-! ### Reading -/

/-- The ranges of a bracket expression up to its closing bracket. `pending` says that a hyphen
waits for the upper end of the last range; ranges are given last first. -/
def readRanges : (first pending : Bool) → List (Char × Char) → List Char →
    Option (List (Char × Char) × List Char)
  | _, _, _, [] => none
  | first, pending, ranges, c :: r =>
    -- a hyphen that still waits at the end stands for itself
    if c = ']' && !first then
      some ((if pending then ('-', '-') :: ranges else ranges).reverse, r)
    else if c = '-' && !first && !pending then readRanges false true ranges r
    else
      match pending, ranges with
      | true, (lo, _) :: before =>
        if c < lo then none else readRanges false false ((lo, c) :: before) r
      | _, _ => readRanges false false ((c, c) :: ranges) r

/-- The tokens of a pattern. `before` is the character before the remaining text; the tokens so
far are given last first; `fuel` is more than the length of the text. -/
def readTokens : (fuel : Nat) → (before : Option Char) → List GlobToken → List Char → Option Glob
  | 0, _, _, _ => none
  | _ + 1, _, out, [] => some out.reverse
  | fuel + 1, before, out, '*' :: '*' :: r =>
    let asRuns := readTokens fuel (some '*') (.anyRun :: .anyRun :: out) r
    match out with
    | [] =>
      match r with
      | [] => some [.leadingSegments]
      | '/' :: r => readTokens fuel (some '/') [.leadingSegments] r
      | _ => asRuns
    | last :: kept =>
      -- two stars that do not fill a segment are two runs
      if before != some '/' then asRuns
      else
        match r with
        | [] =>
          -- one token for whole segments takes in the next one
          some ((if last = .leadingSegments || last = .trailingSegments then last
            else .trailingSegments) :: kept).reverse
        | '/' :: r =>
          let token := if last = .leadingSegments || last = .trailingSegments then last
            else .innerSegments
          readTokens fuel (some '/') (token :: kept) r
        | _ => asRuns
  | fuel + 1, _, out, c :: r =>
    match c with
    | '?' => readTokens fuel (some c) (.any :: out) r
    | '*' => readTokens fuel (some c) (.anyRun :: out) r
    | '[' =>
      let (negated, r) := match r with
        | '!' :: r => (true, r)
        | '^' :: r => (true, r)
        | r => (false, r)
      match readRanges true false [] r with
      | some (ranges, r) => readTokens fuel (some ']') (.oneOf negated ranges :: out) r
      | none => none
    | '{' => none
    | '}' => none
    | '\\' =>
      match r with
      | [] => none
      | c :: r => readTokens fuel (some c) (.literal c :: out) r
    | c => readTokens fuel (some c) (.literal c :: out) r

/-- The glob of a pattern, if it is one. Braces are not allowed. -/
def read? (pattern : String) : Option Glob :=
  let s := pattern.toList
  readTokens (s.length + 1) none [] s

/-! ### Matching -/

def slash : UInt8 := 0x2F

/-- What is left after each slash, and the whole. -/
def afterSlashes : List UInt8 → List (List UInt8)
  | [] => []
  | b :: r => if b = slash then r :: afterSlashes r else afterSlashes r

/-- What is left after any number of bytes but slashes. -/
def afterRun : List UInt8 → List (List UInt8)
  | [] => [[]]
  | b :: r => (b :: r) :: if b = slash then [] else afterRun r

/-- What is left after any number of bytes. -/
def suffixes : List UInt8 → List (List UInt8)
  | [] => [[]]
  | b :: r => (b :: r) :: suffixes r

/-- The set of bytes of a bracket expression: of a range whose ends have several bytes each, the
bytes of both ends, the last of the lower one and the first of the upper one as ends of a range of
bytes. -/
def inRange (b : UInt8) (range : Char × Char) : Bool :=
  let lo := String.utf8EncodeChar range.1
  let hi := String.utf8EncodeChar range.2
  if range.1 = range.2 then lo.contains b
  else
    lo.dropLast.contains b || hi.tail.contains b ||
      (lo.getLastD 0 ≤ b && b ≤ hi.headD 0)

/-- Whether a text, given by its bytes, matches. -/
def accepts : Glob → List UInt8 → Bool
  | [], s => s.isEmpty
  | .literal c :: g, s =>
    match (Text.after? (String.utf8EncodeChar c) s) with
    | some r => accepts g r
    | none => false
  | .any :: g, s =>
    match s with
    | b :: r => b != slash && accepts g r
    | [] => false
  | .anyRun :: g, s => (afterRun s).any (accepts g)
  | .leadingSegments :: g, s =>
    if g.isEmpty then true
    else accepts g s || (afterSlashes s).any (accepts g)
  | .trailingSegments :: g, s =>
    match s with
    | b :: r => b == slash && (suffixes r).any (accepts g)
    | [] => false
  | .innerSegments :: g, s =>
    match s with
    | b :: r => b == slash && (accepts g r || (afterSlashes r).any (accepts g))
    | [] => false
  | .oneOf negated ranges :: g, s =>
    match s with
    | b :: r => (ranges.any (inRange b) != negated) && accepts g r
    | [] => false

def isMatch (g : Glob) (text : String) : Bool :=
  accepts g (text.toList.flatMap String.utf8EncodeChar)

end Glob

end Gatehouse.Match
