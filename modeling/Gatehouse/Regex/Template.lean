import Gatehouse.Regex.Search

/-!
# Replacing matches

A replacement may refer to what groups have read: `$1` and `$name` with the longest run of
letters, digits and `_`, or either in braces; `$$` is a dollar sign. A group that does not exist or
has read nothing stands for the empty text.
-/

namespace Gatehouse.Regex

inductive Piece where
  | text (s : List Char)
  | number (index : Nat)
  | name (s : String)
deriving DecidableEq, Repr, Inhabited

def isReferenceChar (c : Char) : Bool := c.isAlphanum || c == '_'

/-- A group's number as it is read from a reference. -/
def groupNumber? (s : List Char) : Option Nat :=
  let digits := match s with
    | '+' :: r => r
    | r => r
  if digits.isEmpty || !digits.all Char.isDigit then none
  else
    let n := digits.foldl (fun n c => n * 10 + (c.toNat - 48)) 0
    if n ≤ 0xFFFFFFFFFFFFFFFF then some n else none

def Piece.reference (s : List Char) : Piece :=
  match groupNumber? s with
  | some n => .number n
  | none => .name (String.ofList s)

/-- The parts of a replacement; `fuel` is its length. -/
def readPieces : (fuel : Nat) → List Char → List Piece
  | 0, _ => []
  | _, [] => []
  | fuel + 1, '$' :: '$' :: r => .text ['$'] :: readPieces fuel r
  | fuel + 1, '$' :: '{' :: r =>
    match Text.cut? '}' r with
    | some (name, r) => Piece.reference name :: readPieces fuel r
    | none => .text ['$'] :: readPieces fuel ('{' :: r)
  | fuel + 1, '$' :: r =>
    let name := r.takeWhile isReferenceChar
    if name.isEmpty then .text ['$'] :: readPieces fuel r
    else Piece.reference name :: readPieces fuel (r.dropWhile isReferenceChar)
  | fuel + 1, c :: r => .text [c] :: readPieces fuel r

def pieces (template : String) : List Piece :=
  let s := template.toList
  readPieces s.length s

/-- The text of a part for a match. Group 0 is the whole match. -/
def Piece.expand (names : List (String × Nat)) (whole : List Char)
    (groups : List (Nat × List Char)) : Piece → List Char
  | .text s => s
  | .number 0 => whole
  | .number n => (groups.lookup n).getD []
  | .name s => ((names.lookup s).bind fun n => groups.lookup n).getD []

/-- The text from `copied` on with every match from `spot` on replaced. An empty match right after
the match before it does not count. -/
def replaceFrom (r : Regex) (put : List Char → List (Nat × List Char) → List Char) :
    (fuel : Nat) → (last : Option Nat) → (copied spot : Spot) → List Char
  | 0, _, copied, _ => copied.after
  | fuel + 1, last, copied, spot =>
    match findFrom? r spot with
    | none => copied.after
    | some (s, w) =>
      if s.left = w.left ∧ last = some w.left then
        match spot.next? with
        | none => copied.after
        | some spot => replaceFrom r put fuel none copied spot
      else
        copied.after.take (copied.left - s.left) ++ put (s.after.take (s.left - w.left)) w.groups ++
          replaceFrom r put fuel (some w.left) w.spot w.spot

def replaceAll (r : Regex) (names : List (String × Nat)) (template text : String) : String :=
  let parts := pieces template
  let s := text.toList
  String.ofList (replaceFrom r
    (fun whole groups => parts.flatMap (Piece.expand names whole groups))
    (2 * s.length + 2) none (.start s) (.start s))

end Gatehouse.Regex
