import Gatehouse.Text.Basic

/-!
# Ranges of code points

Sets of characters as lists of closed ranges of code points, and their written form: ranges in
lower-case hexadecimal digits, `lo-hi` or a single number, with blanks between them.
-/

namespace Gatehouse.Unicode

/-- Closed ranges of code points. -/
abbrev Ranges := List (Nat × Nat)

namespace Ranges

def has (s : Ranges) (n : Nat) : Bool := s.any fun (lo, hi) => lo ≤ n && n ≤ hi

def contains (s : Ranges) (c : Char) : Bool := s.has c.toNat

end Ranges

def readHex (s : List Char) : Nat :=
  s.foldl (fun n c => n * 16 + (if c.isDigit then c.toNat - 48 else c.toNat - 87)) 0

def words (s : String) : List (List Char) :=
  (s.toList.splitOnP Text.isBlank).filter (!·.isEmpty)

def readRange (word : List Char) : Nat × Nat :=
  match Text.cut? '-' word with
  | some (lo, hi) => (readHex lo, readHex hi)
  | none => (readHex word, readHex word)

def readRanges (table : String) : Ranges := (words table).map readRange

end Gatehouse.Unicode
