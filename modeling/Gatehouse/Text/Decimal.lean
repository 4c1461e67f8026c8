/-!
# Decimal numbers in texts

Whole numbers written with the ten ASCII digits.
-/

namespace Gatehouse.Text

def digitsValue (s : List Char) : Nat := s.foldl (fun n c => n * 10 + (c.toNat - 48)) 0

/-- A number in decimal digits up to a limit. -/
def decimal? (limit : Nat) (s : List Char) : Option Nat :=
  if s.isEmpty || !s.all Char.isDigit then none
  else
    let n := digitsValue s
    if n ≤ limit then some n else none

/-- A number that may have a plus sign. -/
def plusDecimal? (limit : Nat) (s : List Char) : Option Nat :=
  match s with
  | '+' :: digits => decimal? limit digits
  | digits => decimal? limit digits

end Gatehouse.Text
