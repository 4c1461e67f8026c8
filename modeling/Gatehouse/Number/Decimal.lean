import Gatehouse.Number.Binary64
import Gatehouse.Text.Decimal

/-!
# Decimal notation

Numbers in decimal notation: perhaps a sign, digits with perhaps a point before, among or after
them, and perhaps an exponent.
-/

namespace Gatehouse.Number

/-- The number `± digits * 10 ^ scale`. -/
structure Decimal where
  negative : Bool
  digits : Nat
  scale : Int
deriving DecidableEq, Repr, Inhabited

namespace Decimal

def cutSign : List Char → Bool × List Char
  | '-' :: r => (true, r)
  | '+' :: r => (false, r)
  | r => (false, r)

/-- The exponent that ends a number; without one it is zero. -/
def exponent? : List Char → Option Int
  | [] => some 0
  | c :: r =>
    if c = 'e' || c = 'E' then
      let (negative, digits) := cutSign r
      if digits.isEmpty || !digits.all Char.isDigit then none
      else
        let n : Int := Text.digitsValue digits
        some (if negative then -n else n)
    else none

/-- The number that a text denotes as a whole. -/
def read? (s : List Char) : Option Decimal :=
  let (negative, s) := cutSign s
  let whole := s.takeWhile Char.isDigit
  let (fraction, rest) := match s.dropWhile Char.isDigit with
    | '.' :: r => (r.takeWhile Char.isDigit, r.dropWhile Char.isDigit)
    | r => ([], r)
  if whole.isEmpty && fraction.isEmpty then none
  else
    (exponent? rest).map fun e =>
      ⟨negative, Text.digitsValue (whole ++ fraction), e - (fraction.length : Nat)⟩

/-- The double nearest to the number; nothing on overflow. -/
def toBinary64? (d : Decimal) : Option Binary64 :=
  Binary64.ofDecimal? d.negative d.digits d.scale

end Decimal

end Gatehouse.Number
