import Gatehouse.Number.Rounding

/-!
# Finite binary64 numbers

A finite double is a sign, a whole significand below 2^53 and a binary exponent, so every value
here is an exact rational number and every operation rounds once, to the nearest double with ties
to even. `ofQuotient?` is that rounding; all other operations go through it. The text form is the
shortest decimal that reads back, the nearest one where several are equally short.
-/

namespace Gatehouse.Number

/-- The number `± significand * 2 ^ exponent`. The operations below keep it canonical: the
significand is below 2^53, and it is at least 2^52 unless the exponent is the least one. -/
structure Binary64 where
  negative : Bool
  significand : Nat
  exponent : Int
deriving DecidableEq, Repr, Inhabited

namespace Binary64

/-- The least exponent: subnormal numbers are multiples of `2 ^ minExponent`. -/
def minExponent : Int := -1074

/-- The exponent of the largest finite numbers. -/
def maxExponent : Int := 971

/-- The least significand of a double of full precision; all are below twice as much. -/
def leastNormal : Nat := 0x10000000000000

def zero (negative : Bool) : Binary64 := ⟨negative, 0, minExponent⟩

/-- Numerator and denominator of the magnitude. -/
def quotient (x : Binary64) : Nat × Nat :=
  if 0 ≤ x.exponent then (x.significand * Nat.pow 2 x.exponent.toNat, 1)
  else (x.significand, Nat.pow 2 (-x.exponent).toNat)

def toRat (x : Binary64) : Rat :=
  let (n, d) := x.quotient
  if x.negative then -mkRat n d else mkRat n d

/-- `n / d` in units of `2 ^ e`, rounded to a whole number. -/
def scaled (n d : Nat) (e : Int) : Nat :=
  if 0 ≤ e then roundDiv n (d * Nat.pow 2 e.toNat) else roundDiv (n * Nat.pow 2 (-e).toNat) d

/-- The exponent at which `n / d` has a significand of 53 binary digits, or the least exponent. -/
def fittingExponent (n d : Nat) : Int :=
  let guess : Int := (n.log2 : Int) - (d.log2 : Int) - 52
  -- the digit counts determine the size of the quotient up to a factor of two
  let small : Bool :=
    if 0 ≤ guess then n < d * Nat.pow 2 guess.toNat * leastNormal
    else n * Nat.pow 2 (-guess).toNat < d * leastNormal
  max minExponent (if small then guess - 1 else guess)

/-- The double nearest to `n / d` with the given sign; nothing if it is too large for one. -/
def ofQuotient? (negative : Bool) (n d : Nat) : Option Binary64 :=
  if n = 0 then some (zero negative)
  else
    let e := fittingExponent n d
    let m := scaled n d e
    -- rounding up may have reached the next power of two
    let (m, e) := if m = 2 * leastNormal then (leastNormal, e + 1) else (m, e)
    if maxExponent < e then none
    else if m = 0 then some (zero negative)
    else some ⟨negative, m, e⟩

/-- The double nearest to a whole number of at most 64 bits, all of which are in range. -/
def ofNat (n : Nat) : Binary64 := (ofQuotient? false n 1).getD (zero false)

/-- The double nearest to an integer of at most 64 bits. -/
def ofInt (i : Int) : Binary64 := { ofNat i.natAbs with negative := decide (i < 0) }

def neg (x : Binary64) : Binary64 := { x with negative := !x.negative }

/-- The rounded product, nothing on overflow. -/
def mul? (x y : Binary64) : Option Binary64 :=
  let (a, b) := x.quotient
  let (c, d) := y.quotient
  ofQuotient? (x.negative != y.negative) (a * c) (b * d)

/-- The rounded quotient, nothing on overflow or for a divisor of zero. -/
def div? (x y : Binary64) : Option Binary64 :=
  let (a, b) := x.quotient
  let (c, d) := y.quotient
  if c = 0 then none else ofQuotient? (x.negative != y.negative) (a * d) (b * c)

/-- The whole part of the magnitude. -/
def truncate (x : Binary64) : Nat :=
  let (n, d) := x.quotient
  n / d

/-- The double nearest to `± digits * 10 ^ scale`; nothing on overflow. Exponents far outside the
range are decided without computing the power. -/
def ofDecimal? (negative : Bool) (digits : Nat) (scale : Int) : Option Binary64 :=
  let size : Int := (Nat.toDigits 10 digits).length
  if digits = 0 then some (zero negative)
  else if 400 < scale + size then none
  else if scale + size < -400 then some (zero negative)
  else if 0 ≤ scale then ofQuotient? negative (digits * Nat.pow 10 scale.toNat) 1
  else ofQuotient? negative digits (Nat.pow 10 (-scale).toNat)

/-! ### Shortest decimal text -/

/-- The four-fold significands of the ends of the interval that rounds to `x`, in units of
`2 ^ (exponent - 2)`, and whether the ends belong to it. -/
def interval (x : Binary64) : Nat × Nat × Bool :=
  let m := x.significand
  -- below a power of two the doubles lie twice as close
  let below := if m = leastNormal ∧ minExponent < x.exponent then 4 * m - 1 else 4 * m - 2
  (below, 4 * m + 2, m % 2 == 0)

/-- Compare `a * 2 ^ e` with `d * 10 ^ k`: both sides multiplied out to whole numbers. -/
def crossed (a : Nat) (e : Int) (d : Nat) (k : Int) : Nat × Nat :=
  let binary := if 0 ≤ e then (Nat.pow 2 e.toNat, 1) else (1, Nat.pow 2 (-e).toNat)
  let decimal := if 0 ≤ k then (Nat.pow 10 k.toNat, 1) else (1, Nat.pow 10 (-k).toNat)
  (a * binary.1 * decimal.2, d * decimal.1 * binary.2)

/-- Whether `d * 10 ^ k` reads back as `x`. -/
def readsBack (x : Binary64) (d : Nat) (k : Int) : Bool :=
  let (low, high, closed) := x.interval
  let (l, dl) := crossed low (x.exponent - 2) d k
  let (h, dh) := crossed high (x.exponent - 2) d k
  if closed then l ≤ dl && dh ≤ h else l < dl && dh < h

/-- The point of the grid `10 ^ k` that reads back as `x`: of its two neighbours there the nearer
one that does, the even one on a tie. -/
def onGrid? (x : Binary64) (k : Int) : Option Nat :=
  let (v, unit) := crossed x.significand x.exponent 1 k
  let floor := v / unit
  let down := x.readsBack floor k
  let up := x.readsBack (floor + 1) k
  let nearest := roundDiv v unit
  match down, up with
  | true, true => some nearest
  | true, false => some floor
  | false, true => some (floor + 1)
  | false, false => none

/-- The power of ten of the leading digit of the magnitude, for a positive magnitude. -/
def decimalExponent (x : Binary64) : Int :=
  let (n, d) := x.quotient
  if d ≤ n then ((Nat.toDigits 10 (n / d)).length : Int) - 1
  else
    -- the least k with n * 10 ^ k ≥ d, found from the digit counts
    let guess := (Nat.toDigits 10 d).length - (Nat.toDigits 10 n).length
    if d ≤ n * Nat.pow 10 guess then -(guess : Int) else -(guess : Int) - 1

/-- The shortest digits that read back, and the power of ten they count; `fuel` bounds their
number. -/
def shortestFrom (x : Binary64) (top : Int) : (fuel : Nat) → (count : Nat) → Nat × Int
  | 0, _ => (0, 0)
  | fuel + 1, count =>
    let k := top - (count : Int) + 1
    match x.onGrid? k with
    | some d => (d, k)
    | none => shortestFrom x top fuel (count + 1)

/-- Seventeen digits always suffice; the search starts with one. -/
def shortest (x : Binary64) : Nat × Int := x.shortestFrom x.decimalExponent 18 1

/-- Digits without the zeros at their end, and the power of ten they then count. -/
def dropZeros (digits : List Char) (k : Int) : List Char × Int :=
  let kept := (digits.reverse.dropWhile (· == '0')).reverse
  (kept, k + ((digits.length - kept.length : Nat) : Int))

/-- The text of a number: positional while the leading digit stands between 10^-5 and 10^15, with
a point always; otherwise one digit, the others after a point, and a signed exponent. -/
def toText (x : Binary64) : String :=
  let sign := if x.negative then "-" else ""
  if x.significand = 0 then sign ++ "0.0"
  else
    let (d, k) := x.shortest
    let (digits, k) := dropZeros (Nat.toDigits 10 d) k
    let size : Int := digits.length
    let lead : Int := k + size - 1
    if -5 ≤ lead && lead ≤ 15 then
      if 0 ≤ k then
        sign ++ String.ofList (digits ++ List.replicate k.toNat '0') ++ ".0"
      else if 0 ≤ lead then
        let whole := digits.take (lead.toNat + 1)
        let part := digits.drop (lead.toNat + 1)
        sign ++ String.ofList (whole ++ '.' :: part)
      else
        sign ++ "0." ++ String.ofList (List.replicate (-lead - 1).toNat '0' ++ digits)
    else
      let mantissa := match digits with
        | [] => []
        | [c] => [c]
        | c :: r => c :: '.' :: r
      let mark := if lead < 0 then "e-" else "e+"
      sign ++ String.ofList mantissa ++ mark ++ toString lead.natAbs

end Binary64

end Gatehouse.Number
