/-!
# Rounding quotients of natural numbers

One function, `roundDiv`: the whole number nearest to a quotient, with a tie going to the even
neighbour.
-/

namespace Gatehouse.Number

/-- The whole number nearest to `n / d`; halfway between two, the even one. -/
def roundDiv (n d : Nat) : Nat :=
  let q := n / d
  let twice := 2 * (n % d)
  if twice < d then q
  else if d < twice then q + 1
  else if q % 2 = 0 then q else q + 1

end Gatehouse.Number
