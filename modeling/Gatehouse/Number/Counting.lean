import Gatehouse.Number.Binary64

/-!
# Numbers to count with

What is counted and gained over time is computed in doubles, where every operation rounds. The same
computation can be carried out in exact fractions, where none does. It is written once, for any
numbers that have these operations.
-/

namespace Gatehouse.Number

namespace Binary64

instance : Zero Binary64 := ⟨.zero false⟩

instance : One Binary64 := ⟨.ofNat 1⟩

/-- Doubles are compared by their values, so both zeros are equal. -/
instance : LE Binary64 := ⟨fun x y => x.toRat ≤ y.toRat⟩

instance : DecidableLE Binary64 := fun x y => inferInstanceAs (Decidable (x.toRat ≤ y.toRat))

/-- The rounded sum, nothing on overflow. -/
def add? (x y : Binary64) : Option Binary64 :=
  let (a, b) := x.quotient
  let (c, d) := y.quotient
  let signed (negative : Bool) (n : Nat) : Int := if negative then -n else n
  let sum := signed x.negative (a * d) + signed y.negative (c * b)
  -- a sum of zero has the sign that both have, or else none
  let negative := if sum = 0 then x.negative && y.negative else decide (sum < 0)
  ofQuotient? negative sum.natAbs (b * d)

end Binary64

def nanosPerSecond : Nat := 1000000000

/-- Numbers that are good for counting. Sums and products may exceed the greatest of them. -/
class Counting (α : Type) extends Zero α, One α, LE α where
  decidableLE : DecidableLE α
  ofBinary64 : Binary64 → α
  /-- The seconds in some nanoseconds. -/
  seconds : Nat → α
  pred : α → α
  add? : α → α → Option α
  mul? : α → α → Option α

instance Counting.instDecidableLE [Counting α] : DecidableLE α := Counting.decidableLE

/-- Whole seconds and the fraction of one are rounded before they are added. -/
instance : Counting Binary64 where
  decidableLE := inferInstance
  ofBinary64 x := x
  seconds n :=
    let whole := Binary64.ofNat (n / nanosPerSecond)
    let part := (Binary64.ofNat (n % nanosPerSecond)).div? (.ofNat nanosPerSecond)
    (part.bind whole.add?).getD whole
  pred x := (x.add? (.ofInt (-1))).getD x
  add? := Binary64.add?
  mul? := Binary64.mul?

instance : Counting Rat where
  zero := 0
  one := 1
  decidableLE := inferInstance
  ofBinary64 := Binary64.toRat
  seconds n := mkRat n nanosPerSecond
  pred x := x - 1
  add? x y := some (x + y)
  mul? x y := some (x * y)

end Gatehouse.Number
