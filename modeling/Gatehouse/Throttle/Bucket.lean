import Gatehouse.Number.Counting

/-!
# Token buckets

A bucket holds up to `capacity` tokens and gains `rate` of them each second; every admission takes
one. Tokens are counted in doubles, or in whatever numbers are good for counting.
-/

namespace Gatehouse.Throttle

open Number (Counting)

/-- A bucket of tokens as it was when it was last looked at. -/
structure Bucket (α : Type := Number.Binary64) where
  rate : α
  capacity : α
  tokens : α
  /-- When it was last looked at, in nanoseconds. -/
  seen : Nat
deriving DecidableEq, Repr, Inhabited

variable {α : Type} [Counting α]

def atLeastZero (x : α) : α := if 0 ≤ x then x else 0

def atMost (bound x : α) : α := if x ≤ bound then x else bound

/-- Whether two numbers have the same value. -/
def same (x y : α) : Bool := decide (x ≤ y) && decide (y ≤ x)

namespace Bucket

/-- A full bucket. Negative numbers count as zero. -/
def full (rate capacity : α) (now : Nat) : Bucket α where
  rate := atLeastZero rate
  capacity := atLeastZero capacity
  tokens := atLeastZero capacity
  seen := now

/-- The bucket with the tokens that it has gained. -/
def refill (b : Bucket α) (now : Nat) : Bucket α :=
  let gained := Counting.mul? (Counting.seconds (now - b.seen)) b.rate
  -- more than can be counted is more than there is room for
  let tokens := (gained.bind (Counting.add? b.tokens)).elim b.capacity (atMost b.capacity)
  { b with tokens := tokens, seen := now }

/-- Take a token, if there is a whole one. -/
def take (b : Bucket α) (now : Nat) : Bool × Bucket α :=
  let b := b.refill now
  if 1 ≤ b.tokens then (true, { b with tokens := Counting.pred b.tokens }) else (false, b)

def isFor (b : Bucket α) (rate capacity : α) : Bool :=
  same b.rate (atLeastZero rate) && same b.capacity (atLeastZero capacity)

def isFull (b : Bucket α) : Bool := b.capacity ≤ b.tokens

end Bucket

end Gatehouse.Throttle
