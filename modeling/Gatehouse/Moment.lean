/-!
# Moments

What a decision may depend on apart from the state of the gateway: the two clocks and chance. They
are data, so every decision is a function.
-/

namespace Gatehouse

/-- The circumstances of a decision. -/
structure Moment where
  /-- The time of day, in milliseconds since 1970. -/
  epochMs : Nat
  /-- A clock that never goes back, in nanoseconds. -/
  elapsedNs : Nat
  /-- A number drawn at random. -/
  roll : Nat
deriving DecidableEq, Repr, Inhabited

end Gatehouse
