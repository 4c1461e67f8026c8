/-!
# Where the time goes

The time that a request takes, split into the part spent on the call to the backend and the rest.
-/

namespace Gatehouse

/-- The time of a request, in nanoseconds. -/
structure Timing where
  total : Nat
  /-- The part that the call took. -/
  call : Nat
deriving DecidableEq, Repr, Inhabited

namespace Timing

/-- The part that was spent inside the gateway; none if the call took longer than everything. -/
def internal (t : Timing) : Nat := t.total - t.call

end Timing

end Gatehouse
