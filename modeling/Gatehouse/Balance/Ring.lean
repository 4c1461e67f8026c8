import Gatehouse.Backend

/-!
# Rings of backends

Consistent hashing: every backend owns many points on a ring, and a client goes to the first point
at or after its own position. The points depend on nothing but the addresses, so a backend that
comes or goes moves only the clients between its points and the ones before. The digest that
scatters the points is an argument.
-/

namespace Gatehouse.Balance

/-- A text scattered into a few positions. -/
abbrev Scatter := String → List UInt32

/-- The points of a set of backends. Of several points in one place the later one counts. -/
structure Ring where
  /-- The addresses that the ring was built for. -/
  signature : String
  points : List (UInt32 × String)
deriving DecidableEq, Repr, Inhabited

namespace Ring

/-- How often each address is scattered. -/
def replicas : Nat := 40

/-- The addresses in order, as one text. -/
def signatureOf (backends : List Backend) : String :=
  ",".intercalate ((backends.map Backend.url).mergeSort fun a b => decide (a ≤ b))

def pointsOf (scatter : Scatter) (url : String) : List (UInt32 × String) :=
  (List.range replicas).flatMap fun i =>
    (scatter (url ++ "-" ++ toString i)).map fun position => (position, url)

def build (scatter : Scatter) (backends : List Backend) : Ring where
  signature := signatureOf backends
  points := backends.flatMap fun b => pointsOf scatter b.url

/-- The point with the lowest position, of equal ones the last. -/
def lowest? : List (UInt32 × String) → Option (UInt32 × String)
  | [] => none
  | p :: r =>
    match lowest? r with
    | none => some p
    | some q => if p.1 < q.1 then some p else some q

def position (scatter : Scatter) (client : String) : UInt32 := (scatter client).headD 0

/-- The address that is responsible for a position: the first at or after it, else the first of
all. -/
def locate (r : Ring) (here : UInt32) : Option String :=
  ((lowest? (r.points.filter fun p => here ≤ p.1)).or (lowest? r.points)).map Prod.snd

end Ring

end Gatehouse.Balance
