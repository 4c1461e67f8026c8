import Gatehouse.Json.Basic
import Gatehouse.Text.Basic
import Gatehouse.Text.Percent

/-!
# Query strings

Pairs `key=value` with `&` between them. In both parts a `+` is a space and the rest is
percent-encoded; a part whose bytes are no text stays as it is, spaces apart. Of several pairs
with one key the first counts, and empty pairs are passed over.
-/

namespace Gatehouse.Http.Query

def decodePart (s : List Char) : String :=
  let spaced := s.map fun c => if c = '+' then ' ' else c
  (Text.Percent.decode? spaced).getD (String.ofList spaced)

/-- The key and the value of a pair; without `=` the value is empty. -/
def decodePair (s : List Char) : String × String :=
  match Text.cut? '=' s with
  | some (k, v) => (decodePart k, decodePart v)
  | none => (decodePart s, "")

def pairs (s : String) : List (String × String) :=
  ((s.toList.splitOn '&').filter (!·.isEmpty)).map decodePair

/-- Of several pairs with one key, the first; in the order of the keys. -/
def firstOfEach (ps : List (String × String)) : List (String × String) :=
  ps.foldr (fun (k, v) acc => Keyed.put k v acc) []

/-- The parameters of a query string, in the order of their keys. -/
def parse (s : String) : List (String × String) := firstOfEach (pairs s)

end Gatehouse.Http.Query
