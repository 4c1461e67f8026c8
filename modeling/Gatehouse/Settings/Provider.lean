import Gatehouse.Fault
import Gatehouse.Json.Decode
import Gatehouse.Table

/-!
# Layers of settings

Settings come from providers that each know some dotted keys. Of all providers that know a key the
last one counts, and it alone: its value is not merged with what the others say.
-/

namespace Gatehouse.Settings

/-- A source of settings. -/
structure Provider where
  name : String
  /-- What is known under a dotted key; the value may not be readable. -/
  lookup? : String → Option (Except ConfigFault Json)

namespace Provider

/-- Values that are listed under their dotted keys. -/
def ofTable (name : String) (values : Table (Except ConfigFault Json)) : Provider :=
  ⟨name, values.get?⟩

/-- The value at the end of a dotted path through nested objects. -/
def walk? (root : Json) (key : String) : Option Json :=
  Json.walk? (Text.splitString '.' key) root

def ofTree (name : String) (root : Json) : Provider :=
  ⟨name, fun key => (walk? root key).map .ok⟩

end Provider

/-- What the providers say about a key; the last one that knows it counts. -/
def find? (providers : List Provider) (key : String) : Option (Except ConfigFault Json) :=
  providers.reverse.findSome? fun p => p.lookup? key

/-- Later providers come first. -/
theorem find?_append (ps qs : List Provider) (key : String) :
    find? (ps ++ qs) key = (find? qs key).or (find? ps key) := by
  rw [find?, List.reverse_append, List.findSome?_append]
  rfl

theorem find?_eq_none_iff {ps : List Provider} {key : String} :
    find? ps key = none ↔ ∀ p ∈ ps, p.lookup? key = none := by
  rw [find?, List.findSome?_eq_none_iff]
  simp

/-- The last provider that knows a key counts. -/
theorem find?_eq_lookup? {before after : List Provider} {p : Provider} {key : String}
    (hp : (p.lookup? key).isSome) (hafter : ∀ q ∈ after, q.lookup? key = none) :
    find? (before ++ p :: after) key = p.lookup? key := by
  rw [find?_append, ← List.singleton_append, find?_append, find?_eq_none_iff.2 hafter]
  cases h : p.lookup? key with
  | none => rw [h] at hp; cases hp
  | some x => simp [find?, h]

def decodeAt (d : Json.Decoder α) (key : String) (value : Json) : Except ConfigFault α :=
  (d value).mapError fun e =>
    .unparsable ("failed to deserialize '" ++ key ++ "': " ++ e.message)

def get? (providers : List Provider) (d : Json.Decoder α) (key : String) :
    Except ConfigFault (Option α) :=
  match find? providers key with
  | none => .ok none
  | some (.error f) => .error f
  | some (.ok value) => (decodeAt d key value).map some

/-- The value of a key, or another one where no provider knows it. -/
def getD (providers : List Provider) (d : Json.Decoder α) (key : String) (default : α) :
    Except ConfigFault α :=
  (get? providers d key).map fun x => x.getD default

end Gatehouse.Settings
