import Gatehouse.Keyed
import Gatehouse.Number.Binary64

/-!
# JSON values

A value as it is held in memory. A document may give one key of an object several times and in
any order; `canonical` is the value it stands for: keys in order, the last value of each.
-/

namespace Gatehouse

/-- A JSON value. Whole numbers and floating-point numbers are different values. -/
inductive Json where
  | null
  | bool (b : Bool)
  | int (i : Int)
  | float (x : Number.Binary64)
  | str (s : String)
  | arr (items : List Json)
  | obj (fields : List (String × Json))
deriving Inhabited, Repr

namespace Json

mutual

/-- The value a document stands for: in every object the keys are in order and the last value of
each key counts. -/
def canonical : Json → Json
  | .arr items => .arr (canonicalItems items)
  | .obj fields => .obj (Keyed.ofList (canonicalFields fields))
  | v => v

private def canonicalItems : List Json → List Json
  | [] => []
  | v :: r => canonical v :: canonicalItems r

private def canonicalFields : List (String × Json) → List (String × Json)
  | [] => []
  | (k, v) :: r => (k, canonical v) :: canonicalFields r

end

/-- An object with the given fields, in any order. -/
def ofFields (fields : List (String × Json)) : Json := .obj (Keyed.ofList fields)

/-- The value of a key; nothing for a value that is no object. -/
def get? (k : String) : Json → Option Json
  | .obj fields => fields.lookup k
  | _ => none

def asString? : Json → Option String
  | .str s => some s
  | _ => none

/-- The elements of an array, none for any other value. -/
def items : Json → List Json
  | .arr xs => xs
  | _ => []

/-- The value found by following keys through nested objects. -/
def walk? : List String → Json → Option Json
  | [], v => some v
  | k :: r, v => (v.get? k).bind (walk? r)

theorem walk?_concat (ks : List String) (k : String) (v : Json) :
    walk? (ks ++ [k]) v = (walk? ks v).bind (get? k) := by
  induction ks generalizing v with
  | nil => simp [walk?]
  | cons k' ks ih =>
    simp only [List.cons_append, walk?]
    cases v.get? k' with
    | none => rfl
    | some w => exact ih w

end Json

end Gatehouse
