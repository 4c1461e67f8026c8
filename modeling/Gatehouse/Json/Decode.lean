import Gatehouse.Json.Basic
import Gatehouse.Text.Quoted

/-!
# Decoding JSON values into types

A decoder turns a value into an element of a type or says what is wrong with it. Records are
described field by field (`required`, `optional`) and combined with `<$>` and `<*>`; `record` then
decodes an object in two passes. The first walks over the object's keys in the order they are held
in, so that the first offending key is the one reported; keys of no field are passed over. The
second collects the fields in the order of their declaration and reports the first one missing.
An array is taken for a record too, its elements standing for the fields in order.
-/

namespace Gatehouse.Json

inductive DecodeError where
  | missingField (name : String)
  | duplicateField (name : String)
  | invalidType (found : Json) (expected : String)
  | invalidValue (found : Json) (expected : String)
  | unknownVariant (name : String) (expected : List String)
  | invalidLength (length : Nat) (expected : String)
deriving Inhabited

/-- The kind of a value, with its text where it has a short one. -/
def describe : Json → String
  | .null => "null"
  | .bool true => "boolean `true`"
  | .bool false => "boolean `false`"
  | .int i => "integer `" ++ toString i ++ "`"
  | .float x => "floating point `" ++ x.toText ++ "`"
  | .str s => "string " ++ Text.quoted s
  | .arr _ => "sequence"
  | .obj _ => "map"

private def ticked (s : String) : String := "`" ++ s ++ "`"

/-- The names a variant may have, as a phrase. -/
def expectedOneOf : List String → String
  | [] => "there are no variants"
  | [a] => "expected " ++ ticked a
  | [a, b] => "expected " ++ ticked a ++ " or " ++ ticked b
  | names => "expected one of " ++ ", ".intercalate (names.map ticked)

def DecodeError.message : DecodeError → String
  | .missingField name => "missing field " ++ ticked name
  | .duplicateField name => "duplicate field " ++ ticked name
  | .invalidType found expected => "invalid type: " ++ describe found ++ ", expected " ++ expected
  | .invalidValue found expected => "invalid value: " ++ describe found ++ ", expected " ++ expected
  | .unknownVariant name expected =>
    "unknown variant " ++ ticked name ++ ", " ++ expectedOneOf expected
  | .invalidLength n expected => "invalid length " ++ toString n ++ ", expected " ++ expected

/-- Turns a value into an element of a type, or says why it cannot. -/
abbrev Decoder (α : Type) := Json → Except DecodeError α

namespace Decoder

/-! ### Plain values -/

/-- Any value as it is. -/
def any : Decoder Json := .ok

def string : Decoder String
  | .str s => .ok s
  | v => .error (.invalidType v "a string")

def bool : Decoder Bool
  | .bool b => .ok b
  | v => .error (.invalidType v "a boolean")

/-- A whole number between two bounds. -/
def whole (low high : Int) (expected : String) : Decoder Int
  | .int i => if low ≤ i ∧ i ≤ high then .ok i else .error (.invalidValue (.int i) expected)
  | v => .error (.invalidType v expected)

/-- A whole number of the given number of bits, with a sign. -/
def signed (bits : Nat) : Decoder Int :=
  let bound : Int := Nat.pow 2 (bits - 1)
  whole (-bound) (bound - 1) ("i" ++ toString bits)

/-- A whole number of the given number of bits, without a sign, under the given name. -/
def unsignedNamed (bits : Nat) (expected : String) : Decoder Nat := fun v =>
  (whole 0 (Nat.pow 2 bits - 1 : Nat) expected v).map Int.toNat

def unsigned (bits : Nat) : Decoder Nat := unsignedNamed bits ("u" ++ toString bits)

def size : Decoder Nat := unsignedNamed 64 "usize"

/-- A floating-point number; a whole one is rounded. -/
def float : Decoder Number.Binary64
  | .int i => .ok (Number.Binary64.ofInt i)
  | .float x => .ok x
  | v => .error (.invalidType v "f64")

def nullable (d : Decoder α) : Decoder (Option α)
  | .null => .ok none
  | v => (d v).map some

def each (d : Decoder α) : List Json → Except DecodeError (List α)
  | [] => .ok []
  | v :: r => do
    let x ← d v
    let xs ← each d r
    pure (x :: xs)

def list (d : Decoder α) : Decoder (List α)
  | .arr items => each d items
  | v => .error (.invalidType v "a sequence")

def eachField (d : Decoder α) : List (String × Json) → Except DecodeError (List (String × α))
  | [] => .ok []
  | (k, v) :: r => do
    let x ← d v
    let xs ← eachField d r
    pure ((k, x) :: xs)

/-- An object with arbitrary keys. -/
def dictionary (d : Decoder α) : Decoder (List (String × α))
  | .obj fields => eachField d fields
  | v => .error (.invalidType v "a map")

/-- One of several names: as a string, or as the only key of an object whose value is null. -/
def variant (variants : List (String × α)) : Decoder α :=
  let find (name : String) : Except DecodeError α :=
    match variants.lookup name with
    | some x => .ok x
    | none => .error (.unknownVariant name (variants.map Prod.fst))
  fun
  | .str s => find s
  | .obj [(k, v)] => do
    let x ← find k
    match v with
    | .null => pure x
    | v => .error (.invalidType v "unit")
  | .obj fields => .error (.invalidValue (.obj fields) "map with a single key")
  | v => .error (.invalidType v "string or map")

/-! ### Records -/

/-- What the first pass over an object knows of a field. -/
structure Field where
  name : String
  aliases : List String
  isRequired : Bool
  check : Json → Except DecodeError Unit

def Field.accepts (f : Field) (key : String) : Bool := f.name == key || f.aliases.contains key

/-- A record under construction: the fields read so far, and how to build the result from the
values that the first pass found for them. -/
structure Record (α : Type) where
  fields : List Field
  build : List (String × Json) → Except DecodeError α

instance : Functor Record where
  map f r := ⟨r.fields, fun found => (r.build found).map f⟩

instance : Pure Record where
  pure x := ⟨[], fun _ => .ok x⟩

instance : Seq Record where
  seq f x := ⟨f.fields ++ (x ()).fields, fun found => do
    let g ← f.build found
    let y ← (x ()).build found
    pure (g y)⟩

def required (name : String) (d : Decoder α) (aliases : List String) : Record α where
  fields := [⟨name, aliases, true, fun v => (d v).map fun _ => ()⟩]
  build found := match found.lookup name with
    | some v => d v
    | none => .error (.missingField name)

/-- A field with a value to take when it is absent. -/
def optional (name : String) (d : Decoder α) (default : α) (aliases : List String) : Record α where
  fields := [⟨name, aliases, false, fun v => (d v).map fun _ => ()⟩]
  build found := match found.lookup name with
    | some v => d v
    | none => .ok default

/-- The first pass over an object: each known field at most once, each with a good value. -/
def scan (fields : List Field) :
    (found entries : List (String × Json)) → Except DecodeError (List (String × Json))
  | found, [] => .ok found
  | found, (k, v) :: r =>
    match fields.find? (·.accepts k) with
    | none => scan fields found r
    | some f =>
      if (found.lookup f.name).isSome then .error (.duplicateField f.name)
      else do
        f.check v
        scan fields ((f.name, v) :: found) r

private def elements (n : Nat) : String := if n = 1 then "1 element" else toString n ++ " elements"

/-- The first pass over an array: its elements stand for the fields in order. -/
def align (typeName : String) (fields : List Field) (items : List Json) :
    Except DecodeError (List (String × Json)) :=
  let rec go : (index : Nat) → List Field → List Json → Except DecodeError (List (String × Json))
    | _, [], [] => .ok []
    | _, [], _ :: _ => .error (.invalidLength items.length "fewer elements in array")
    | i, f :: fs, [] =>
      if f.isRequired then
        .error (.invalidLength i ("struct " ++ typeName ++ " with " ++ elements fields.length))
      else go (i + 1) fs []
    | i, f :: fs, v :: r => do
      f.check v
      let rest ← go (i + 1) fs r
      pure ((f.name, v) :: rest)
  go 0 fields items

def record (typeName : String) (r : Record α) : Decoder α
  | .obj entries => scan r.fields [] entries >>= r.build
  | .arr items => align typeName r.fields items >>= r.build
  | v => .error (.invalidType v ("struct " ++ typeName))

end Decoder

end Gatehouse.Json
