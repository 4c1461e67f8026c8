import Gatehouse.Toml.Reader

/-!
# TOML documents

The lines of a document, put together. Every entry belongs to the table of the last header before
it. A table may be given only once; tables that came about on the way to others may still get a
header of their own, unless dotted keys have made them.
-/

namespace Gatehouse.Toml

/-- How a table came about. -/
inductive Origin where
  /-- By a header of its own. -/
  | header
  /-- On the way to the table of a header. -/
  | implied
  /-- By a dotted key. -/
  | dotted
deriving DecidableEq, Repr, Inhabited

inductive Node where
  | value (v : Json)
  | table (origin : Origin) (fields : List (String × Node))
  /-- The tables of an array of tables, the last one first. -/
  | rows (tables : List (List (String × Node)))
deriving Inhabited

abbrev Fields := List (String × Node)

namespace Fields

def set (fields : Fields) (k : String) (n : Node) : Fields :=
  if (fields.lookup k).isSome then fields.map fun (k', n') => if k' == k then (k', n) else (k', n')
  else fields ++ [(k, n)]

/-- Change the table at the end of a path, going through the last tables of arrays. Tables that
are missing come about as `fresh` says; where `dotted` holds, a table with a header may not be
entered. `f` is told how the table came about. -/
def within (fresh : Origin) (dotted : Bool) (f : Origin → Fields → Option Fields) :
    Path → Origin → Fields → Option Fields
  | [], origin, fields => f origin fields
  | k :: path, _, fields =>
    match fields.lookup k with
    | none =>
      (within fresh dotted f path fresh []).map fun inner => fields.set k (.table fresh inner)
    | some (.value _) => none
    | some (.table origin inner) =>
      -- dotted keys add nothing to a table that has a header of its own
      if dotted && origin = .header then none
      else
        (within fresh dotted f path origin inner).map fun inner =>
          fields.set k (.table origin inner)
    | some (.rows []) => none
    | some (.rows (last :: others)) =>
      (within fresh dotted f path .header last).map fun inner =>
        fields.set k (.rows (inner :: others))

/-- Enter the table of a header. -/
def openTable (path : Path) (fields : Fields) : Option Fields :=
  match path.getLast? with
  | none => none
  | some k =>
    within .implied false (fun _ fields =>
      match fields.lookup k with
      | none => some (fields.set k (.table .header []))
      -- a table that was only on the way gets its header now
      | some (.table .implied inner) => some (fields.set k (.table .header inner))
      | _ => none) path.dropLast .header fields

/-- Start the next table of an array. -/
def openRow (path : Path) (fields : Fields) : Option Fields :=
  match path.getLast? with
  | none => none
  | some k =>
    within .implied false (fun _ fields =>
      match fields.lookup k with
      | none => some (fields.set k (.rows [[]]))
      | some (.rows tables) => some (fields.set k (.rows ([] :: tables)))
      | _ => none) path.dropLast .header fields

/-- Put a value under a dotted key of a table. -/
def putEntry (path : Path) (v : Json) (fields : Fields) : Option Fields :=
  match path.getLast? with
  | none => none
  | some k =>
    let lead := path.dropLast
    within .dotted true (fun origin fields =>
      -- a dotted key goes on only in tables that dotted keys have made
      if !lead.isEmpty && origin ≠ .dotted then none
      else if (fields.lookup k).isSome then none
      else some (fields.set k (.value v))) lead .header fields

end Fields

mutual

def Node.toJson : Node → Json
  | .value v => v
  | .table _ fields => .obj (fieldsJson fields)
  | .rows tables => .arr (rowsJson tables).reverse

def fieldsJson : List (String × Node) → List (String × Json)
  | [] => []
  | (k, n) :: r => (k, Node.toJson n) :: fieldsJson r

def rowsJson : List (List (String × Node)) → List Json
  | [] => []
  | fields :: r => .obj (fieldsJson fields) :: rowsJson r

end

/-- Let a line have its effect. The state is the whole document with the path of the table that
entries belong to. -/
def absorb (state : Fields × Path) (line : Line) : Option (Fields × Path) :=
  let (root, current) := state
  match line with
  | .table path => (root.openTable path).map fun root => (root, path)
  | .row path => (root.openRow path).map fun root => (root, path)
  | .entry path v =>
    (Fields.within .implied false (fun _ fields => Fields.putEntry path v fields) current .header
      root).map fun root => (root, current)

def parse? (text : String) : Option Json := do
  let s := match text.toList with
    | '\uFEFF' :: r => r
    | s => s
  let lines ← lines? (s.length + 1) s
  let (root, _) ← lines.foldlM absorb ([], [])
  pure (Json.canonical (.obj (fieldsJson root)))

end Gatehouse.Toml
