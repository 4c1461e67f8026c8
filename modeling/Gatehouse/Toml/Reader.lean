import Gatehouse.Toml.Scalar

/-!
# TOML lines

A document is a list of lines: headers of tables, headers of rows of an array of tables, and
entries. An entry's value may hold arrays, and tables within one line.
-/

namespace Gatehouse.Toml

/-- A dotted key: its segments. It has at least one. -/
abbrev Path := List String

/-- What a line of a document says. -/
inductive Line where
  | table (path : Path)
  | row (path : Path)
  | entry (path : Path) (value : Json)
deriving Inhabited

/-! ### Keys -/

/-- The characters of keys without quotes. -/
def isBare (c : Char) : Bool := c.isAlphanum || c == '-' || c == '_'

def segment? (s : List Char) : Option (String × List Char) :=
  match s with
  | '"' :: _ => shortString? s
  | '\'' :: _ => shortString? s
  | _ =>
    let name := s.takeWhile isBare
    if name.isEmpty then none else some (String.ofList name, s.dropWhile isBare)

/-- A dotted key with the blanks around it. -/
def path? : (fuel : Nat) → List Char → Option (Path × List Char)
  | 0, _ => none
  | fuel + 1, s => do
    let (name, r) ← segment? (skipSpace s)
    match skipSpace r with
    | '.' :: r =>
      let (names, r) ← path? fuel r
      pure (name :: names, r)
    | r => pure ([name], r)

def maxPath : Nat := 79

/-! ### Values -/

/-- A comment, up to the end of its line. -/
def skipComment : List Char → Option (List Char)
  | '#' :: r =>
    let rest := r.dropWhile isPrintable
    if rest.isEmpty || (newline? rest).isSome then some rest else none
  | r => some r

def skipFiller : (fuel : Nat) → List Char → Option (List Char)
  | 0, s => some s
  | fuel + 1, s =>
    match skipSpace s with
    | '#' :: r => (skipComment ('#' :: r)).bind (skipFiller fuel)
    | r =>
      match newline? r with
      | some r => skipFiller fuel r
      | none => some r

/-- A field of a table within a line. Only tables that dotted keys have made may be extended. -/
inductive Inline where
  | value (v : Json)
  | dotted (fields : List (String × Inline))
deriving Inhabited

/-- Put a value under a dotted key. Nothing may be given twice, and only tables made by dotted keys
may be extended. -/
def Inline.put : (path : Path) → (v : Json) → List (String × Inline) →
    Option (List (String × Inline))
  | [], _, _ => none
  | [k], v, fields =>
    if (fields.lookup k).isSome then none else some (fields ++ [(k, .value v)])
  | k :: path, v, fields =>
    match fields.lookup k with
    | none => (Inline.put path v []).map fun inner => fields ++ [(k, .dotted inner)]
    | some (.dotted inner) =>
      (Inline.put path v inner).map fun inner =>
        fields.map fun (k', f) => if k' == k then (k', .dotted inner) else (k', f)
    | some (.value _) => none

mutual

def Inline.toJson : Inline → Json
  | .value v => v
  | .dotted fields => .obj (Inline.toFields fields)

def Inline.toFields : List (String × Inline) → List (String × Json)
  | [] => []
  | (k, f) :: r => (k, Inline.toJson f) :: Inline.toFields r

end

mutual

/-- A value. `depth` is the number of levels that may still be opened. -/
def value? : (fuel depth : Nat) → List Char → Option (Json × List Char)
  | 0, _, _ => none
  | fuel + 1, depth, s =>
    match s with
    | '[' :: r => if depth = 0 then none else items? fuel (depth - 1) r
    -- no line ends within such a table, so only blanks are passed over
    | '{' :: r =>
      if depth = 0 then none
      else
        match skipSpace r with
        | '}' :: r => some (.obj [], r)
        | r => fields? fuel (depth - 1) [] r
    | s => scalar? s

/-- The rest of an array from the next element or its end. A comma may stand behind the last
element. -/
def items? : (fuel depth : Nat) → List Char → Option (Json × List Char)
  | 0, _, _ => none
  | fuel + 1, depth, s =>
    match skipFiller (s.length + 1) s with
    | none => none
    | some (']' :: r) => some (.arr [], r)
    | some r =>
      match value? fuel depth r with
      | none => none
      | some (v, r) =>
        match skipFiller (r.length + 1) r with
        | some (',' :: r) =>
          (items? fuel depth r).map fun (rest, r) => (.arr (v :: rest.items), r)
        | some (']' :: r) => some (.arr [v], r)
        | _ => none

/-- The rest of a table within a line from the next entry. -/
def fields? : (fuel depth : Nat) → List (String × Inline) → List Char →
    Option (Json × List Char)
  | 0, _, _, _ => none
  | fuel + 1, depth, found, s =>
    match path? (maxPath + 1) s with
    | none => none
    | some (path, r) =>
      match r with
      | '=' :: r =>
        match value? fuel depth (skipSpace r) with
        | none => none
        | some (v, r) =>
          match Inline.put path v found with
          | none => none
          | some found =>
            match skipSpace r with
            | ',' :: r => fields? fuel depth found r
            | '}' :: r => some (.obj (Inline.toFields found), r)
            | _ => none
      | _ => none

end

def maxDepth : Nat := 79

/-! ### Lines -/

/-- The end of a line: perhaps a comment, and a line break unless the document ends. -/
def lineEnd? (s : List Char) : Option (List Char) :=
  (skipComment (skipSpace s)).bind fun r => if r.isEmpty then some [] else newline? r

/-- A header after its opening brackets, up to the closing ones. -/
def header? (close s : List Char) : Option (Path × List Char) := do
  let (path, r) ← path? (maxPath + 1) s
  let r ← Text.after? close r
  let r ← lineEnd? r
  pure (path, r)

def line? (s : List Char) : Option (Line × List Char) :=
  match s with
  | '[' :: '[' :: r => (header? [']', ']'] r).map fun (path, r) => (.row path, r)
  | '[' :: r => (header? [']'] r).map fun (path, r) => (.table path, r)
  | s => do
    let (path, r) ← path? (maxPath + 1) s
    let r ← Text.after? ['='] r
    let r := skipSpace r
    let (v, r) ← value? (2 * r.length + 2) maxDepth r
    let r ← lineEnd? r
    pure (.entry path v, r)

def lines? : (fuel : Nat) → List Char → Option (List Line)
  | 0, _ => none
  | fuel + 1, s =>
    match skipSpace s with
    | [] => some []
    | '#' :: r => (skipComment ('#' :: r)).bind (lines? fuel)
    | r =>
      match newline? r with
      | some r => lines? fuel r
      | none => do
        let (line, r) ← line? r
        let rest ← lines? fuel r
        pure (line :: rest)

end Gatehouse.Toml
