import Gatehouse.Yaml.Token

/-!
# YAML nodes

Tokens as a tree of nodes. Nodes may have tags, and an anchor to be referred to by. A text holds at
most one document.

Anchors are numbered: an anchor gets the number of names known before it, so a name that is used
again gets a number too. An alias stands for the last node with its number.
-/

namespace Gatehouse.Yaml

/-- What a node holds, with its tag. -/
inductive Node where
  /-- Another node, by the number of its anchor. -/
  | alias (anchor : Nat)
  | scalar (anchor : Option Nat) (tag : Option String) (isPlain : Bool) (text : String)
  | seq (anchor : Option Nat) (tag : Option String) (items : List Node)
  | map (anchor : Option Nat) (tag : Option String) (fields : List (Node × Node))
deriving Repr, Inhabited

namespace Node

/-- A node of which nothing is said. -/
def nothing : Node := .scalar none none true ""

mutual

/-- The nodes with an anchor, in the order in which they start. -/
def anchored : Node → List (Nat × Node)
  | .alias _ => []
  | .scalar a tag isPlain text => a.toList.map fun n => (n, .scalar a tag isPlain text)
  | .seq a tag items => (a.toList.map fun n => (n, .seq a tag items)) ++ anchoredItems items
  | .map a tag fields => (a.toList.map fun n => (n, .map a tag fields)) ++ anchoredFields fields

private def anchoredItems : List Node → List (Nat × Node)
  | [] => []
  | n :: r => anchored n ++ anchoredItems r

private def anchoredFields : List (Node × Node) → List (Nat × Node)
  | [] => []
  | (k, v) :: r => anchored k ++ anchored v ++ anchoredFields r

end

mutual

/-- The number of marks that a node needs: one for a scalar or an alias, two for a collection. -/
def weight : Node → Nat
  | .alias _ => 1
  | .scalar _ _ _ _ => 1
  | .seq _ _ items => 2 + weightItems items
  | .map _ _ fields => 2 + weightFields fields

private def weightItems : List Node → Nat
  | [] => 0
  | n :: r => weight n + weightItems r

private def weightFields : List (Node × Node) → Nat
  | [] => 0
  | (k, v) :: r => weight k + weight v + weightFields r

end

end Node

/-! ### Reading -/

/-- What is known while tokens are read. -/
structure Reading where
  tokens : List Token
  /-- The numbers of the names of anchors. -/
  names : List (String × Nat)
  /-- What the handles of tags stand for. -/
  handles : List (String × String)
deriving Inhabited

abbrev Reader (α : Type) := StateT Reading Option α

namespace Reader

def peek : Reader (Option Token) := do return (← get).tokens.head?

def next : Reader Unit := modify fun r => { r with tokens := r.tokens.tail }

def expect (t : Token) : Reader Unit := do
  if (← peek) == some t then next else failure

/-- Give a name its number. -/
def number (name : String) : Reader Nat := do
  let names := (← get).names
  modify fun r => { r with names := Keyed.put name names.length names }
  return names.length

def wholeTag (handle suffix : String) : Reader String := do
  if handle.isEmpty then return suffix
  else
    match (← get).handles.lookup handle with
    | some lead => return lead ++ suffix
    | none => failure

/-- The anchor and the tag of a node, in either order. -/
def properties : Reader (Option Nat × Option String) := do
  match ← peek with
  | some (.anchor name) =>
    next
    let n ← number name
    match ← peek with
    | some (.tag handle suffix) => next; return (some n, some (← wholeTag handle suffix))
    | _ => return (some n, none)
  | some (.tag handle suffix) =>
    next
    let tag ← wholeTag handle suffix
    match ← peek with
    | some (.anchor name) => next; return (some (← number name), some tag)
    | _ => return (none, some tag)
  | _ => return (none, none)

inductive Place where
  | flow
  | block
  /-- Among the keys and values of a block, whose entries need no indentation of their own. -/
  | field
deriving DecidableEq, Repr

/-- What a block scalar or a flow scalar with a tag becomes: the tag that says no more than that
there is none leaves it plain or not. -/
def scalarOf (anchor : Option Nat) (tag : Option String) (isPlain : Bool) (text : String) : Node :=
  .scalar anchor (tag.filter (· != "!")) isPlain text

mutual

def node : (fuel : Nat) → Place → Reader Node
  | 0, _ => failure
  | fuel + 1, place => do
    match ← peek with
    | some (.alias name) =>
      next
      match (← get).names.lookup name with
      | some n => return .alias n
      | none => failure
    | _ =>
      let (anchor, tag) ← properties
      match ← peek with
      | some .entry =>
        -- entries in the column of their key have opened no block
        if place = .field then return .seq anchor tag (← looseEntries fuel)
        else bare anchor tag
      | some (.scalar isPlain text) => next; return scalarOf anchor tag isPlain text
      | some .flowSeq => next; return .seq anchor tag (← flowItems fuel true)
      | some .flowMap => next; return .map anchor tag (← flowFields fuel true)
      | some .blockSeq =>
        if place = .flow then bare anchor tag
        else next; return .seq anchor tag (← entries fuel)
      | some .blockMap =>
        if place = .flow then bare anchor tag
        else next; return .map anchor tag (← fields fuel)
      | _ => bare anchor tag
where
  /-- A node of which only the properties are given. -/
  bare (anchor : Option Nat) (tag : Option String) : Reader Node :=
    if anchor.isSome || tag.isSome then return .scalar anchor tag true "" else failure

/-- A node, unless one of some tokens shows that there is none. -/
def nodeUnless : (fuel : Nat) → Place → List Token → Reader Node
  | 0, _, _ => failure
  | fuel + 1, place, stops => do
    if (← peek).any stops.contains then return .nothing else node fuel place

def entries : (fuel : Nat) → Reader (List Node)
  | 0 => failure
  | fuel + 1 => do
    match ← peek with
    | some .entry =>
      next
      let n ← nodeUnless fuel .block [.entry, .blockEnd]
      return n :: (← entries fuel)
    | some .blockEnd => next; return []
    | _ => failure

/-- Entries that stand in the column of the key they belong to. -/
def looseEntries : (fuel : Nat) → Reader (List Node)
  | 0 => failure
  | fuel + 1 => do
    if (← peek) == some .entry then
      next
      let n ← nodeUnless fuel .block [.entry, .key, .value, .blockEnd]
      return n :: (← looseEntries fuel)
    else return []

def fields : (fuel : Nat) → Reader (List (Node × Node))
  | 0 => failure
  | fuel + 1 => do
    match ← peek with
    | some .key =>
      next
      let k ← nodeUnless fuel .field [.key, .value, .blockEnd]
      let v ← fieldValue fuel
      return (k, v) :: (← fields fuel)
    | some .blockEnd => next; return []
    | _ => failure

/-- The value of a field of a block; there may be none. -/
def fieldValue : (fuel : Nat) → Reader Node
  | 0 => failure
  | fuel + 1 => do
    if (← peek) == some .value then
      next
      nodeUnless fuel .field [.key, .value, .blockEnd]
    else return .nothing

/-- The items of a flow. A field among them is a mapping by itself. -/
def flowItems : (fuel : Nat) → (first : Bool) → Reader (List Node)
  | 0, _ => failure
  | fuel + 1, first => do
    if (← peek) == some .flowSeqEnd then next; return []
    else
      if !first then expect .comma
      match ← peek with
      | some .flowSeqEnd => next; return []
      | some .key =>
        next
        let pair ← flowPair fuel
        return .map none none [pair] :: (← flowItems fuel false)
      | _ =>
        let n ← node fuel .flow
        return n :: (← flowItems fuel false)

/-- A field among the items of a flow, after its mark. A key that is left out takes the token in
its place with it. -/
def flowPair : (fuel : Nat) → Reader (Node × Node)
  | 0 => failure
  | fuel + 1 => do
    let stops : List Token := [.value, .comma, .flowSeqEnd]
    if (← peek).any stops.contains then
      next
      return (.nothing, ← flowValue fuel .flowSeqEnd)
    else
      let k ← node fuel .flow
      return (k, ← flowValue fuel .flowSeqEnd)

/-- The value of a field in a flow with the given end; there may be none. -/
def flowValue : (fuel : Nat) → (ending : Token) → Reader Node
  | 0, _ => failure
  | fuel + 1, ending => do
    if (← peek) == some .value then
      next
      nodeUnless fuel .flow [.comma, ending]
    else return .nothing

/-- The fields of a flow. A field without a mark is a key without a value. -/
def flowFields : (fuel : Nat) → (first : Bool) → Reader (List (Node × Node))
  | 0, _ => failure
  | fuel + 1, first => do
    if (← peek) == some .flowMapEnd then next; return []
    else
      if !first then expect .comma
      match ← peek with
      | some .flowMapEnd => next; return []
      | some .key =>
        next
        let k ← nodeUnless fuel .flow [.value, .comma, .flowMapEnd]
        let v ← flowValue fuel .flowMapEnd
        return (k, v) :: (← flowFields fuel false)
      | _ =>
        let k ← node fuel .flow
        return (k, .nothing) :: (← flowFields fuel false)

end

/-! ### Documents -/

/-- The directives before a document. A version may be given once, and so may each handle. -/
def directives : (fuel : Nat) → (versioned : Bool) → (own : List String) → Reader Unit
  | 0, _, _ => failure
  | fuel + 1, versioned, own => do
    match ← peek with
    | some (.version major minor) =>
      if versioned || major != 1 || (minor != 1 && minor != 2) then failure
      else
        next
        directives fuel true own
    | some (.shorthand handle lead) =>
      if own.contains handle then failure
      else
        next
        modify fun r => { r with handles := (handle, lead) :: r.handles }
        directives fuel versioned (handle :: own)
    | _ => return ()

/-- A whole text: nothing, or one document and whatever ends it. -/
def document (fuel : Nat) : Reader (Option Node) := do
  match ← peek with
  | none => return none
  | some t =>
    let n ←
      match t with
      -- directives need the mark of a start behind them
      | .version _ _ | .shorthand _ _ | .documentStart => do
        directives fuel false []
        expect .documentStart
        if (← get).tokens.isEmpty || (← peek).any isBoundary then pure Node.nothing
        else node fuel .block
      | _ => node fuel .block
    if (← get).tokens.all (· == .documentEnd) then return some n else failure
where
  /-- Whether a token can stand only outside of a document. -/
  isBoundary : Token → Bool
    | .version _ _ | .shorthand _ _ | .documentStart | .documentEnd => true
    | _ => false

end Reader

def standardHandles : List (String × String) := [("!", "!"), ("!!", "tag:yaml.org,2002:")]

/-- The node of a text, `none` within for a text that holds nothing. -/
def Node.ofTokens? (tokens : List Token) : Option (Option Node) :=
  (Reader.document (3 * tokens.length + 3)).run ⟨tokens, [], standardHandles⟩ |>.map Prod.fst

end Gatehouse.Yaml
