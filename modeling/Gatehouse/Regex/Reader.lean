import Gatehouse.Json.Reader
import Gatehouse.Regex.Basic

/-!
# Reading expressions

A reader for the written form of expressions: alternatives, sequences, repetitions, groups with
names and flags, bracket expressions with nested sets and set operations, and escapes. Flags hold
from where they are set to the end of the group around them. A text that is no expression has no
reading; why it has none is not told.

The reader goes from left to right with a state of the remaining text, the flags in force and the
groups opened so far. Together with an expression it returns how deeply it is nested.
-/

namespace Gatehouse.Regex.Reader

/-- The flags in force. -/
structure Flags where
  ignoreCase : Bool
  multiLine : Bool
  dotAll : Bool
  swapGreed : Bool
  unicode : Bool
  crlf : Bool
  verbose : Bool
deriving DecidableEq, Repr, Inhabited

/-- What holds until an expression says otherwise. -/
def Flags.default : Flags := ⟨false, false, false, false, true, false, false⟩

def Flags.set? (f : Flags) (letter : Char) (on : Bool) : Option Flags :=
  match letter with
  | 'i' => some { f with ignoreCase := on }
  | 'm' => some { f with multiLine := on }
  | 's' => some { f with dotAll := on }
  | 'U' => some { f with swapGreed := on }
  | 'u' => some { f with unicode := on }
  | 'R' => some { f with crlf := on }
  | 'x' => some { f with verbose := on }
  | _ => none

structure State where
  rest : List Char
  flags : Flags
  groups : Nat
  names : List (String × Nat)
deriving Inhabited

/-- A reading step: it fails, or returns a value with the state after it. -/
abbrev Read := StateT State Option

/-! ### Characters -/

/-- The text after blanks and comments, which verbose expressions may contain. -/
def dropVerbose : (inComment : Bool) → List Char → List Char
  | _, [] => []
  | true, c :: r => dropVerbose (c != '\n') r
  | false, c :: r =>
    if Text.isBlank c then dropVerbose false r
    else if c = '#' then dropVerbose true r
    else c :: r

def peek : Read (Option Char) := do return (← get).rest.head?

/-- The next character; a failure at the end. -/
def current : Read Char := do
  let some c ← peek | failure
  return c

def bump : Read Unit := modify fun s => { s with rest := s.rest.drop 1 }

/-- Pass over blanks and comments if the expression is verbose. -/
def space : Read Unit := modify fun s =>
  if s.flags.verbose then { s with rest := dropVerbose false s.rest } else s

/-- Pass over one character and what may be passed over after it. -/
def bumpSpace : Read Unit := do bump; space

def bumpIf (text : List Char) : Read Bool := do
  match Text.after? text (← get).rest with
  | some r => modify fun s => { s with rest := r }; return true
  | none => return false

/-- The character after the next one, blanks and comments apart. -/
def peekBeyond : Read (Option Char) := do
  let s ← get
  let r := s.rest.drop 1
  return (if s.flags.verbose then dropVerbose false r else r).head?

def need (b : Bool) : Read Unit := if b then pure () else failure

/-! ### Escapes -/

/-- What an escape or a plain character stands for. -/
inductive Primitive where
  /-- A character, and whether it was written as a byte in two hexadecimal digits. -/
  | literal (c : Char) (asByte : Bool)
  | set (s : CharSet)
  | place (p : Place)
  | dot

def isMeta (c : Char) : Bool :=
  ['\\', '.', '+', '*', '?', '(', ')', '|', '[', ']', '\x7b', '\x7d', '^', '$', '#', '&', '-',
    '~'].contains c

/-- Characters that may be escaped and then stand for themselves. -/
def isEscapable (c : Char) : Bool :=
  isMeta c || (c.toNat < 0x80 && !c.isAlphanum && c != '<' && c != '>')

def ofHex? (digits : List Char) : Option Char := do
  let ds ← digits.mapM Json.hexDigit?
  let n := ds.foldl (fun n d => n * 16 + d) 0
  if n < 0xD800 || (0xDFFF < n && n ≤ 0x10FFFF) then some (Char.ofNat n) else none

/-- Characters up to `last`, which is passed over; `fuel` bounds their number. -/
def readUntil (last : Char) : (fuel : Nat) → Read (List Char)
  | 0 => failure
  | fuel + 1 => do
    let c ← current
    if c = last then
      return []
    else
      bumpSpace
      return c :: (← readUntil last fuel)

/-- The digits of a hexadecimal escape of fixed length. -/
def readFixed : (count : Nat) → Read (List Char)
  | 0 => return []
  | 1 => do
    let c ← current
    bumpSpace
    return [c]
  | n + 2 => do
    let c ← current
    bumpSpace
    return c :: (← readFixed (n + 1))

/-- A hexadecimal escape: two, four or eight digits after `x`, `u` or `U`, or any number of them
in braces. -/
def readHexEscape (kind : Char) : Read Primitive := do
  bumpSpace
  if (← current) = '\x7b' then
    bumpSpace
    let digits ← readUntil '\x7d' ((← get).rest.length + 1)
    bumpSpace
    need (!digits.isEmpty)
    let some c := ofHex? digits | failure
    return .literal c false
  else
    let digits ← readFixed (if kind = 'x' then 2 else if kind = 'u' then 4 else 8)
    let some c := ofHex? digits | failure
    return .literal c (kind = 'x')

/-- The set with its characters in both cases if case is ignored. -/
def fold (s : CharSet) : Read CharSet := do
  let f := (← get).flags
  if !f.ignoreCase then return s
  else return if f.unicode then CharSet.closeCase s else CharSet.closeAsciiCase s

/-- The characters not in the set, among bytes where Unicode is off. -/
def negate (negated : Bool) (s : CharSet) : Read CharSet := do
  if negated then
    return CharSet.complement (if (← get).flags.unicode then CharSet.top else 0xFF) s
  else return s

def namedProperty? (name : List Char) : Option (CharSet × Bool) :=
  let plain := CharSet.plainName
  let valued (sep : List Char) (a b : List Char) : Option (CharSet × Bool) :=
    (CharSet.ofPropertyValue? (plain a) (plain b)).map fun s => (s, sep == ['!', '='])
  match Text.cut? '!' name with
  | some (a, '=' :: b) => valued ['!', '='] a b
  | _ =>
    match Text.cut? ':' name with
    | some (a, b) => valued [':'] a b
    | none =>
      match Text.cut? '=' name with
      | some (a, b) => valued ['='] a b
      | none => (CharSet.ofProperty? (plain name)).map fun s => (s, false)

/-- A property escape: `p` or `P` with one letter or a name in braces. -/
def readProperty (kind : Char) : Read Primitive := do
  bumpSpace
  let c ← current
  let name ←
    if c = '\x7b' then do
      bumpSpace
      let name ← readUntil '\x7d' ((← get).rest.length + 1)
      bump
      pure name
    else do
      -- a name of one letter cannot begin with an escape of its own
      need (c != '\\')
      bumpSpace
      pure [c]
  need (← get).flags.unicode
  let some (s, inverted) := namedProperty? name | failure
  return .set (← negate ((kind == 'P') != inverted) (← fold s))

/-- The class of one letter: digits, blanks or word characters, and the rest for a capital. -/
def readClassLetter (kind : Char) : Read Primitive := do
  bump
  let u := (← get).flags.unicode
  let s := match kind.toLower with
    | 'd' => if u then CharSet.digits else CharSet.asciiDigits
    | 's' => if u then CharSet.blanks else CharSet.asciiBlanks
    | _ => if u then CharSet.word else CharSet.asciiWord
  return .set (← negate kind.isUpper s)

/-- The word edges with a name in braces; no name at all may be a repetition instead. -/
def readWordEdge (ascii : Bool) : Read Place := do
  if (← peek) != some '\x7b' then
    return .wordEdge ascii
  else
    let saved ← get
    bumpSpace
    let c ← current
    -- no name starts here: the brace begins a repetition of the edge, or fails there
    if !(c.isAlpha || c == '-') then
      set saved
      return .wordEdge ascii
    else
      let name ← readUntil '\x7d' ((← get).rest.length + 1)
      bump
      match String.ofList name with
      | "start" => return .wordStart ascii
      | "end" => return .wordEnd ascii
      | "start-half" => return .wordStartHalf ascii
      | "end-half" => return .wordEndHalf ascii
      | _ => failure

/-- What follows a backslash. -/
def readEscape : Read Primitive := do
  bump
  let c ← current
  let ascii := !(← get).flags.unicode
  if c.isDigit then failure
  else if c = 'x' || c = 'u' || c = 'U' then readHexEscape c
  else if c = 'p' || c = 'P' then readProperty c
  else if ['d', 's', 'w', 'D', 'S', 'W'].contains c then readClassLetter c
  else
    bump
    if isEscapable c then return .literal c false
    else match c with
    | 'a' => return .literal '\x07' false
    | 'f' => return .literal '\x0c' false
    | 't' => return .literal '\t' false
    | 'n' => return .literal '\n' false
    | 'r' => return .literal '\r' false
    | 'v' => return .literal '\x0b' false
    | 'A' => return .place .textStart
    | 'z' => return .place .textEnd
    | 'b' => return .place (← readWordEdge ascii)
    | 'B' => return .place (.notWordEdge ascii)
    | '<' => return .place (.wordStart ascii)
    | '>' => return .place (.wordEnd ascii)
    | _ => failure

/-! ### Bracket expressions -/

def readSetPrimitive : Read Primitive := do
  let c ← current
  if c = '\\' then readEscape
  else
    bump
    return .literal c false

/-- The code point of a character inside brackets; where Unicode is off it has to be ASCII. -/
def literalPoint : Primitive → Read Nat
  | .literal c _ => do
    need ((← get).flags.unicode || c.toNat < 0x80)
    return c.toNat
  | _ => failure

def primitiveSet : Primitive → Read CharSet
  | .set s => return s
  | p => do
    let n ← literalPoint p
    return [(n, n)]

/-- A character, a range or a class inside brackets. -/
def readSetRange : Read CharSet := do
  let first ← readSetPrimitive
  space
  let c ← current
  let beyond ← peekBeyond
  -- a hyphen before the closing bracket or before a second one makes no range
  if c != '-' || beyond == some ']' || beyond == some '-' then primitiveSet first
  else
    bumpSpace
    let _ ← current
    let last ← readSetPrimitive
    let a ← literalPoint first
    let b ← literalPoint last
    need (a ≤ b)
    return [(a, b)]

/-- A class such as `[:alpha:]`, if one stands next. -/
def readAsciiClass? : Read (Option CharSet) := do
  let s ← get
  let parsed := do
    let r ← Text.after? ['[', ':'] s.rest
    let (negated, r) := match r with
      | '^' :: r => (true, r)
      | r => (false, r)
    let (name, r) ← Text.cut? ':' r
    let r ← Text.after? [']'] r
    let set ← CharSet.asciiClasses.lookup (String.ofList name)
    pure (negated, set, r)
  match parsed with
  | none => return none
  | some (negated, set, r) =>
    modify fun s => { s with rest := r }
    return some (← negate negated set)

inductive SetOp where
  | inter
  | diff
  | symmetricDiff

def SetOp.apply : SetOp → CharSet → CharSet → CharSet
  | .inter, a, b => CharSet.inter a b
  | .diff, a, b => CharSet.diff a b
  | .symmetricDiff, a, b => CharSet.symmetricDiff a b

/-- What stands to the left of the items being read, if an operation waits for them. -/
def finishSet (pending : Option (CharSet × SetOp)) (items : CharSet) : Read CharSet := do
  match pending with
  | none => return items
  | some (left, op) => return op.apply (← fold left) (← fold items)

/-- The hyphens, and else a closing bracket, with which a bracket expression may begin. -/
def readSetLead : (fuel : Nat) → (items : CharSet) → Read CharSet
  | 0, _ => failure
  | fuel + 1, items => do
    let c ← current
    if c = '-' then
      bumpSpace
      readSetLead fuel ((45, 45) :: items)
    -- as the first item a closing bracket stands for itself
    else if c = ']' && items.isEmpty then
      bumpSpace
      return [(93, 93)]
    else return items

mutual

/-- A bracket expression from its opening bracket on, with its depth. -/
def readSet : (fuel : Nat) → Read (CharSet × Nat)
  | 0 => failure
  | fuel + 1 => do
    bumpSpace
    let negated := (← current) == '^'
    if negated then bumpSpace
    let _ ← current
    let lead ← readSetLead (fuel + 1) []
    let (s, depth) ← readSetItems fuel none lead 0
    return (← negate negated (← fold (CharSet.normal s)), depth + 1)

def readSetItems :
    (fuel : Nat) → Option (CharSet × SetOp) → CharSet → (depth : Nat) → Read (CharSet × Nat)
  | 0, _, _, _ => failure
  | fuel + 1, pending, items, depth => do
    space
    let c ← current
    let second := ((← get).rest.drop 1).head?
    let operation : Option SetOp :=
      if c = '&' && second = some '&' then some .inter
      else if c = '-' && second = some '-' then some .diff
      else if c = '~' && second = some '~' then some .symmetricDiff
      else none
    match operation with
    | some op =>
      bump
      bump
      let left ← finishSet pending items
      readSetItems fuel (some (left, op)) [] (depth + 1)
    | none =>
      if c = ']' then
        bump
        return (← finishSet pending items, depth)
      else if c = '[' then
        match ← readAsciiClass? with
        | some s => readSetItems fuel pending (items ++ s) depth
        -- no class by name, so a set within the set
        | none =>
          let (s, inner) ← readSet fuel
          readSetItems fuel pending (items ++ s) (max depth (inner + 1))
      else
        let s ← readSetRange
        readSetItems fuel pending (items ++ s) depth

end

/-! ### Repetitions -/

/-- A decimal number with blanks around it; nothing if there are no digits. -/
def readDecimal : Read (Option Nat) := do
  modify fun s => { s with rest := s.rest.dropWhile Text.isBlank }
  let rec digits : (fuel : Nat) → Read (List Char)
    | 0 => return []
    | fuel + 1 => do
      match ← peek with
      | some c =>
        if c.isDigit then
          bumpSpace
          return c :: (← digits fuel)
        else return []
      | none => return []
  let ds ← digits (← get).rest.length
  modify fun s => { s with rest := s.rest.dropWhile Text.isBlank }
  if ds.isEmpty then return none
  else
    let n := ds.foldl (fun n c => n * 10 + (c.toNat - 48)) 0
    need (n ≤ 0xFFFFFFFF)
    return some n

/-- The bounds of a counted repetition from its opening brace to its closing one. -/
def readBounds : Read (Nat × Option Nat) := do
  bumpSpace
  let _ ← current
  let least? ← readDecimal
  let c ← current
  if c = ',' then
    bumpSpace
    if (← current) = '\x7d' then
      let some least := least? | failure
      return (least, none)
    else
      let some least := least? | failure
      let some most ← readDecimal | failure
      need ((← current) = '\x7d')
      need (least ≤ most)
      return (least, some most)
  else
    need (c = '\x7d')
    let some least := least? | failure
    return (least, some least)

/-- An expression with its depth; a directive sets flags and cannot be repeated. -/
structure Item where
  regex : Regex
  depth : Nat
  isDirective : Bool
deriving Inhabited

def repeatLast (least : Nat) (most : Option Nat) (items : List Item) : Read (List Item) := do
  match items with
  | [] => failure
  | item :: before =>
    need (!item.isDirective)
    let lazy := (← peek) == some '?'
    if lazy then bump
    -- the question mark and the flag both turn the preference round
    let greedy := lazy == (← get).flags.swapGreed
    return ⟨.repeated least most greedy item.regex, item.depth + 1, false⟩ :: before

/-! ### Groups -/

/-- The flags between `(?` and `:` or `)`, with the character that ends them. -/
def readFlags : (fuel : Nat) → (seen : List Char) → Flags → Read (Flags × List Char × Char)
  | 0, _, _ => failure
  | fuel + 1, seen, f => do
    let c ← current
    if c = ':' || c = ')' then
      -- a minus has to take at least one flag away
      need (seen.head? != some '-')
      bump
      return (f, seen, c)
    else
      need (!seen.contains c)
      bump
      if c = '-' then readFlags fuel ('-' :: seen) f
      else
        let some f := f.set? c (!seen.contains '-') | failure
        readFlags fuel (c :: seen) f

def isNameChar (first : Bool) (c : Char) : Bool :=
  c == '_' || Unicode.alphabeticRanges.contains c ||
    (!first && (c == '.' || c == '[' || c == ']' ||
      (Unicode.categoryRanges ["Nd", "Nl", "No"]).contains c))

/-- The name of a group up to the closing angle bracket; names are not given twice. -/
def readGroupName (index : Nat) : Read Unit := do
  let s ← get
  let some (name, r) := Text.cut? '>' s.rest | failure
  match name with
  | [] => failure
  | c :: cs =>
    need (isNameChar true c && cs.all (isNameChar false))
    let key := String.ofList name
    need (s.names.lookup key).isNone
    set { s with rest := r, names := (key, index) :: s.names }

/-- What an opening parenthesis begins. -/
inductive Opening where
  | directive (f : Flags)
  | plain (f : Flags)
  | capture (index : Nat)

def readOpening : Read Opening := do
  bump
  space
  let s ← get
  let ahead (t : List Char) : Bool := t.isPrefixOf s.rest
  -- there is no looking around
  if ahead ['?', '='] || ahead ['?', '!'] || ahead ['?', '<', '='] || ahead ['?', '<', '!'] then
    failure
  else
    let named ← (do
      if ← bumpIf ['?', 'P', '<'] then return true
      else bumpIf ['?', '<'])
    if named then
      let index := s.groups + 1
      modify fun s => { s with groups := index }
      readGroupName index
      return .capture index
    else if ← bumpIf ['?'] then
      let (f, seen, last) ← readFlags (s.rest.length + 1) [] s.flags
      -- without a colon the flags hold for the rest of the group around them
      if last = ')' then
        need (!seen.isEmpty)
        return .directive f
      else return .plain f
    else
      let index := s.groups + 1
      modify fun s => { s with groups := index }
      return .capture index

/-! ### Expressions -/

def primitiveRegex : Primitive → Read Regex
  | .literal c asByte => do
    need ((← get).flags.unicode || !asByte || c.toNat < 0x80)
    return .chars (← fold (CharSet.single c))
  | .set s => do
    need ((← get).flags.unicode || s.all fun (_, hi) => hi < 0x80)
    return .chars s
  | .place p => return .place p
  | .dot => do
    let f := (← get).flags
    need f.unicode
    let excluded := if f.dotAll then [] else if f.crlf then [(10, 10), (13, 13)] else [(10, 10)]
    return .chars (CharSet.complement CharSet.top excluded)

/-- One character that is neither an operator nor the start of a group or a set. -/
def readPrimitive : Read Primitive := do
  let c ← current
  let f := (← get).flags
  match c with
  | '\\' => readEscape
  | '.' => bump; return .dot
  | '^' =>
    bump
    return .place <|
      if !f.multiLine then .textStart else if f.crlf then .anyLineStart else .lineStart
  | '$' =>
    bump
    return .place <|
      if !f.multiLine then .textEnd else if f.crlf then .anyLineEnd else .lineEnd
  | c => bump; return .literal c false

/-- A sequence of the items, which are given last first. -/
def sequence (items : List Item) : Regex × Nat :=
  match items with
  | [] => (.empty, 0)
  | [i] => (i.regex, i.depth)
  | _ => (concat (items.reverse.map Item.regex), 1 + (items.map Item.depth).foldl max 0)

/-- The choice between alternatives, which are given last first. -/
def alternatives (branches : List (Regex × Nat)) : Regex × Nat :=
  match branches with
  | [b] => b
  | _ => (choice (branches.reverse.map Prod.fst), 1 + (branches.map Prod.snd).foldl max 0)

/-- Everything up to a closing parenthesis or the end: the items of the branch being read and the
branches before it, both last first. -/
def readBranches :
    (fuel : Nat) → List (Regex × Nat) → List Item → Read (Regex × Nat)
  | 0, _, _ => failure
  | fuel + 1, branches, items => do
    space
    match ← peek with
    | none => return alternatives (sequence items :: branches)
    | some ')' => return alternatives (sequence items :: branches)
    | some '|' =>
      bump
      readBranches fuel (sequence items :: branches) []
    | some '?' => bump; readBranches fuel branches (← repeatLast 0 (some 1) items)
    | some '*' => bump; readBranches fuel branches (← repeatLast 0 none items)
    | some '+' => bump; readBranches fuel branches (← repeatLast 1 none items)
    | some '\x7b' =>
      need (!items.isEmpty)
      let (least, most) ← readBounds
      bumpSpace
      readBranches fuel branches (← repeatLast least most items)
    | some '[' =>
      let (s, depth) ← readSet fuel
      let r ← primitiveRegex (.set s)
      readBranches fuel branches (⟨r, depth, false⟩ :: items)
    | some '(' =>
      let outer := (← get).flags
      match ← readOpening with
      | .directive f =>
        -- the flags stay in force for what follows in this group
        modify fun s => { s with flags := f }
        readBranches fuel branches (⟨.empty, 0, true⟩ :: items)
      | .plain f =>
        modify fun s => { s with flags := f }
        let (r, depth) ← readBranches fuel [] []
        need ((← peek) = some ')')
        bump
        modify fun s => { s with flags := outer }
        readBranches fuel branches (⟨r, depth + 1, false⟩ :: items)
      | .capture index =>
        let (r, depth) ← readBranches fuel [] []
        need ((← peek) = some ')')
        bump
        modify fun s => { s with flags := outer }
        readBranches fuel branches (⟨.group index r, depth + 1, false⟩ :: items)
    | some _ =>
      let r ← primitiveRegex (← readPrimitive)
      readBranches fuel branches (⟨r, 0, false⟩ :: items)

def maxDepth : Nat := 250

end Reader

/-- The expression of a text and the names of its groups; nothing if the text is no expression, is
nested too deeply or takes too much memory. -/
def read? (text : String) : Option (Regex × List (String × Nat)) := do
  let s := text.toList
  let ((r, depth), state) ←
    (Reader.readBranches (2 * s.length + 2) [] []).run ⟨s, .default, 0, []⟩
  if state.rest.isEmpty && depth ≤ Reader.maxDepth && r.weight ≤ maxWeight then
    some (r, state.names)
  else none

end Gatehouse.Regex
