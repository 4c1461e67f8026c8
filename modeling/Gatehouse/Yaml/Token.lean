import Gatehouse.Text.Decimal
import Gatehouse.Text.Percent
import Gatehouse.Yaml.Scalar

/-!
# YAML tokens

A text as a list of tokens. In blocks the indentation is turned into tokens that open and close a
collection. A mapping key needs no mark of its own: it is known as a key only when the colon behind
it is met. So the place before every token that may be a key is kept for as long as it can be one
(`Candidate`), and the marks are put there afterwards.
-/

namespace Gatehouse.Yaml

inductive Token where
  | documentStart
  | documentEnd
  /-- The version of the language. -/
  | version (major minor : Nat)
  /-- What a short name of tags stands for. -/
  | shorthand (handle lead : String)
  | flowSeq
  | flowSeqEnd
  | flowMap
  | flowMapEnd
  | comma
  | blockSeq
  | blockMap
  | blockEnd
  | entry
  | key
  | value
  | alias (name : String)
  | anchor (name : String)
  | tag (handle suffix : String)
  | scalar (isPlain : Bool) (text : String)
deriving DecidableEq, Repr, Inhabited

/-! ### Properties and directives -/

def isName (c : Char) : Bool := c.isAlphanum || c == '_' || c == '-'

def anchorName? (c : Cursor) : Option (String × Cursor) :=
  let name := c.rest.takeWhile isName
  let after := c.skip name.length
  let ends := after.gapAfter 0 ||
    after.rest.head?.any ['?', ':', ',', ']', '\x7d', '%', '@', '\x60'].contains
  if name.isEmpty || !ends then none else some (String.ofList name, after)

/-- The characters of tags. Commas and brackets may stand only in tags within angle brackets and in
what a shorthand stands for. -/
def isTagChar (verbatim : Bool) (c : Char) : Bool :=
  isName c ||
    [';', '/', '?', ':', '@', '&', '=', '+', '$', '.', '!', '~', '*', '\'', '(', ')',
      '%'].contains c ||
    (verbatim && [',', '[', ']'].contains c)

/-- Whether every percent sign has two hexadecimal digits behind it. -/
def escapesWell : List Char → Bool
  | [] => true
  | '%' :: a :: b :: r =>
    (Json.hexDigit? a).isSome && (Json.hexDigit? b).isSome && escapesWell r
  | c :: r => c != '%' && escapesWell r

/-- The characters of a tag, with `before` in front of them. -/
def tagText? (verbatim : Bool) (before : List Char) (c : Cursor) : Option (String × Cursor) :=
  let text := c.rest.takeWhile (isTagChar verbatim)
  if !escapesWell text then none
  else (Text.Percent.decode? (before ++ text)).map fun s => (s, c.skip text.length)

/-- A handle of tags: an exclamation mark, perhaps with a name and a second mark behind it. -/
def handle (c : Cursor) : List Char × Cursor :=
  match c.rest with
  | '!' :: r =>
    let name := r.takeWhile isName
    let after := c.skip (name.length + 1)
    -- without the second mark the name belongs to the tag and not to the handle
    if after.rest.head? == some '!' then ('!' :: name ++ ['!'], after.skip 1)
    else ('!' :: name, after)
  | _ => ([], c)

/-- A tag: its handle, which is empty for a tag that is meant as it is, and the rest. -/
def tag? (inFlow : Bool) (c : Cursor) : Option (Token × Cursor) := do
  let (token, after) ←
    match c.rest with
    | '!' :: '<' :: _ => do
      let (text, after) ← tagText? true [] (c.skip 2)
      if text.isEmpty || after.rest.head? != some '>' then none
      else pure (Token.tag "" text, after.skip 1)
    | _ => do
      let (lead, after) := handle c
      if 1 < lead.length && lead.getLast? == some '!' then do
        let (text, after) ← tagText? false [] after
        if text.isEmpty then none else pure (Token.tag (String.ofList lead) text, after)
      else do
        let (text, after) ← tagText? false (lead.drop 1) after
        -- a lone exclamation mark is a whole tag
        pure (if text.isEmpty then Token.tag "" "!" else Token.tag "!" text, after)
  if after.gapAfter 0 || (inFlow && after.rest.head? == some ',') then pure (token, after) else none

/-- One number of a version; it has at most nine digits. -/
def versionNumber? (c : Cursor) : Option (Nat × Cursor) :=
  let digits := c.rest.takeWhile Char.isDigit
  if digits.isEmpty || 9 < digits.length then none
  else some (Text.digitsValue digits, c.skip digits.length)

/-- What a directive says, after its name. -/
def directiveBody? (name : List Char) (c : Cursor) : Option (Token × Cursor) :=
  if name = ['Y', 'A', 'M', 'L'] then do
    let (major, c) ← versionNumber? (c.skipWhile isBlank)
    if c.rest.head? != some '.' then none
    else
      let (minor, c) ← versionNumber? (c.skip 1)
      pure (.version major minor, c)
  else if name = ['T', 'A', 'G'] then do
    let (lead, c) := handle (c.skipWhile isBlank)
    if lead.isEmpty || (lead != ['!'] && (lead.length = 1 || lead.getLast? != some '!')) then none
    else if !c.atBlank then none
    else
      let (text, c) ← tagText? true [] (c.skipWhile isBlank)
      if text.isEmpty || !c.gapAfter 0 then none
      else pure (.shorthand (String.ofList lead) text, c)
  else none

/-- A directive with the rest of its line. -/
def directive? (c : Cursor) : Option (Token × Cursor) := do
  let c := c.skip 1
  let name := c.rest.takeWhile isName
  let c := c.skip name.length
  if name.isEmpty || !c.gapAfter 0 then none
  else
    let (token, c) ← directiveBody? name c
    let c ← lineRest? c
    pure (token, c)

/-! ### The state between two tokens -/

/-- A token that may turn out to start a key: its number and its place. -/
structure Candidate where
  number : Nat
  /-- Whether nothing but a key can stand there. -/
  isRequired : Bool
  index : Nat
  line : Nat
  column : Nat
deriving DecidableEq, Repr, Inhabited

/-- What is known between two tokens. -/
structure Lexer where
  cursor : Cursor
  tokens : Array Token
  /-- The column of the innermost block, -1 outside of all. -/
  indent : Int
  /-- The columns of the blocks around it. -/
  outer : List Int
  /-- Whether a key may start here. -/
  keyAllowed : Bool
  candidate : Option Candidate
  /-- The candidates outside of the flow collections that are open, the nearest one first. -/
  enclosing : List (Option Candidate)
deriving Inhabited

namespace Lexer

/-- The start of a text; a mark of the byte order is passed over. -/
def start (text : List Char) : Lexer where
  cursor := if text.head? == some '\uFEFF' then (Cursor.start text).skip 1 else .start text
  tokens := #[]
  indent := -1
  outer := []
  keyAllowed := true
  candidate := none
  enclosing := []

def inFlow (l : Lexer) : Bool := !l.enclosing.isEmpty

def emit (l : Lexer) (t : Token) : Lexer := { l with tokens := l.tokens.push t }

def insertAt (l : Lexer) (number : Nat) (t : Token) : Lexer :=
  { l with tokens := l.tokens.insertIdxIfInBounds number t }

/-- Close the blocks that are indented by more than a column. -/
def closeTo (column : Int) : (indent : Int) → (outer : List Int) → Array Token →
    Int × List Int × Array Token
  | indent, [], ts => (indent, [], ts)
  | indent, around :: outer, ts =>
    if column < indent then closeTo column around outer (ts.push .blockEnd)
    else (indent, around :: outer, ts)

/-- Close the blocks that are indented by more than a column. In a flow there is no indentation. -/
def unroll (l : Lexer) (column : Int) : Lexer :=
  if l.inFlow then l
  else
    let (indent, outer, tokens) := closeTo column l.indent l.outer l.tokens
    { l with indent := indent, outer := outer, tokens := tokens }

/-- Open a block at a column that is deeper than the innermost block. The token for it goes before
the token of a number, or to the end. -/
def roll (l : Lexer) (column : Nat) (number : Option Nat) (t : Token) : Lexer :=
  if l.inFlow || (column : Int) ≤ l.indent then l
  else
    let l := { l with indent := column, outer := l.indent :: l.outer }
    match number with
    | none => l.emit t
    | some n => l.insertAt n t

/-! ### Candidates -/

/-- Give the candidate up; it must not be one that has to be a key. -/
def dropCandidate? (l : Lexer) : Option Lexer :=
  if l.candidate.any Candidate.isRequired then none else some { l with candidate := none }

/-- Make the next token a candidate, if a key may start here. -/
def noteCandidate? (l : Lexer) : Option Lexer :=
  if l.keyAllowed then do
    let l ← l.dropCandidate?
    let c := l.cursor
    let isRequired := !l.inFlow && l.indent == (c.column : Int)
    pure { l with candidate := some ⟨l.tokens.size, isRequired, c.index, c.line, c.column⟩ }
  else some l

/-- How far a key may reach. -/
def maxKeyLength : Nat := 1024

/-- A candidate as it is at a place behind it: keys end on their line. -/
def expire? (c : Cursor) : Option Candidate → Option (Option Candidate)
  | none => some none
  | some k =>
    if k.line < c.line || k.index + maxKeyLength < c.index then
      -- a place where only a key can stand must not be given up
      if k.isRequired then none else some none
    else some (some k)

/-- Give up the candidates that are too far away. -/
def expireAll? (l : Lexer) : Option Lexer := do
  let candidate ← expire? l.cursor l.candidate
  let enclosing ← l.enclosing.mapM (expire? l.cursor)
  pure { l with candidate := candidate, enclosing := enclosing }

/-! ### Tokens -/

/-- Go over what separates tokens. -/
def skipFiller : (fuel : Nat) → Lexer → Lexer
  | 0, l => l
  | fuel + 1, l =>
    -- where a key may start, a tab would be indentation
    let tabs := l.inFlow || !l.keyAllowed
    let c := l.cursor.skipWhile fun x => x == ' ' || (tabs && x == '\t')
    let c := if c.rest.head? == some '#' then c.skipWhile fun x => !isBreak x else c
    if c.atBreak then
      skipFiller fuel { l with cursor := c.skipLine, keyAllowed := l.keyAllowed || !l.inFlow }
    else { l with cursor := c }

/-- A token that ends all blocks and stands for itself. -/
def boundary? (l : Lexer) (t : Token) (c : Cursor) : Option Lexer := do
  let l ← (l.unroll (-1)).dropCandidate?
  pure ({ l with keyAllowed := false, cursor := c }.emit t)

def openFlow? (l : Lexer) (t : Token) : Option Lexer := do
  let l ← l.noteCandidate?
  pure ({ l with
    enclosing := l.candidate :: l.enclosing
    candidate := none
    keyAllowed := true
    cursor := l.cursor.skip 1 }.emit t)

def closeFlow? (l : Lexer) (t : Token) : Option Lexer := do
  let l ← l.dropCandidate?
  pure ({ l with
    candidate := l.enclosing.headD none
    enclosing := l.enclosing.tail
    keyAllowed := false
    cursor := l.cursor.skip 1 }.emit t)

/-- A mark of one character that opens a block if none is open at its column. -/
def blockMark? (l : Lexer) (block mark : Token) : Option Lexer :=
  if !l.inFlow && !l.keyAllowed then none
  else do
    let l ← (l.roll l.cursor.column none block).dropCandidate?
    pure ({ l with cursor := l.cursor.skip 1 }.emit mark)

/-- The colon of a mapping. If there is a candidate, it has been a key. -/
def value? (l : Lexer) : Option Lexer :=
  match l.candidate with
  | some k =>
    -- the mark of the mapping goes in front of the mark of its first key
    let l := (l.insertAt k.number .key).roll k.column (some k.number) .blockMap
    some ({ l with
      candidate := none, keyAllowed := false, cursor := l.cursor.skip 1 }.emit .value)
  | none =>
    if !l.inFlow && !l.keyAllowed then none
    else
      let l := l.roll l.cursor.column none .blockMap
      some ({ l with keyAllowed := !l.inFlow, cursor := l.cursor.skip 1 }.emit .value)

/-- A token that may start a key. -/
def content? (l : Lexer) (token? : Cursor → Option (Token × Cursor)) : Option Lexer := do
  let l ← l.noteCandidate?
  let (t, c) ← token? l.cursor
  pure ({ l with keyAllowed := false, cursor := c }.emit t)

def quotedToken? (quote : Char) (c : Cursor) : Option (Token × Cursor) :=
  (quoted? quote (c.rest.length + 1) (c.skip 1)).map fun (t, c) =>
    (.scalar false (String.ofList t), c)

/-- A plain scalar. Behind a line break a key may start again. -/
def plainToken? (l : Lexer) : Option Lexer := do
  let l ← l.noteCandidate?
  let (t, broken, c) ← plain? l.inFlow (l.indent + 1) (l.cursor.rest.length + 1) .none l.cursor
  pure ({ l with keyAllowed := broken, cursor := c }.emit (.scalar true (String.ofList t)))

def blockToken? (l : Lexer) (literal : Bool) : Option Lexer := do
  let l ← l.dropCandidate?
  let (t, c) ← block? literal l.indent (l.cursor.skip 1)
  pure ({ l with keyAllowed := true, cursor := c }.emit (.scalar false (String.ofList t)))

/-- The characters that have a meaning at the start of a token. -/
def isIndicator (c : Char) : Bool :=
  ['-', '?', ':', ',', '[', ']', '\x7b', '\x7d', '#', '&', '*', '!', '|', '>', '\'', '"', '%', '@',
    '\x60'].contains c

/-- Whether a plain scalar may start with a character, given what is behind it. -/
def startsPlain (inFlow : Bool) (c : Cursor) (x : Char) : Bool :=
  (!isIndicator x && !isBlank x) || (x == '-' && !(c.skip 1).atBlank) ||
    (!inFlow && (x == '?' || x == ':') && !c.gapAfter 1)

def token? (l : Lexer) (x : Char) : Option Lexer :=
  let c := l.cursor
  -- in a block these marks need a blank behind them
  let marks := l.inFlow || c.gapAfter 1
  if c.column = 0 && x = '%' then
    (directive? c).bind fun (t, c) => l.boundary? t c
  else if c.atMarker then
    l.boundary? (if x = '-' then .documentStart else .documentEnd) (c.skip 3)
  else if x = '[' then l.openFlow? .flowSeq
  else if x = '\x7b' then l.openFlow? .flowMap
  else if x = ']' then l.closeFlow? .flowSeqEnd
  else if x = '\x7d' then l.closeFlow? .flowMapEnd
  else if x = ',' then
    l.dropCandidate?.map fun l => { l with keyAllowed := true, cursor := c.skip 1 }.emit .comma
  else if x = '-' && c.gapAfter 1 then
    (l.blockMark? .blockSeq .entry).map fun l => { l with keyAllowed := true }
  else if x = '?' && marks then
    (l.blockMark? .blockMap .key).map fun l => { l with keyAllowed := !l.inFlow }
  else if x = ':' && marks then l.value?
  else if x = '*' then
    l.content? fun c => (anchorName? (c.skip 1)).map fun (n, c) => (.alias n, c)
  else if x = '&' then
    l.content? fun c => (anchorName? (c.skip 1)).map fun (n, c) => (.anchor n, c)
  else if x = '!' then l.content? (tag? l.inFlow)
  else if x = '|' && !l.inFlow then l.blockToken? true
  else if x = '>' && !l.inFlow then l.blockToken? false
  else if x = '\'' || x = '"' then l.content? (quotedToken? x)
  else if startsPlain l.inFlow c x then l.plainToken?
  else none

/-- The end of the text: all blocks end. -/
def finish? (l : Lexer) : Option (List Token) :=
  (l.unroll (-1)).dropCandidate?.map fun l => l.tokens.toList

def run? : (fuel : Nat) → Lexer → Option (List Token)
  | 0, _ => none
  | fuel + 1, l => do
    -- what lies between the tokens ends candidates first, then blocks
    let l ← (l.skipFiller (l.cursor.rest.length + 1)).expireAll?
    let l := l.unroll l.cursor.column
    match l.cursor.rest with
    | [] => l.finish?
    | x :: _ =>
      let l ← l.token? x
      run? fuel l

end Lexer

/-- The tokens of a text, if it can be cut into tokens. -/
def Token.ofText? (text : String) : Option (List Token) :=
  let s := text.toList
  if s.all isAllowed then Lexer.run? (s.length + 1) (.start s) else none

end Gatehouse.Yaml
