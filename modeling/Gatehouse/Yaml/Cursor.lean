/-!
# Places in a YAML text

What is left of a text, with the line and the column where it goes on. YAML has five line breaks;
most of them are read as line feeds.
-/

namespace Gatehouse.Yaml

/-- Spaces and tabs. -/
def isBlank (c : Char) : Bool := c == ' ' || c == '\t'

def isBreak (c : Char) : Bool :=
  c == '\n' || c == '\r' || c == '\u0085' || c == '\u2028' || c == '\u2029'

/-- The characters that a text may hold. -/
def isAllowed (c : Char) : Bool :=
  let n := c.toNat
  n == 0x09 || n == 0x0A || n == 0x0D || (0x20 ≤ n && n ≤ 0x7E) || n == 0x85 ||
    (0xA0 ≤ n && n ≤ 0xFFFD) || 0x10000 ≤ n

structure Cursor where
  rest : List Char
  /-- The number of characters before it. -/
  index : Nat
  line : Nat
  column : Nat
deriving Repr, Inhabited

namespace Cursor

def start (s : List Char) : Cursor := ⟨s, 0, 0, 0⟩

/-- Go over some characters of a line. -/
def skip (c : Cursor) (n : Nat) : Cursor :=
  { c with rest := c.rest.drop n, index := c.index + n, column := c.column + n }

/-- Go over a line break; a carriage return and a line feed are one. -/
def skipLine (c : Cursor) : Cursor :=
  match c.rest with
  | '\r' :: '\n' :: r => ⟨r, c.index + 2, c.line + 1, 0⟩
  | b :: r => if isBreak b then ⟨r, c.index + 1, c.line + 1, 0⟩ else c
  | [] => c

/-- The line break at the place, as it is read; nothing where there is none. -/
def lineBreak (c : Cursor) : List Char :=
  match c.rest with
  | [] => []
  | b :: _ =>
    if b = '\u2028' || b = '\u2029' then [b] else if isBreak b then ['\n'] else []

def skipWhile (c : Cursor) (p : Char → Bool) : Cursor := c.skip (c.rest.takeWhile p).length

def atEnd (c : Cursor) : Bool := c.rest.isEmpty

def atBlank (c : Cursor) : Bool := c.rest.head?.any isBlank

def atBreak (c : Cursor) : Bool := c.rest.head?.any isBreak

/-- Whether the text ends after some characters, or goes on with a blank or a line break. -/
def gapAfter (c : Cursor) (n : Nat) : Bool :=
  match (c.rest.drop n).head? with
  | none => true
  | some x => isBlank x || isBreak x

/-- Whether a line that separates documents starts here. -/
def atMarker (c : Cursor) : Bool :=
  c.column == 0 && (['-', '-', '-'].isPrefixOf c.rest || ['.', '.', '.'].isPrefixOf c.rest) &&
    c.gapAfter 3

end Cursor

end Gatehouse.Yaml
