import Gatehouse.Json.Reader
import Gatehouse.Yaml.Cursor

/-!
# The text of YAML scalars

Plain and quoted scalars may go over several lines; a single line break in them is a space, and of
more than one the first is dropped. Block scalars keep their lines or fold them. Each reader
returns the text and the place behind it.
-/

namespace Gatehouse.Yaml

/-- Line breaks as they are folded: a single one is a space, and the first of several is dropped,
unless it is one of those that are kept. -/
def folded (first others : List Char) : List Char :=
  if first = ['\n'] then if others.isEmpty then [' '] else others else first ++ others

/-- What stands between two parts of a scalar. -/
structure Gap where
  /-- The blanks, where no line ends. -/
  blanks : List Char
  first : List Char
  others : List Char
  /-- Whether a line has ended. -/
  broken : Bool
deriving Repr, Inhabited

namespace Gap

def none : Gap := ⟨[], [], [], false⟩

def text (g : Gap) : List Char := if g.broken then folded g.first g.others else g.blanks

end Gap

/-- Read blanks and line breaks. `tabs` says whether a tab may stand in a column at the start of a
line. -/
def gap? (tabs : Nat → Bool) : (fuel : Nat) → Gap → Cursor → Option (Gap × Cursor)
  | 0, g, c => some (g, c)
  | fuel + 1, g, c =>
    match c.rest with
    | [] => some (g, c)
    | x :: _ =>
      if isBlank x then
        if g.broken && x == '\t' && !tabs c.column then Option.none
        else
          let g := if g.broken then g else { g with blanks := g.blanks ++ [x] }
          gap? tabs fuel g (c.skip 1)
      else if isBreak x then
        let g := if g.broken then { g with others := g.others ++ c.lineBreak }
          else { g with blanks := [], first := c.lineBreak, broken := true }
        gap? tabs fuel g c.skipLine
      else some (g, c)

/-! ### Quoted scalars -/

/-- The character of an escape with a letter. -/
def escaped? : Char → Option Char
  | '0' => some '\x00'
  | 'a' => some '\x07'
  | 'b' => some '\x08'
  | 't' => some '\t'
  | '\t' => some '\t'
  | 'n' => some '\n'
  | 'v' => some '\x0b'
  | 'f' => some '\x0c'
  | 'r' => some '\r'
  | 'e' => some '\x1b'
  | ' ' => some ' '
  | '"' => some '"'
  | '/' => some '/'
  | '\\' => some '\\'
  | 'N' => some '\u0085'
  | '_' => some '\u00a0'
  | 'L' => some '\u2028'
  | 'P' => some '\u2029'
  | _ => none

/-- The number of hexadecimal digits after a letter. -/
def codeLength? : Char → Option Nat
  | 'x' => some 2
  | 'u' => some 4
  | 'U' => some 8
  | _ => none

/-- The character of an escape after the backslash, and the length of the escape. -/
def escape? (s : List Char) : Option (Char × Nat) :=
  match s with
  | [] => none
  | x :: r =>
    match codeLength? x with
    | some n => do
      let ds ← (r.take n).mapM Json.hexDigit?
      let code := ds.foldl (fun acc d => acc * 16 + d) 0
      if ds.length = n && code.isValidChar then some (Char.ofNat code, n + 1) else none
    | none => (escaped? x).map fun c => (c, 1)

def quoted? (quote : Char) : (fuel : Nat) → Cursor → Option (List Char × Cursor)
  | 0, _ => none
  | fuel + 1, c =>
    if c.atMarker then none
    else
      match c.rest with
      | [] => none
      | x :: r =>
        if x = quote then
          -- between apostrophes, two of them stand for one
          if quote = '\'' && r.head? == some '\'' then
            (quoted? quote fuel (c.skip 2)).map fun (t, c) => ('\'' :: t, c)
          else some ([], c.skip 1)
        else if isBlank x || isBreak x then do
          let (g, c) ← gap? (fun _ => true) (c.rest.length + 1) .none c
          let (t, c) ← quoted? quote fuel c
          pure (g.text ++ t, c)
        else if x = '\\' && quote = '"' then
          -- an escaped break joins the lines without a blank
          if r.head?.any isBreak then do
            let (g, c) ← gap? (fun _ => true) (c.rest.length + 1)
              { Gap.none with broken := true } (c.skip 1).skipLine
            let (t, c) ← quoted? quote fuel c
            pure (g.text ++ t, c)
          else do
            let (e, n) ← escape? r
            let (t, c) ← quoted? quote fuel (c.skip (n + 1))
            pure (e :: t, c)
        else (quoted? quote fuel (c.skip 1)).map fun (t, c) => (x :: t, c)

/-! ### Plain scalars -/

/-- Whether a plain scalar ends at a place. Brackets and commas end it in a flow. -/
def endsPlain (inFlow : Bool) (c : Cursor) : Bool :=
  match c.rest with
  | [] => true
  | x :: _ =>
    isBlank x || isBreak x || (x == ':' && c.gapAfter 1) ||
      (inFlow && [',', '[', ']', '\x7b', '\x7d'].contains x)

/-- Whether a colon stands where a flow does not allow one. -/
def isStrayColon (inFlow : Bool) (c : Cursor) : Bool :=
  inFlow && match c.rest with
    | ':' :: x :: _ => [',', '?', '[', ']', '\x7b', '\x7d'].contains x
    | _ => false

/-- A part of a plain scalar without blanks. -/
def plainPart? (inFlow : Bool) : (fuel : Nat) → Cursor → Option (List Char × Cursor)
  | 0, c => some ([], c)
  | fuel + 1, c =>
    match c.rest with
    | [] => some ([], c)
    | x :: _ =>
      if isBlank x || isBreak x then some ([], c)
      else if isStrayColon inFlow c then none
      else if endsPlain inFlow c then some ([], c)
      else (plainPart? inFlow fuel (c.skip 1)).map fun (t, c) => (x :: t, c)

/-- A plain scalar from a part on, after a gap. Lines that go on with it are indented by at least
`indent`. Returns too whether the last gap holds a line break. -/
def plain? (inFlow : Bool) (indent : Int) : (fuel : Nat) → Gap → Cursor →
    Option (List Char × Bool × Cursor)
  | 0, _, _ => none
  | fuel + 1, before, c =>
    if c.atMarker || c.rest.head? == some '#' then some ([], before.broken, c)
    else
      match plainPart? inFlow (c.rest.length + 1) c with
      | none => none
      | some (part, c) =>
        -- without text the gap before goes on into the gap after
        let lead := if part.isEmpty then [] else before.text
        let open_ := if part.isEmpty then before else Gap.none
        if !(c.atBlank || c.atBreak) then some (lead ++ part, open_.broken, c)
        else
          match gap? (fun column => indent ≤ column) (c.rest.length + 1) open_ c with
          | none => none
          | some (g, c) =>
            if !inFlow && (c.column : Int) < indent then some (lead ++ part, g.broken, c)
            else
              (plain? inFlow indent fuel g c).map fun (t, broken, c) =>
                (lead ++ part ++ t, broken, c)

/-! ### Block scalars -/

/-- What is done with the line breaks at the end. -/
inductive Chomping where
  | strip
  | clip
  | keep
deriving DecidableEq, Repr

/-- The header of a block scalar: what happens at its end, and its indentation if it is given. -/
def blockHeader? (c : Cursor) : Option (Chomping × Nat × Cursor) :=
  let chomping (c : Cursor) : Option (Chomping × Cursor) :=
    match c.rest with
    | '+' :: _ => some (.keep, c.skip 1)
    | '-' :: _ => some (.strip, c.skip 1)
    | _ => none
  let digit (c : Cursor) : Option (Nat × Cursor) :=
    match c.rest with
    | x :: _ =>
      if x = '0' then none
      else if x.isDigit then some (x.toNat - 48, c.skip 1)
      else some (0, c)
    | [] => some (0, c)
  match chomping c with
  | some (how, c) => (digit c).map fun (n, c) => (how, n, c)
  | none =>
    (digit c).map fun (n, c) =>
      if n = 0 then (.clip, 0, c)
      else
        match chomping c with
        | some (how, c) => (how, n, c)
        | none => (.clip, n, c)

/-- The rest of a line that holds nothing but a comment. -/
def lineRest? (c : Cursor) : Option Cursor :=
  let c := c.skipWhile isBlank
  let c := if c.rest.head? == some '#' then c.skipWhile fun x => !isBreak x else c
  if c.atEnd || c.atBreak then some c.skipLine else none

/-- Read indentation and empty lines up to a line with text; `indent` is zero as long as it is not
known. Returns the line breaks and the largest column met. -/
def blockBreaks? (indent : Nat) : (fuel : Nat) → (widest : Nat) → Cursor →
    Option (List Char × Nat × Cursor)
  | 0, widest, c => some ([], widest, c)
  | fuel + 1, widest, c =>
    let spaces := (c.rest.takeWhile (· == ' ')).length
    let c := c.skip (if indent = 0 then spaces else min spaces (indent - c.column))
    let widest := max widest c.column
    if (indent = 0 || c.column < indent) && c.rest.head? == some '\t' then none
    else if c.atBreak then
      (blockBreaks? indent fuel widest c.skipLine).map fun (bs, widest, d) =>
        (c.lineBreak ++ bs, widest, d)
    else some ([], widest, c)

/-- The lines of a block scalar. `before` is the break after the last line, `others` those of the
empty lines since, and `wasBlank` says whether the last line started with a blank. -/
def blockLines? (literal : Bool) (how : Chomping) (indent : Nat) :
    (fuel : Nat) → (before others : List Char) → (wasBlank : Bool) → Cursor →
    Option (List Char × Cursor)
  | 0, _, _, _, _ => none
  | fuel + 1, before, others, wasBlank, c =>
    if c.column = indent && !c.atEnd then
      let blank := c.atBlank
      let joint :=
        -- a single break between two lines of text is folded into a blank
        if !literal && before = ['\n'] && !wasBlank && !blank then
          if others.isEmpty then [' '] else others
        else before ++ others
      let line := c.rest.takeWhile fun x => !isBreak x
      let c := c.skip line.length
      match blockBreaks? indent (c.rest.length + 1) 0 c.skipLine with
      | none => none
      | some (others, _, d) =>
        (blockLines? literal how indent fuel c.lineBreak others blank d).map fun (t, d) =>
          (joint ++ line ++ t, d)
    else
      match how with
      | .strip => some ([], c)
      | .clip => some (before, c)
      | .keep => some (before ++ others, c)

/-- A block scalar after its mark, in a block that is indented by `parent`. -/
def block? (literal : Bool) (parent : Int) (c : Cursor) : Option (List Char × Cursor) := do
  let (how, given, c) ← blockHeader? c
  let c ← lineRest? c
  let indent := if given = 0 then 0 else ((max parent 0) + given).toNat
  let (others, widest, c) ← blockBreaks? indent (c.rest.length + 1) 0 c
  -- where none is given, the first line with text sets the indentation
  let indent := if indent = 0 then max (max widest (parent + 1).toNat) 1 else indent
  blockLines? literal how indent (c.rest.length + 1) [] others false c

end Gatehouse.Yaml
