import Gatehouse.Json.Reader
import Gatehouse.Number.Decimal
import Gatehouse.Text.Basic

/-!
# TOML scalars

Strings in four notations, numbers, truth values, and dates and times. Each reader returns what it
has read with the text left over. Dates have no JSON value of their own; they become an object
with a single field that holds their text. Numbers that are not finite become null.
-/

namespace Gatehouse.Toml

def isSpace (c : Char) : Bool := c == ' ' || c == '\t'

def skipSpace (s : List Char) : List Char := s.dropWhile isSpace

/-- A line break: a line feed, which may follow a carriage return. -/
def newline? : List Char → Option (List Char)
  | '\n' :: r => some r
  | '\r' :: '\n' :: r => some r
  | _ => none

/-- What comments and strings may hold: no control characters but the tab. -/
def isPrintable (c : Char) : Bool := c == '\t' || (0x20 ≤ c.toNat && c.toNat != 0x7F)

/-! ### Strings -/

def coded? (digits : List Char) : Option Char := do
  let ds ← digits.mapM Json.hexDigit?
  let n := ds.foldl (fun n d => n * 16 + d) 0
  if n.isValidChar then some (Char.ofNat n) else none

/-- The character that an escape stands for, after the backslash. -/
def escape? : List Char → Option (Char × List Char)
  | 'b' :: r => some ('\x08', r)
  | 't' :: r => some ('\t', r)
  | 'n' :: r => some ('\n', r)
  | 'f' :: r => some ('\x0c', r)
  | 'r' :: r => some ('\r', r)
  | '"' :: r => some ('"', r)
  | '\\' :: r => some ('\\', r)
  | 'u' :: r => if r.length < 4 then none else (coded? (r.take 4)).map fun c => (c, r.drop 4)
  | 'U' :: r => if r.length < 8 then none else (coded? (r.take 8)).map fun c => (c, r.drop 8)
  | _ => none

/-- The rest of a string between quotation marks. -/
def basicChars : (fuel : Nat) → List Char → Option (List Char × List Char)
  | 0, _ => none
  | _ + 1, [] => none
  | _ + 1, '"' :: r => some ([], r)
  | fuel + 1, '\\' :: r => do
    let (c, r) ← escape? r
    let (cs, r) ← basicChars fuel r
    pure (c :: cs, r)
  | fuel + 1, c :: r =>
    if isPrintable c then (basicChars fuel r).map fun (cs, r) => (c :: cs, r) else none

def literalChars : List Char → Option (List Char × List Char)
  | [] => none
  | '\'' :: r => some ([], r)
  | c :: r => if isPrintable c then (literalChars r).map fun (cs, r) => (c :: cs, r) else none

/-- How many quotes of one kind a text starts with. -/
def quoteRun (q : Char) (s : List Char) : Nat := (s.takeWhile (· == q)).length

/-- The end of a string between three quotes each, for a run of at least three of them: up to two
of the quotes belong to the string. -/
def closing (q : Char) (s : List Char) : List Char × List Char :=
  let extra := min (quoteRun q s - 3) 2
  (List.replicate extra q, s.drop (extra + 3))

/-- The text after a backslash at the end of a line, without the blanks and breaks that follow. -/
def skipBreaks : (fuel : Nat) → List Char → List Char
  | 0, s => s
  | fuel + 1, s =>
    let s := skipSpace s
    match newline? s with
    | some r => skipBreaks fuel r
    | none => s

def longBasicChars : (fuel : Nat) → List Char → Option (List Char × List Char)
  | 0, _ => none
  | _ + 1, [] => none
  | fuel + 1, '"' :: r =>
    -- one or two quotes are part of the string
    if 3 ≤ quoteRun '"' ('"' :: r) then some (closing '"' ('"' :: r))
    else (longBasicChars fuel r).map fun (cs, r) => ('"' :: cs, r)
  | fuel + 1, '\\' :: r =>
    match newline? (skipSpace r) with
    | some r => longBasicChars fuel (skipBreaks (r.length + 1) r)
    | none => do
      let (c, r) ← escape? r
      let (cs, r) ← longBasicChars fuel r
      pure (c :: cs, r)
  | fuel + 1, c :: r =>
    match newline? (c :: r) with
    | some r => (longBasicChars fuel r).map fun (cs, r) => ('\n' :: cs, r)
    | none =>
      if isPrintable c then (longBasicChars fuel r).map fun (cs, r) => (c :: cs, r) else none

def longLiteralChars : (fuel : Nat) → List Char → Option (List Char × List Char)
  | 0, _ => none
  | _ + 1, [] => none
  | fuel + 1, '\'' :: r =>
    if 3 ≤ quoteRun '\'' ('\'' :: r) then some (closing '\'' ('\'' :: r))
    else (longLiteralChars fuel r).map fun (cs, r) => ('\'' :: cs, r)
  | fuel + 1, c :: r =>
    match newline? (c :: r) with
    | some r => (longLiteralChars fuel r).map fun (cs, r) => ('\n' :: cs, r)
    | none =>
      if isPrintable c then (longLiteralChars fuel r).map fun (cs, r) => (c :: cs, r) else none

def dropNewline (s : List Char) : List Char := (newline? s).getD s

private def asText (x : List Char × List Char) : String × List Char := (String.ofList x.1, x.2)

/-- A string within one line, as keys may be. -/
def shortString? : List Char → Option (String × List Char)
  | '"' :: r => (basicChars (r.length + 1) r).map asText
  | '\'' :: r => (literalChars r).map asText
  | _ => none

def string? : List Char → Option (String × List Char)
  | '"' :: '"' :: '"' :: r =>
    let r := dropNewline r
    (longBasicChars (r.length + 1) r).map asText
  | '\'' :: '\'' :: '\'' :: r =>
    let r := dropNewline r
    (longLiteralChars (r.length + 1) r).map asText
  | s => shortString? s

/-! ### Numbers -/

/-- Digits with single underscores between them, and the text after them. -/
def grouped? (isDigit : Char → Bool) : List Char → Option (List Char × List Char)
  | [] => none
  | c :: r =>
    if isDigit c then
      match r with
      | '_' :: d :: r' =>
        if isDigit d then (grouped? isDigit (d :: r')).map fun (ds, r) => (c :: ds, r)
        else some ([c], r)
      | d :: r' =>
        if isDigit d then (grouped? isDigit (d :: r')).map fun (ds, r) => (c :: ds, r)
        else some ([c], r)
      | [] => some ([c], [])
    else none
termination_by s => s.length

def sign : List Char → List Char × List Char
  | '+' :: r => (['+'], r)
  | '-' :: r => (['-'], r)
  | r => ([], r)

/-- Decimal digits of a whole number; no digit follows a leading zero. -/
def wholeDigits? : List Char → Option (List Char × List Char)
  | '0' :: r => some (['0'], r)
  | s => grouped? Char.isDigit s

def exponentText : List Char → Option (List Char × List Char)
  | c :: r =>
    if c = 'e' || c = 'E' then
      let (s, r) := sign r
      (grouped? Char.isDigit r).map fun (ds, r) => ('e' :: s ++ ds, r)
    else some ([], c :: r)
  | [] => some ([], [])

/-- What makes a number a fraction: a point with digits, an exponent, or both. -/
def fractionText : List Char → Option (List Char × List Char)
  | '.' :: r => do
    let (ds, r) ← grouped? Char.isDigit r
    let (e, r) ← exponentText r
    pure ('.' :: ds ++ e, r)
  | 'e' :: r => exponentText ('e' :: r)
  | 'E' :: r => exponentText ('E' :: r)
  | _ => none

def float? (s : List Char) : Option (Json × List Char) := do
  let (lead, r) := sign s
  let (whole, r) ← wholeDigits? r
  let (fraction, r) ← fractionText r
  let d ← Number.Decimal.read? (lead ++ whole ++ fraction)
  let x ← d.toBinary64?
  pure (.float x, r)

/-- A number that is not finite. -/
def special? (s : List Char) : Option (Json × List Char) :=
  let (_, r) := sign s
  (Text.after? ['i', 'n', 'f'] r).or (Text.after? ['n', 'a', 'n'] r) |>.map fun r => (.null, r)

/-- A whole number of 64 bits. -/
def fitting? (i : Int) : Option Json :=
  if -0x8000000000000000 ≤ i && i < 0x8000000000000000 then some (.int i) else none

/-- The number of digits in a base. -/
def inBase (base : Nat) (ds : List Char) : Nat :=
  ds.foldl (fun n c => n * base + (Json.hexDigit? c).getD 0) 0

def isDigitOf (base : Nat) (c : Char) : Bool :=
  match Json.hexDigit? c with
  | some n => n < base
  | none => false

/-- A whole number after the mark of its base. -/
def based? (base : Nat) (s : List Char) : Option (Json × List Char) := do
  let (ds, r) ← grouped? (isDigitOf base) s
  let v ← fitting? (inBase base ds)
  pure (v, r)

def whole? : List Char → Option (Json × List Char)
  | '0' :: 'x' :: r => based? 16 r
  | '0' :: 'o' :: r => based? 8 r
  | '0' :: 'b' :: r => based? 2 r
  | s => do
    let (lead, r) := sign s
    let (ds, r) ← wholeDigits? r
    let n : Int := Text.digitsValue ds
    let v ← fitting? (if lead = ['-'] then -n else n)
    pure (v, r)

/-! ### Dates and times -/

/-- A number of exactly so many digits, between two bounds. -/
def field? (count low high : Nat) (s : List Char) : Option (Nat × List Char) :=
  let ds := s.take count
  if ds.length = count && ds.all Char.isDigit then
    let n := Text.digitsValue ds
    if low ≤ n && n ≤ high then some (n, s.drop count) else none
  else none

def daysOf (year month : Nat) : Nat :=
  match month with
  | 2 => if year % 4 = 0 && (year % 100 ≠ 0 || year % 400 = 0) then 29 else 28
  | 4 | 6 | 9 | 11 => 30
  | _ => 31

def padded (width n : Nat) : List Char :=
  let ds := Nat.toDigits 10 n
  List.replicate (width - ds.length) '0' ++ ds

/-- A date, as its text. -/
def date? (s : List Char) : Option (List Char × List Char) := do
  let (year, r) ← field? 4 0 9999 s
  let r ← Text.after? ['-'] r
  let (month, r) ← field? 2 1 12 r
  let r ← Text.after? ['-'] r
  let (day, r) ← field? 2 1 (daysOf year month) r
  pure (padded 4 year ++ '-' :: padded 2 month ++ '-' :: padded 2 day, r)

/-- The fraction of a second: nine digits of it, without zeros at the end. -/
def subsecond : List Char → List Char × List Char
  | '.' :: r =>
    let ds := r.takeWhile Char.isDigit
    if ds.isEmpty then ([], '.' :: r)
    else
      let kept := ((ds.take 9).reverse.dropWhile (· == '0')).reverse
      (if kept.isEmpty then [] else '.' :: kept, r.dropWhile Char.isDigit)
  | r => ([], r)

def time? (s : List Char) : Option (List Char × List Char) := do
  let (hour, r) ← field? 2 0 23 s
  let r ← Text.after? [':'] r
  let (minute, r) ← field? 2 0 59 r
  let r ← Text.after? [':'] r
  let (second, r) ← field? 2 0 60 r
  let (fraction, r) := subsecond r
  pure (padded 2 hour ++ ':' :: padded 2 minute ++ ':' :: padded 2 second ++ fraction, r)

/-- The distance from universal time, as its text. -/
def offset? : List Char → Option (List Char × List Char)
  | 'Z' :: r => some (['Z'], r)
  | 'z' :: r => some (['Z'], r)
  | c :: r =>
    if c = '+' || c = '-' then do
      let (hour, r) ← field? 2 0 23 r
      let r ← Text.after? [':'] r
      let (minute, r) ← field? 2 0 59 r
      -- no distance at all is written with a plus
      let mark := if c = '-' && (hour, minute) ≠ (0, 0) then '-' else '+'
      pure (mark :: padded 2 hour ++ ':' :: padded 2 minute, r)
    else none
  | [] => none

def timeAfterDate? : List Char → Option (List Char × List Char)
  | c :: r =>
    if c = 'T' || c = 't' || c = ' ' then do
      let (time, r) ← time? r
      let (offset, r) := (offset? r).getD ([], r)
      pure ('T' :: time ++ offset, r)
    else none
  | [] => none

def moment? (s : List Char) : Option (Json × List Char) :=
  let read := match date? s with
    | some (date, r) =>
      let (time, r) := (timeAfterDate? r).getD ([], r)
      some (date ++ time, r)
    | none => time? s
  read.map fun (text, r) => (.obj [("$__toml_private_datetime", .str (String.ofList text))], r)

/-- A value that is neither an array nor a table. -/
def scalar? (s : List Char) : Option (Json × List Char) :=
  match s with
  | 't' :: _ => (Text.after? ['t', 'r', 'u', 'e'] s).map fun r => (.bool true, r)
  | 'f' :: _ => (Text.after? ['f', 'a', 'l', 's', 'e'] s).map fun r => (.bool false, r)
  | '"' :: _ => (string? s).map fun (t, r) => (.str t, r)
  | '\'' :: _ => (string? s).map fun (t, r) => (.str t, r)
  -- the longer notations first: a date and a fraction both start with a whole number
  | _ => (moment? s).or ((float? s).or ((special? s).or (whole? s)))

end Gatehouse.Toml
