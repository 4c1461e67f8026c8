import Gatehouse.Json.Basic

/-!
# Reading JSON text

The reader walks down the grammar on a list of characters and returns a value with the text left
over. A document is one value with blanks around it, nested at most 127 levels deep.

Numbers without a point or an exponent are whole if they fit 64 bits. All other numbers are
doubles: the digits are taken as one 64-bit whole number for as long as they fit, that number is
rounded to a double, and one multiplication or division by a power of ten follows. `-0` is the
negative zero among the doubles.
-/

namespace Gatehouse.Json

open Number (Binary64)

/-- The blanks of the JSON grammar. -/
def isSpace (c : Char) : Bool := c == ' ' || c == '\t' || c == '\n' || c == '\r'

def skipSpace (s : List Char) : List Char := s.dropWhile isSpace

/-! ### Numbers -/

/-- The largest whole number that is read exactly. -/
def maxWhole : Nat := 0xFFFFFFFFFFFFFFFF

/-- Append digits to a number for as long as it stays a 64-bit one; the rest is returned. -/
def absorb : Nat → List Char → Nat × List Char
  | n, [] => (n, [])
  | n, c :: r =>
    let next := n * 10 + (c.toNat - '0'.toNat)
    if maxWhole < next then (n, c :: r) else absorb next r

/-- `10 ^ k` as a double, for `k` up to 308. -/
def powerOfTen (k : Nat) : Binary64 := (Binary64.ofDecimal? false 1 k).getD (.zero false)

/-- Scale by a power of ten: one multiplication, or divisions by at most `10 ^ 308` each. Nothing
on overflow. -/
def scale10? : (fuel : Nat) → Binary64 → Int → Option Binary64
  | 0, _, _ => some (.zero false)
  | fuel + 1, x, e =>
    if e.natAbs ≤ 308 then
      if 0 ≤ e then x.mul? (powerOfTen e.natAbs) else x.div? (powerOfTen e.natAbs)
    -- zero stays zero, and anything else leaves the range upwards or goes on downwards
    else if x.significand = 0 then some x
    else if 0 ≤ e then none
    else (x.div? (powerOfTen 308)).bind fun y => scale10? fuel y (e + 308)

/-- The double of a whole number times a power of ten. -/
def ofParts? (negative : Bool) (n : Nat) (e : Int) : Option Json :=
  (scale10? 8 (Binary64.ofNat n) e).map fun x => .float (if negative then x.neg else x)

/-- The largest exponent that is read digit by digit. -/
def maxExponent : Nat := 0x7FFFFFFF

/-- The exponent after its letter; a digit is needed. An exponent of more than 31 bits makes any
number but zero overflow, or vanish if it is negative. -/
def readExponent (negative : Bool) (n : Nat) (e : Int) (s : List Char) :
    Option (Json × List Char) :=
  let (down, s) := match s with
    | '-' :: r => (true, r)
    | '+' :: r => (false, r)
    | r => (false, r)
  let digits := s.takeWhile Char.isDigit
  let rest := s.dropWhile Char.isDigit
  if digits.isEmpty then none
  else
    let x := digits.foldl (fun acc c => acc * 10 + (c.toNat - '0'.toNat)) 0
    if maxExponent < x then
      if n ≠ 0 && !down then none else some (.float (.zero negative), rest)
    else (ofParts? negative n (if down then e - x else e + x)).map (·, rest)

/-- What follows the digits before and after a point: an exponent or the end of the number. -/
def finishFloat (negative : Bool) (n : Nat) (e : Int) : List Char → Option (Json × List Char)
  | 'e' :: r => readExponent negative n e r
  | 'E' :: r => readExponent negative n e r
  | r => (ofParts? negative n e).map (·, r)

/-- The digits after a point; at least one is needed. -/
def readFraction (negative : Bool) (n : Nat) (e : Int) (s : List Char) :
    Option (Json × List Char) :=
  let digits := s.takeWhile Char.isDigit
  let rest := s.dropWhile Char.isDigit
  if digits.isEmpty then none
  else
    let (m, left) := absorb n digits
    finishFloat negative m (e - ((digits.length - left.length : Nat) : Int)) rest

/-- A whole number that fits its 64 bits, else a double. -/
def wholeNumber (negative : Bool) (n : Nat) : Json :=
  if !negative then .int n
  else if n = 0 || 0x8000000000000000 < n then .float { Binary64.ofNat n with negative := true }
  else .int (-n)

/-- A number after its sign. No digit follows a leading zero. -/
def readUnsigned (negative : Bool) (s : List Char) : Option (Json × List Char) :=
  let digits := s.takeWhile Char.isDigit
  let rest := s.dropWhile Char.isDigit
  match digits with
  | [] => none
  | '0' :: _ :: _ => none
  | _ =>
    -- digits that do not fit count as zeros
    let (n, left) := absorb 0 digits
    match rest with
    | '.' :: r => readFraction negative n left.length r
    | 'e' :: r => readExponent negative n left.length r
    | 'E' :: r => readExponent negative n left.length r
    | _ =>
      if left.isEmpty then some (wholeNumber negative n, rest)
      else (ofParts? negative n left.length).map (·, rest)

def readNumber : List Char → Option (Json × List Char)
  | '-' :: r => readUnsigned true r
  | r => readUnsigned false r

/-! ### Strings -/

def hexDigit? (c : Char) : Option Nat :=
  if c.isDigit then some (c.toNat - '0'.toNat)
  else if 'a' ≤ c ∧ c ≤ 'f' then some (c.toNat - 'a'.toNat + 10)
  else if 'A' ≤ c ∧ c ≤ 'F' then some (c.toNat - 'A'.toNat + 10)
  else none

theorem hexDigit?_digitChar {n : Nat} (h : n < 16) : hexDigit? (Nat.digitChar n) = some n := by
  have hdigits : ∀ n : Fin 16, hexDigit? (Nat.digitChar n) = some n.val := by decide
  exact hdigits ⟨n, h⟩

def readHex4 : List Char → Option (Nat × List Char)
  | a :: b :: c :: d :: r => do
    let w ← hexDigit? a
    let x ← hexDigit? b
    let y ← hexDigit? c
    let z ← hexDigit? d
    pure (((w * 16 + x) * 16 + y) * 16 + z, r)
  | _ => none

/-- The character of an escape after `\u`: a code point outside the surrogates, or a high and a
low surrogate in two escapes. -/
def readUnit (s : List Char) : Option (Char × List Char) :=
  match readHex4 s with
  | none => none
  | some (n, r) =>
    -- a low surrogate needs a high one before it
    if 0xDC00 ≤ n && n ≤ 0xDFFF then none
    else if 0xD800 ≤ n && n ≤ 0xDBFF then
      match r with
      | '\\' :: 'u' :: r =>
        match readHex4 r with
        | some (m, r) =>
          if 0xDC00 ≤ m && m ≤ 0xDFFF then
            some (Char.ofNat (0x10000 + (n - 0xD800) * 0x400 + (m - 0xDC00)), r)
          else none
        | none => none
      | _ => none
    else some (Char.ofNat n, r)

def escaped? : Char → Option Char
  | '"' => some '"'
  | '\\' => some '\\'
  | '/' => some '/'
  | 'b' => some '\x08'
  | 'f' => some '\x0c'
  | 'n' => some '\n'
  | 'r' => some '\r'
  | 't' => some '\t'
  | _ => none

/-- The characters up to the closing quotation mark; control characters need an escape. -/
def readChars : (fuel : Nat) → List Char → Option (List Char × List Char)
  | 0, _ => none
  | _ + 1, [] => none
  | _ + 1, '"' :: r => some ([], r)
  | fuel + 1, '\\' :: 'u' :: r => do
    let (c, r) ← readUnit r
    let (cs, r) ← readChars fuel r
    pure (c :: cs, r)
  | fuel + 1, '\\' :: e :: r => do
    let c ← escaped? e
    let (cs, r) ← readChars fuel r
    pure (c :: cs, r)
  | fuel + 1, c :: r =>
    if c = '\\' || c.toNat < 0x20 then none
    else (readChars fuel r).map fun (cs, r) => (c :: cs, r)

/-- A string after its opening quotation mark. -/
def readString (s : List Char) : Option (String × List Char) :=
  (readChars (s.length + 1) s).map fun (cs, r) => (String.ofList cs, r)

/-! ### Values -/

def readWord (word : List Char) (v : Json) (s : List Char) : Option (Json × List Char) :=
  if word.isPrefixOf s then some (v, s.drop word.length) else none

mutual

/-- A value, after any blanks. `depth` is the number of levels that may still be opened. -/
def readValue : (fuel depth : Nat) → List Char → Option (Json × List Char)
  | 0, _, _ => none
  | fuel + 1, depth, s =>
    match skipSpace s with
    | [] => none
    | '"' :: r => (readString r).map fun (t, r) => (.str t, r)
    | '[' :: r =>
      if depth = 0 then none
      else match skipSpace r with
        | ']' :: r => some (.arr [], r)
        | r => (readItems fuel (depth - 1) r).map fun (vs, r) => (.arr vs, r)
    | '{' :: r =>
      if depth = 0 then none
      else match skipSpace r with
        | '}' :: r => some (.obj [], r)
        | r => (readFields fuel (depth - 1) r).map fun (fs, r) => (.obj fs, r)
    | 'n' :: r => readWord ['n', 'u', 'l', 'l'] .null ('n' :: r)
    | 't' :: r => readWord ['t', 'r', 'u', 'e'] (.bool true) ('t' :: r)
    | 'f' :: r => readWord ['f', 'a', 'l', 's', 'e'] (.bool false) ('f' :: r)
    | r => readNumber r

/-- The elements of an array from the next one to the closing bracket. -/
def readItems : (fuel depth : Nat) → List Char → Option (List Json × List Char)
  | 0, _, _ => none
  | fuel + 1, depth, s =>
    match readValue fuel depth s with
    | none => none
    | some (v, r) =>
      match skipSpace r with
      | ',' :: r => (readItems fuel depth r).map fun (vs, r) => (v :: vs, r)
      | ']' :: r => some ([v], r)
      | _ => none

/-- The fields of an object from the next one to the closing brace. -/
def readFields : (fuel depth : Nat) → List Char → Option (List (String × Json) × List Char)
  | 0, _, _ => none
  | fuel + 1, depth, s =>
    match skipSpace s with
    | '"' :: r =>
      match readString r with
      | none => none
      | some (k, r) =>
        match skipSpace r with
        | ':' :: r =>
          match readValue fuel depth r with
          | none => none
          | some (v, r) =>
            match skipSpace r with
            | ',' :: r => (readFields fuel depth r).map fun (fs, r) => ((k, v) :: fs, r)
            | '}' :: r => some ([(k, v)], r)
            | _ => none
        | _ => none
    | _ => none

end

/-- The deepest nesting that is read. -/
def maxDepth : Nat := 127

/-- The value of a document with its fields as they were written. -/
def readDocument? (text : String) : Option Json :=
  let s := text.toList
  match readValue (2 * s.length + 2) maxDepth s with
  | some (v, r) => if (skipSpace r).isEmpty then some v else none
  | none => none

def parse? (text : String) : Option Json := (readDocument? text).map canonical

end Gatehouse.Json
