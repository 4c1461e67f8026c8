import Gatehouse.Unicode.Case
import Gatehouse.Unicode.Category
import Gatehouse.Unicode.Script
import Gatehouse.Unicode.Word

/-!
# Sets of characters

Sets as ranges of code points, kept in order and apart from each other, with the operations that
bracket expressions need, and the sets that have names.
-/

namespace Gatehouse.Regex

open Unicode (Ranges)

abbrev CharSet := Ranges

namespace CharSet

def top : Nat := 0x10FFFF

/-- Join ranges that touch, given in the order of their lower ends. -/
def join : Ranges → Ranges
  | [] => []
  | [r] => [r]
  | (a, b) :: (c, d) :: r =>
    if c ≤ b + 1 then join ((a, max b d) :: r) else (a, b) :: join ((c, d) :: r)
termination_by s => s.length

/-- The same set with its ranges in order and apart. -/
def normal (s : Ranges) : CharSet := join (s.mergeSort fun a b => a.1 ≤ b.1)

def union (a b : CharSet) : CharSet := normal (a ++ b)

/-- What lies between the ranges of a normal set, from `from` up to `limit`. -/
def gaps (limit : Nat) : (start : Nat) → Ranges → Ranges
  | start, [] => if start ≤ limit then [(start, limit)] else []
  | start, (a, b) :: r => (if start < a then [(start, a - 1)] else []) ++ gaps limit (b + 1) r

/-- The characters up to `limit` that are not in the set. -/
def complement (limit : Nat) (s : CharSet) : CharSet := gaps limit 0 (normal s)

def inter (a b : CharSet) : CharSet :=
  normal (a.flatMap fun (lo, hi) =>
    b.filterMap fun (lo', hi') =>
      if max lo lo' ≤ min hi hi' then some (max lo lo', min hi hi') else none)

def diff (a b : CharSet) : CharSet := inter a (complement top b)

def symmetricDiff (a b : CharSet) : CharSet := union (diff a b) (diff b a)

def single (c : Char) : CharSet := [(c.toNat, c.toNat)]

/-- All pairs of a character and its folded form. -/
def foldPairs : List (Nat × Nat) := Unicode.shiftPairs Unicode.foldShifts

/-- The set with every character that differs from one of its characters in case only. -/
def closeCase (s : CharSet) : CharSet :=
  let folded := (foldPairs.filter fun (c, _) => s.has c).map fun (_, d) => (d, d)
  let s' := s ++ folded
  let others := (foldPairs.filter fun (_, d) => s'.has d).map fun (c, _) => (c, c)
  normal (s' ++ others)

/-- The set with both cases of its ASCII letters. -/
def closeAsciiCase (s : CharSet) : CharSet :=
  let upper := (inter s [(97, 122)]).map fun (a, b) => (a - 32, b - 32)
  let lower := (inter s [(65, 90)]).map fun (a, b) => (a + 32, b + 32)
  normal (s ++ upper ++ lower)

/-! ### Sets with names -/

def digits : CharSet := Unicode.categoryRanges ["Nd"]

def blanks : CharSet :=
  [(9, 13), (0x20, 0x20), (0x85, 0x85), (0xA0, 0xA0), (0x1680, 0x1680), (0x2000, 0x200A),
   (0x2028, 0x2029), (0x202F, 0x202F), (0x205F, 0x205F), (0x3000, 0x3000)]

def word : CharSet := Unicode.wordRanges

def asciiDigits : CharSet := [(48, 57)]

def asciiBlanks : CharSet := [(9, 13), (32, 32)]

def asciiWord : CharSet := [(48, 57), (65, 90), (95, 95), (97, 122)]

/-- The ASCII classes that are written `[:name:]`. -/
def asciiClasses : List (String × CharSet) :=
  [("alnum", [(48, 57), (65, 90), (97, 122)]), ("alpha", [(65, 90), (97, 122)]),
   ("ascii", [(0, 127)]), ("blank", [(9, 9), (32, 32)]), ("cntrl", [(0, 31), (127, 127)]),
   ("digit", asciiDigits), ("graph", [(33, 126)]), ("lower", [(97, 122)]),
   ("print", [(32, 126)]), ("punct", [(33, 47), (58, 64), (91, 96), (123, 126)]),
   ("space", asciiBlanks), ("upper", [(65, 90)]), ("word", asciiWord),
   ("xdigit", [(48, 57), (65, 70), (97, 102)])]

/-- A property name without case, blanks, `_`, `-` and a leading `is`. -/
def plainName (s : List Char) : String :=
  let kept := (s.filter fun c => !(Text.isBlank c || c == '_' || c == '-')).map Char.toLower
  match Text.after? ['i', 's'] kept with
  | some [] | some ['c'] | none => String.ofList kept
  | some r => String.ofList r

/-- The set of a property that stands for itself: a category, a script or a yes-or-no property. -/
def ofProperty? (name : String) : Option CharSet :=
  match name with
  | "any" => some [(0, top)]
  | "ascii" => some [(0, 127)]
  | "assigned" => some (complement top (Unicode.categoryRanges ["Cn"]))
  | "alphabetic" | "alpha" => some Unicode.alphabeticRanges
  | "uppercase" | "upper" => some Unicode.uppercaseRanges
  | "lowercase" | "lower" => some Unicode.lowercaseRanges
  | "whitespace" | "wspace" | "space" => some blanks
  | _ =>
    match Unicode.categoryNames.lookup name with
    | some categories => some (Unicode.categoryRanges categories)
    | none => Unicode.scriptRanges? name

def ofPropertyValue? (property value : String) : Option CharSet :=
  match property with
  | "generalcategory" | "gc" =>
    (Unicode.categoryNames.lookup value).map Unicode.categoryRanges
  | "script" | "sc" | "scriptextensions" | "scx" => Unicode.scriptRanges? value
  | _ => none

end CharSet

end Gatehouse.Regex
