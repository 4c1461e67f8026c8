import Gatehouse.Unicode.Case
import Gatehouse.Unicode.Category
import Gatehouse.Unicode.Word

/-!
# Lower case

A text in lower case, character by character but for the capital sigma, which has a form of its own
at the end of a word. A word ends where no letter with case follows and one goes before; marks and
the like in between do not count.
-/

namespace Gatehouse.Unicode

/-- The categories of characters that do not count when the end of a word is looked for. -/
def ignorableCategories : List String := ["Mn", "Me", "Cf", "Lm", "Sk"]

/-- Points and quotes that may stand within a word. -/
def wordPoints : Ranges :=
  readRanges "27 2e 3a b7 387 55f 5f4 2018-2019 2024 2027 fe13 fe52 fe55 ff07 ff0e ff1a"

/-- The characters that do not count when the end of a word is looked for. -/
def ignorableRanges : Ranges := categoryRanges ignorableCategories ++ wordPoints

def casedRanges : Ranges := uppercaseRanges ++ lowercaseRanges ++ categoryRanges ["Lt"]

/-- Whether the first character that counts has case. -/
def startsCased (s : List Char) : Bool :=
  (s.dropWhile ignorableRanges.contains).head?.any casedRanges.contains

/-- A character in lower case between the characters before it, the nearest one first, and those
after it. -/
def lowerWithin (before : List Char) (c : Char) (after : List Char) : List Char :=
  if c = 'Σ' then [if startsCased before && !startsCased after then 'ς' else 'σ']
  else lowerChar c

def lowerFrom : (before : List Char) → List Char → List Char
  | _, [] => []
  | before, c :: r => lowerWithin before c r ++ lowerFrom (c :: before) r

def lower (s : String) : String := String.ofList (lowerFrom [] s.toList)

end Gatehouse.Unicode
