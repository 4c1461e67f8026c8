/-!
# Text as lists of characters

The few questions every other module asks of a text: where it splits, what it starts and ends
with, and what is left when the blanks around it are gone. All of them are answered on lists of
characters; the `String` versions only convert.
-/

namespace Gatehouse.Text

/-- The blanks of the Unicode property White_Space. -/
def isBlank (c : Char) : Bool :=
  let n := c.toNat
  (9 ≤ n && n ≤ 13) || n == 0x20 || n == 0x85 || n == 0xA0 || n == 0x1680 ||
    (0x2000 ≤ n && n ≤ 0x200A) || n == 0x2028 || n == 0x2029 || n == 0x202F || n == 0x205F ||
    n == 0x3000

/-! ### Splitting -/

/-- Cut at the first `sep`, which belongs to neither side. -/
def cut? (sep : Char) : List Char → Option (List Char × List Char)
  | [] => none
  | c :: r => if c = sep then some ([], r) else (cut? sep r).map fun (a, b) => (c :: a, b)

theorem cut?_eq_some {sep : Char} {s a b : List Char} (h : cut? sep s = some (a, b)) :
    s = a ++ sep :: b ∧ sep ∉ a := by
  induction s generalizing a with
  | nil => simp [cut?] at h
  | cons c r ih =>
    rw [cut?] at h
    split at h
    · next hc => cases h; simp [hc]
    · next hc =>
      obtain ⟨⟨a', b'⟩, h', heq⟩ := Option.map_eq_some_iff.1 h
      cases heq
      obtain ⟨hr, hn⟩ := ih h'
      exact ⟨by rw [hr]; rfl, by simp [hn, Ne.symm hc]⟩

theorem cut?_append {sep : Char} {a : List Char} (h : sep ∉ a) (b : List Char) :
    cut? sep (a ++ sep :: b) = some (a, b) := by
  induction a with
  | nil => simp [cut?]
  | cons c r ih =>
    simp only [List.mem_cons, not_or] at h
    simp [cut?, Ne.symm h.1, ih h.2]

theorem cut?_eq_none_iff {sep : Char} {s : List Char} : cut? sep s = none ↔ sep ∉ s := by
  induction s with
  | nil => simp [cut?]
  | cons c r ih =>
    rw [cut?]
    split
    · next hc => simp [hc]
    · next hc => simp [ih, Ne.symm hc]

/-- What is left of `s` after `lead`, if `s` starts with it. -/
def after? [DecidableEq α] : (lead s : List α) → Option (List α)
  | [], s => some s
  | _ :: _, [] => none
  | p :: ps, c :: cs => if p = c then after? ps cs else none

theorem after?_eq_some_iff [DecidableEq α] {lead s r : List α} :
    after? lead s = some r ↔ s = lead ++ r := by
  induction lead generalizing s with
  | nil => simp [after?]
  | cons p ps ih =>
    cases s with
    | nil => simp [after?]
    | cons c cs =>
      rw [after?]
      split
      · next h => simp [ih, h]
      · next h => simp [Ne.symm h]

/-- What is left of `s` before `tail`, if `s` ends with it. -/
def before? [DecidableEq α] (tail s : List α) : Option (List α) :=
  (after? tail.reverse s.reverse).map List.reverse

theorem before?_eq_some_iff [DecidableEq α] {tail s r : List α} :
    before? tail s = some r ↔ s = r ++ tail := by
  simp only [before?, Option.map_eq_some_iff, after?_eq_some_iff]
  constructor
  · rintro ⟨q, h, rfl⟩
    simpa using congrArg List.reverse h
  · rintro rfl
    exact ⟨r.reverse, by simp, by simp⟩

def occursIn (part : List Char) : List Char → Bool
  | [] => part.isEmpty
  | c :: r => part.isPrefixOf (c :: r) || occursIn part r

theorem occursIn_iff {part s : List Char} : occursIn part s = true ↔ part <:+: s := by
  induction s with
  | nil => cases part <;> simp [occursIn]
  | cons c r ih =>
    simp [occursIn, ih, List.infix_cons_iff]

/-! ### Blanks -/

def trim (s : List Char) : List Char :=
  ((s.dropWhile isBlank).reverse.dropWhile isBlank).reverse

/-- A text of blanks only, or of nothing. -/
def isBlankText (s : String) : Bool := s.toList.all isBlank

/-! ### On strings -/

def trimString (s : String) : String := String.ofList (trim s.toList)

/-- The parts between the occurrences of `sep`; there is always one more of them than of `sep`. -/
def splitString (sep : Char) (s : String) : List String :=
  (s.toList.splitOn sep).map String.ofList

def cutString? (sep : Char) (s : String) : Option (String × String) :=
  (cut? sep s.toList).map fun (a, b) => (String.ofList a, String.ofList b)

/-- ASCII letters in lower case, everything else as it is. -/
def lowerAscii (s : String) : String := String.ofList (s.toList.map Char.toLower)

def eqIgnoringCase (a b : String) : Bool := lowerAscii a == lowerAscii b

/-- The string without any `c` at its end. -/
def dropTrailing (c : Char) (s : String) : String :=
  String.ofList (s.toList.reverse.dropWhile (· == c)).reverse

end Gatehouse.Text
