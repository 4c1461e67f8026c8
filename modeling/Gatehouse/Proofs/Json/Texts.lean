import Gatehouse.Json.Reader
import Gatehouse.Json.Writer
import Gatehouse.Text.Basic

/-!
# JSON texts read back

The compact text of a value is one way of many to write it, and the reader takes it for the value
again. It is shown part by part, each part with any text behind it:

    '"' a \" b '"' ++ rest   ──readString──▶  the string, rest
    '-' 1 2        ++ rest   ──readNumber──▶  the number, rest
    '[' 1 , [ ] ']' ++ rest  ──readValue──▶   the array, rest

What follows a value is a comma or the end of what the value is in (`Follows`), so a number ends
where it was written to end. The values are those without fractions, with whole numbers that fit
64 bits, and nested no deeper than the reader goes (`Exact`); doubles are rounded when they are
read.

**The text of such a value is a document of the value** (`readDocument?_toText`).
-/

namespace Gatehouse.Json

variable {c : Char} {s rest : List Char} {n fuel depth : Nat}

theorem skipSpace_cons (h : isSpace c = false) : skipSpace (c :: s) = c :: s := by
  rw [skipSpace, List.dropWhile_cons_of_neg (by simp [h])]

/-- What may follow a value: nothing, or a comma or a closing bracket with more text. -/
def Follows (rest : List Char) : Prop := ∀ c ∈ rest.head?, c = ',' ∨ c = ']' ∨ c = '}'

theorem follows_nil : Follows [] := by simp [Follows]

theorem follows_comma : Follows (',' :: rest) := by simp [Follows]

theorem follows_bracket : Follows (']' :: rest) := by simp [Follows]

theorem follows_brace : Follows ('}' :: rest) := by simp [Follows]

/-! ## Numbers -/

/-- Only zero starts with a zero. -/
theorem eq_zero_of_head?_toDigits (h : (Nat.toDigits 10 n).head? = some '0') : n = 0 := by
  induction n using Nat.strongRecOn with
  | _ n ih =>
    rw [Nat.toDigits_eq_if (by decide)] at h
    split at h
    · simpa using h
    · next hten =>
      obtain ⟨c, t, ht⟩ := List.exists_cons_of_ne_nil (Nat.toDigits_ne_nil (n := n / 10) (b := 10))
      have hdiv : n / 10 = 0 := by
        apply ih (n / 10) (by omega)
        rw [ht, List.cons_append] at h
        rw [ht]
        exact h
      omega

theorem le_ofDigitChars (s : List Char) (n : Nat) : n ≤ Nat.ofDigitChars 10 s n := by
  rw [Nat.ofDigitChars_eq_ofDigitChars_zero]
  have hpow : 0 < 10 ^ s.length := Nat.pow_pos (by decide)
  have hmul : 1 * n ≤ 10 ^ s.length * n := Nat.mul_le_mul_right n hpow
  omega

/-- Digits that fit are all taken. -/
theorem absorb_eq (h : Nat.ofDigitChars 10 s n ≤ maxWhole) :
    absorb n s = (Nat.ofDigitChars 10 s n, []) := by
  induction s generalizing n with
  | nil => rw [absorb, Nat.ofDigitChars_nil]
  | cons c s ih =>
      rw [Nat.ofDigitChars_cons, Nat.mul_comm] at h ⊢
      have hnext : ¬ maxWhole < n * 10 + (c.toNat - '0'.toNat) :=
        Nat.not_lt.2 (Nat.le_trans (le_ofDigitChars s _) h)
      rw [absorb, if_neg hnext, ih h]

theorem isDigit_of_mem_toDigits (h : c ∈ Nat.toDigits 10 n) : c.isDigit = true :=
  Nat.isDigit_of_mem_toDigits (by decide) (by decide) h

theorem isDigit_eq_false_of_follows (h : Follows rest) :
    ∀ c ∈ rest.head?, c.isDigit = false := by
  intro c hc
  rcases h c hc with rfl | rfl | rfl
  all_goals decide

/-- The digits of a number end where something else follows. -/
theorem takeWhile_digits (h : Follows rest) :
    (Nat.toDigits 10 n ++ rest).takeWhile Char.isDigit = Nat.toDigits 10 n := by
  rw [List.takeWhile_append_of_pos fun c hc => isDigit_of_mem_toDigits hc]
  cases rest with
  | nil => simp
  | cons c r =>
      have hc : c.isDigit = false := isDigit_eq_false_of_follows h c rfl
      rw [List.takeWhile_cons_of_neg (by simp [hc]), List.append_nil]

theorem dropWhile_digits (h : Follows rest) :
    (Nat.toDigits 10 n ++ rest).dropWhile Char.isDigit = rest := by
  rw [List.dropWhile_append_of_pos fun c hc => isDigit_of_mem_toDigits hc]
  cases rest with
  | nil => rfl
  | cons c r =>
      have hc : c.isDigit = false := isDigit_eq_false_of_follows h c rfl
      rw [List.dropWhile_cons_of_neg (by simp [hc])]

/-- Digits are read up to what follows them, without a fraction or an exponent. -/
theorem readUnsigned_toDigits (negative : Bool) (hn : n ≤ maxWhole) (h : Follows rest) :
    readUnsigned negative (Nat.toDigits 10 n ++ rest) = some (wholeNumber negative n, rest) := by
  have hvalue : Nat.ofDigitChars 10 (Nat.toDigits 10 n) 0 = n :=
    Nat.ofDigitChars_toDigits (by decide) (by decide)
  have habsorb : absorb 0 (Nat.toDigits 10 n) = (n, []) := by
    rw [absorb_eq (by rw [hvalue]; exact hn), hvalue]
  simp only [readUnsigned, takeWhile_digits h, dropWhile_digits h]
  split
  · next hnil => exact absurd hnil Nat.toDigits_ne_nil
  · next c t hzero =>
      -- a number of two digits or more does not start with a zero
      have hn : n = 0 := eq_zero_of_head?_toDigits (by rw [hzero]; rfl)
      rw [hn, Nat.toDigits_zero] at hzero
      cases hzero
  · rw [habsorb]
    split
    · exact absurd (h '.' rfl) (by decide)
    · exact absurd (h 'e' rfl) (by decide)
    · exact absurd (h 'E' rfl) (by decide)
    · rfl

theorem exists_toDigits_eq_cons (n : Nat) :
    ∃ c s, Nat.toDigits 10 n = c :: s ∧ c.isDigit = true := by
  obtain ⟨c, s, hs⟩ := List.exists_cons_of_ne_nil (Nat.toDigits_ne_nil (n := n) (b := 10))
  exact ⟨c, s, hs, isDigit_of_mem_toDigits (by rw [hs]; exact List.mem_cons_self)⟩

theorem readNumber_toDigits (hn : n ≤ maxWhole) (h : Follows rest) :
    readNumber (Nat.toDigits 10 n ++ rest) = some (.int n, rest) := by
  have hunsigned : readNumber (Nat.toDigits 10 n ++ rest) =
      readUnsigned false (Nat.toDigits 10 n ++ rest) := by
    obtain ⟨c, s, hs, hc⟩ := exists_toDigits_eq_cons n
    rw [hs, List.cons_append, readNumber]
    rintro r ⟨rfl, -⟩
    exact absurd hc (by decide)
  rw [hunsigned, readUnsigned_toDigits false hn h]
  rfl

theorem readNumber_minus (hpos : n ≠ 0) (hn : n ≤ 0x8000000000000000) (h : Follows rest) :
    readNumber ('-' :: (Nat.toDigits 10 n ++ rest)) = some (.int (-n), rest) := by
  have hwhole : wholeNumber true n = .int (-n) := by
    rw [wholeNumber, if_neg (by decide), if_neg (by simp [hpos]; omega)]
  rw [readNumber, readUnsigned_toDigits true (Nat.le_trans hn (by decide)) h, hwhole]

/-- The text of a whole number: its digits, behind a sign if it is negative. -/
theorem toList_toString (i : Int) : (toString i).toList =
    if 0 ≤ i then Nat.toDigits 10 i.toNat else '-' :: Nat.toDigits 10 (-i).toNat := by
  rw [Int.toString_eq_repr, Int.repr_eq_if]
  split
  · exact Nat.toList_repr
  · simp

/-- **Whole numbers** of 64 bits are read back. -/
theorem readNumber_toString {i : Int} (hlow : -0x8000000000000000 ≤ i)
    (hhigh : i ≤ 0xFFFFFFFFFFFFFFFF) (h : Follows rest) :
    readNumber ((toString i).toList ++ rest) = some (.int i, rest) := by
  rw [toList_toString]
  split
  · next hpos =>
      rw [readNumber_toDigits (by rw [maxWhole]; omega) h, Int.toNat_of_nonneg hpos]
  · next hneg =>
      rw [List.cons_append, readNumber_minus (by omega) (by omega) h,
        Int.toNat_of_nonneg (by omega), Int.neg_neg]

/-! ## Strings -/

/-- A control character is read back from its four digits. -/
theorem readUnit_control (h : c.toNat < 0x20) (s : List Char) :
    readUnit ('0' :: '0' :: hexChar (c.toNat / 16) :: hexChar (c.toNat % 16) :: s) =
      some (c, s) := by
  have hunit : readHex4 ('0' :: '0' :: hexChar (c.toNat / 16) :: hexChar (c.toNat % 16) :: s) =
      some (c.toNat, s) := by
    rw [readHex4, hexChar, hexChar, hexDigit?_digitChar (by omega), hexDigit?_digitChar (by omega)]
    show some (((0 * 16 + 0) * 16 + c.toNat / 16) * 16 + c.toNat % 16, s) = _
    congr 2
    omega
  simp only [readUnit, hunit]
  rw [if_neg (by simp; omega), if_neg (by simp; omega), Char.ofNat_toNat]

theorem readChars_unit (h : c.toNat < 0x20) (fuel : Nat) (s : List Char) :
    readChars (fuel + 1) ('\\' :: 'u' :: '0' :: '0' :: hexChar (c.toNat / 16) ::
      hexChar (c.toNat % 16) :: s) = (readChars fuel s).map fun (cs, r) => (c :: cs, r) := by
  rw [readChars, readUnit_control h]
  cases hs : readChars fuel s <;> simp [hs]

theorem readChars_escape {e : Char} (h : escaped? e = some c) (fuel : Nat) (s : List Char) :
    readChars (fuel + 1) ('\\' :: e :: s) = (readChars fuel s).map fun (cs, r) => (c :: cs, r) := by
  have hu : e ≠ 'u' := by
    rintro rfl
    cases h
  rw [readChars, h]
  · cases readChars fuel s <;> rfl
  · exact hu

theorem readChars_plain (hquote : c ≠ '"') (hslash : c ≠ '\\') (h : ¬ c.toNat < 0x20)
    (fuel : Nat) (s : List Char) :
    readChars (fuel + 1) (c :: s) = (readChars fuel s).map fun (cs, r) => (c :: cs, r) := by
  rw [readChars, if_neg]
  · simp [hslash]; omega
  all_goals simp [hquote, hslash]

/-- **A character** is read back as it is written in a string. -/
theorem readChars_escapeChar (c : Char) (fuel : Nat) (s : List Char) :
    readChars (fuel + 1) (escapeChar c ++ s) =
      (readChars fuel s).map fun (cs, r) => (c :: cs, r) := by
  fun_cases escapeChar c
  case case8 => exact readChars_unit ‹c.toNat < 0x20› fuel s
  case case9 hquote hslash _ _ _ _ _ h => exact readChars_plain hquote hslash h fuel s
  all_goals exact readChars_escape rfl fuel s

theorem length_escapeChar_pos (c : Char) : 0 < (escapeChar c).length := by
  fun_cases escapeChar c <;> simp

/-- Escaped characters are read back up to the closing mark, by induction on the text. -/
theorem readChars_flatMap {cs : List Char} (h : (cs.flatMap escapeChar).length < fuel) :
    readChars fuel (cs.flatMap escapeChar ++ '"' :: rest) = some (cs, rest) := by
  induction cs generalizing fuel with
  | nil =>
      obtain ⟨k, rfl⟩ := Nat.exists_eq_add_one_of_ne_zero (Nat.ne_of_gt h)
      rfl
  | cons c cs ih =>
      obtain ⟨k, rfl⟩ := Nat.exists_eq_add_one_of_ne_zero (Nat.ne_of_gt (Nat.zero_lt_of_lt h))
      rw [List.flatMap_cons, List.length_append] at h
      have hpos := length_escapeChar_pos c
      rw [List.flatMap_cons, List.append_assoc, readChars_escapeChar, ih (by omega)]
      rfl

/-- **Strings** are read back, whatever is behind them. -/
theorem readString_flatMap (t : String) (rest : List Char) :
    readString (t.toList.flatMap escapeChar ++ '"' :: rest) = some (t, rest) := by
  rw [readString, readChars_flatMap (by rw [List.length_append]; omega)]
  simp

theorem writeString_append (t : String) (rest : List Char) :
    writeString t ++ rest = '"' :: (t.toList.flatMap escapeChar ++ '"' :: rest) := by
  simp [writeString]

/-! ## Values -/

/-- Values that are read back as they are, nested at most so many levels deep: the numbers are
whole and fit 64 bits. -/
inductive Exact : (depth : Nat) → Json → Prop
  | null {depth : Nat} : Exact depth .null
  | bool {depth : Nat} (b : Bool) : Exact depth (.bool b)
  | int {depth : Nat} {i : Int} (hlow : -0x8000000000000000 ≤ i) (hhigh : i ≤ 0xFFFFFFFFFFFFFFFF) :
      Exact depth (.int i)
  | str {depth : Nat} (t : String) : Exact depth (.str t)
  | arr {depth : Nat} {items : List Json} (h : ∀ v ∈ items, Exact depth v) :
      Exact (depth + 1) (.arr items)
  | obj {depth : Nat} {fields : List (String × Json)} (h : ∀ f ∈ fields, Exact depth f.2) :
      Exact (depth + 1) (.obj fields)

/-- A character that a value may start with: none that is passed over, and not the end of an
array. -/
def Opens (c : Char) : Prop := Text.isBlank c = false ∧ c ≠ ']'

theorem Opens.isSpace_eq_false (h : Opens c) : isSpace c = false := by
  rw [Bool.eq_false_iff]
  intro hspace
  have hblank : Text.isBlank c = true := by
    simp only [isSpace, Bool.or_eq_true, beq_iff_eq] at hspace
    rcases hspace with ((rfl | rfl) | rfl) | rfl
    all_goals decide
  rw [h.1] at hblank
  cases hblank

/-- The text of a whole number starts with its sign or with a digit. -/
theorem exists_toString_eq_cons (i : Int) :
    ∃ c s, (toString i).toList = c :: s ∧ (c = '-' ∨ c.isDigit = true) := by
  rw [toList_toString]
  split
  · obtain ⟨c, s, hs, hc⟩ := exists_toDigits_eq_cons i.toNat
    exact ⟨c, s, hs, Or.inr hc⟩
  · exact ⟨'-', _, rfl, Or.inl rfl⟩

/-- A sign or a digit is none of the other characters a value starts with. -/
theorem ne_of_startsNumber {d : Char} (h : c = '-' ∨ c.isDigit = true)
    (hd : d.isDigit = false) (hminus : d ≠ '-') : c ≠ d := by
  rintro rfl
  rcases h with rfl | h
  · exact hminus rfl
  · rw [hd] at h
    cases h

theorem isBlank_digit (h : c.isDigit = true) : Text.isBlank c = false := by
  obtain ⟨hlow, hhigh⟩ := Bool.and_eq_true_iff.1 h
  have hlow : 48 ≤ c.toNat := of_decide_eq_true hlow
  have hhigh : c.toNat ≤ 57 := of_decide_eq_true hhigh
  simp [Text.isBlank]
  omega

/-- What starts a number is not blank, and it is not the end of an array. -/
theorem opens_of_startsNumber (h : c = '-' ∨ c.isDigit = true) : Opens c := by
  refine ⟨?_, ne_of_startsNumber h (by decide) (by decide)⟩
  rcases h with rfl | hdigit
  · decide
  · exact isBlank_digit hdigit

theorem Exact.exists_write_eq_cons {v : Json} (h : Exact depth v) :
    ∃ c s, write v = c :: s ∧ Opens c := by
  cases h with
  | null => exact ⟨'n', _, rfl, by decide, by decide⟩
  | bool b => cases b with
    | true => exact ⟨'t', _, rfl, by decide, by decide⟩
    | false => exact ⟨'f', _, rfl, by decide, by decide⟩
  | @int _ i =>
      obtain ⟨c, s, hs, hc⟩ := exists_toString_eq_cons i
      exact ⟨c, s, hs, opens_of_startsNumber hc⟩
  | str t => exact ⟨'"', _, rfl, by decide, by decide⟩
  | arr => exact ⟨'[', _, rfl, by decide, by decide⟩
  | obj => exact ⟨'\x7b', _, rfl, by decide, by decide⟩

theorem readValue_number (h : c = '-' ∨ c.isDigit = true) :
    readValue (fuel + 1) depth (c :: s) = readNumber (c :: s) := by
  rw [readValue, skipSpace_cons (opens_of_startsNumber h).isSpace_eq_false]
  split
  case h_8 => rfl
  all_goals
    rename_i heq
    cases heq <;> simp at h

/-- A value that is read back with what it is in behind it. Two units of fuel for a character are
enough: a level is two steps down and has two brackets, an element is one with its comma. -/
def ReadsBack (depth : Nat) (v : Json) : Prop :=
  ∀ {fuel : Nat} {rest : List Char}, 2 * (write v).length ≤ fuel → Follows rest →
    readValue fuel depth (write v ++ rest) = some (v, rest)

/-- Elements are read back up to the closing bracket, by induction on the list. -/
theorem readItems_writeItems {items : List Json} (hne : items ≠ [])
    (h : ∀ v ∈ items, ReadsBack depth v) (hfuel : 2 * (writeItems items).length + 1 ≤ fuel) :
    readItems fuel depth (writeItems items ++ ']' :: rest) = some (items, rest) := by
  induction items generalizing fuel with
  | nil => exact absurd rfl hne
  | cons v items ih =>
      obtain ⟨k, rfl⟩ := Nat.exists_eq_add_one_of_ne_zero (Nat.ne_of_gt (Nat.zero_lt_of_lt hfuel))
      have hv : ReadsBack depth v := h v List.mem_cons_self
      cases items with
      | nil =>
          rw [writeItems] at hfuel ⊢
          rw [readItems, hv (by omega) follows_bracket]
          rfl
      | cons w items =>
          rw [writeItems] at hfuel ⊢
          · rw [List.length_append, List.length_cons] at hfuel
            have hrest : readItems k depth (writeItems (w :: items) ++ ']' :: rest) =
                some (w :: items, rest) :=
              ih (List.cons_ne_nil w items) (fun u hu => h u (List.mem_cons_of_mem v hu)) (by omega)
            rw [readItems, List.append_assoc, List.cons_append, hv (by omega) follows_comma]
            show (readItems k depth _).map _ = _
            rw [hrest]
            rfl
          all_goals exact List.cons_ne_nil w items

/-- One member of an object is read, and what follows it says whether there are more. -/
theorem readFields_member {v : Json} (hv : ReadsBack depth v) (key : String)
    (hfuel : 2 * (write v).length ≤ fuel) (h : Follows rest) :
    readFields (fuel + 1) depth (writeString key ++ ':' :: write v ++ rest) =
      match skipSpace rest with
      | ',' :: r => (readFields fuel depth r).map fun (fs, r) => ((key, v) :: fs, r)
      | '}' :: r => some ([(key, v)], r)
      | _ => none := by
  have hcolon : ∀ s, skipSpace (':' :: s) = ':' :: s := fun s => skipSpace_cons rfl
  rw [List.append_assoc, writeString_append, readFields, skipSpace_cons rfl]
  simp only [readString_flatMap, List.cons_append, hcolon]
  split
  · next hread =>
      rw [hv hfuel h] at hread
      cases hread
  · next hread =>
      rw [hv hfuel h] at hread
      cases hread
      rfl

/-- Fields are read back up to the closing brace, by induction on the list. -/
theorem readFields_writeFields {fields : List (String × Json)} (hne : fields ≠ [])
    (h : ∀ f ∈ fields, ReadsBack depth f.2) (hfuel : 2 * (writeFields fields).length + 1 ≤ fuel) :
    readFields fuel depth (writeFields fields ++ '}' :: rest) = some (fields, rest) := by
  induction fields generalizing fuel with
  | nil => exact absurd rfl hne
  | cons f fields ih =>
      obtain ⟨key, v⟩ := f
      obtain ⟨k, rfl⟩ := Nat.exists_eq_add_one_of_ne_zero (Nat.ne_of_gt (Nat.zero_lt_of_lt hfuel))
      have hv : ReadsBack depth v := h (key, v) List.mem_cons_self
      cases fields with
      | nil =>
          rw [writeFields, List.length_append, List.length_cons] at hfuel
          rw [writeFields, readFields_member hv key (by omega) follows_brace]
          rfl
      | cons g fields =>
          rw [writeFields] at hfuel ⊢
          · rw [List.length_append, List.length_append, List.length_cons, List.length_cons] at hfuel
            have hrest : readFields k depth (writeFields (g :: fields) ++ '}' :: rest) =
                some (g :: fields, rest) :=
              ih (List.cons_ne_nil g fields) (fun u hu => h u (List.mem_cons_of_mem _ hu))
                (by omega)
            rw [List.append_assoc, List.cons_append,
              readFields_member hv key (by omega) follows_comma]
            show (readFields k depth _).map _ = _
            rw [hrest]
            rfl
          all_goals exact List.cons_ne_nil g fields

theorem exists_writeItems_eq_cons {items : List Json} (hne : items ≠ [])
    (h : ∀ v ∈ items, Exact depth v) : ∃ c s, writeItems items = c :: s ∧ Opens c := by
  cases items with
  | nil => exact absurd rfl hne
  | cons v items =>
      obtain ⟨c, s, hs, hc⟩ := (h v List.mem_cons_self).exists_write_eq_cons
      cases items with
      | nil => exact ⟨c, s, by rw [writeItems, hs], hc⟩
      | cons w items =>
          refine ⟨c, s ++ ',' :: writeItems (w :: items), ?_, hc⟩
          rw [writeItems, hs, List.cons_append]
          exact List.cons_ne_nil w items

/-- An array is read back if its elements are, one level deeper. -/
theorem readValue_arr {items : List Json} (hitems : ∀ v ∈ items, Exact depth v)
    (h : ∀ v ∈ items, ReadsBack depth v) (hfuel : 2 * (write (.arr items)).length ≤ fuel + 1) :
    readValue (fuel + 1) (depth + 1) (write (.arr items) ++ rest) = some (.arr items, rest) := by
  rw [write, List.length_append, List.length_cons, List.length_singleton] at hfuel
  rw [write, List.append_assoc, List.cons_append, List.singleton_append, readValue,
    skipSpace_cons rfl]
  by_cases hne : items = []
  · subst hne
    rfl
  · obtain ⟨c, s, hs, hc⟩ := exists_writeItems_eq_cons hne hitems
    have hread : readItems fuel depth (writeItems items ++ ']' :: rest) = some (items, rest) :=
      readItems_writeItems hne h (by omega)
    rw [hs, List.cons_append] at hread ⊢
    simp only [skipSpace_cons hc.isSpace_eq_false, Nat.add_one_ne_zero, Nat.add_sub_cancel, if_false]
    split
    · next heq => exact absurd (List.cons.inj heq).1 hc.2
    · rw [hread]
      rfl

theorem exists_writeFields_eq_cons {fields : List (String × Json)} (hne : fields ≠ []) :
    ∃ s, writeFields fields = '"' :: s := by
  cases fields with
  | nil => exact absurd rfl hne
  | cons f fields =>
      cases fields with
      | nil => exact ⟨_, rfl⟩
      | cons g fields => exact ⟨_, rfl⟩

/-- An object is read back if its values are, one level deeper. -/
theorem readValue_obj {fields : List (String × Json)} (h : ∀ f ∈ fields, ReadsBack depth f.2)
    (hfuel : 2 * (write (.obj fields)).length ≤ fuel + 1) :
    readValue (fuel + 1) (depth + 1) (write (.obj fields) ++ rest) = some (.obj fields, rest) := by
  rw [write, List.length_append, List.length_cons, List.length_singleton] at hfuel
  rw [write, List.append_assoc, List.cons_append, List.singleton_append, readValue,
    skipSpace_cons rfl]
  by_cases hne : fields = []
  · subst hne
    rfl
  · obtain ⟨s, hs⟩ := exists_writeFields_eq_cons hne
    have hread : readFields fuel depth (writeFields fields ++ '}' :: rest) = some (fields, rest) :=
      readFields_writeFields hne h (by omega)
    rw [hs, List.cons_append] at hread ⊢
    show (readFields fuel depth _).map _ = _
    rw [hread]
    rfl

theorem ReadsBack.of_succ {v : Json} (hv : Exact depth v)
    (h : ∀ {fuel : Nat} {rest : List Char}, 2 * (write v).length ≤ fuel + 1 → Follows rest →
      readValue (fuel + 1) depth (write v ++ rest) = some (v, rest)) : ReadsBack depth v := by
  intro fuel rest hfuel hrest
  obtain ⟨c, s, hs, -⟩ := hv.exists_write_eq_cons
  cases fuel with
  | zero =>
      rw [hs] at hfuel
      cases hfuel
  | succ fuel => exact h hfuel hrest

/-- **Values** are read back. -/
theorem Exact.readsBack {v : Json} (h : Exact depth v) : ReadsBack depth v := by
  induction h with
  | null => exact ReadsBack.of_succ .null fun _ _ => rfl
  | bool b =>
      cases b with
      | true => exact ReadsBack.of_succ (.bool true) fun _ _ => rfl
      | false => exact ReadsBack.of_succ (.bool false) fun _ _ => rfl
  | @int _ i hlow hhigh =>
      refine ReadsBack.of_succ (.int hlow hhigh) fun _ hrest => ?_
      obtain ⟨c, s, hs, hc⟩ := exists_toString_eq_cons i
      have hread := readNumber_toString hlow hhigh hrest
      rw [write]
      rw [hs, List.cons_append] at hread ⊢
      rw [readValue_number hc, hread]
  | str t =>
      refine ReadsBack.of_succ (.str t) fun _ _ => ?_
      rw [write, writeString_append, readValue, skipSpace_cons rfl]
      show (readString _).map _ = _
      rw [readString_flatMap]
      rfl
  | arr h ih => exact ReadsBack.of_succ (.arr h) fun hfuel _ => readValue_arr h ih hfuel
  | obj h ih => exact ReadsBack.of_succ (.obj h) fun hfuel _ => readValue_obj ih hfuel

theorem Exact.isBlankText_toText {v : Json} (h : Exact depth v) :
    Text.isBlankText v.toText = false := by
  obtain ⟨c, s, hs, hc⟩ := h.exists_write_eq_cons
  rw [Text.isBlankText, toText, String.toList_ofList, hs, List.all_cons, hc.1]
  rfl

/-- **The text of a value** is a document of the value. -/
theorem Exact.readDocument?_toText {v : Json} (h : Exact maxDepth v) :
    readDocument? v.toText = some v := by
  have hread := h.readsBack (Nat.le_add_right (2 * (write v).length) 2) follows_nil
  rw [List.append_nil] at hread
  simp only [readDocument?, toText, String.toList_ofList]
  rw [hread]
  rfl

end Gatehouse.Json
