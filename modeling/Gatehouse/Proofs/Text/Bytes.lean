import Gatehouse.Match.Glob

/-!
# Texts as bytes

Globs are compared with the bytes of a text. What they find there is said of characters, and for
that one needs to know how characters lie in the bytes.

    characters   a    é         /    …
    bytes        61   C3   A9   2F   …
    heads        ↑    ↑         ↑

The bytes of one character are never the beginning of those of another (`utf8EncodeChar_append_inj`),
only the first of them can be the first of a character (`exists_utf8EncodeChar_eq_cons`), and a
slash among the bytes is a slash in the text (`utf8_eq_append_slash_iff`).
-/

namespace Gatehouse.Text

open Match.Glob (slash)

variable {c d : Char} {s t : List Char} {a b : List UInt8}

/-! ## One character -/

/-- Characters are told apart by their first bytes, so the encoding can be cut again. -/
theorem utf8EncodeChar_append_inj
    (h : String.utf8EncodeChar c ++ a = String.utf8EncodeChar d ++ b) : c = d ∧ a = b := by
  have hcd : c = d := by
    have hdecode := congrArg (fun bs => bs.toByteArray.utf8DecodeChar? 0) h
    simp only [List.toByteArray_append, ByteArray.utf8DecodeChar?_utf8EncodeChar_append] at hdecode
    exact Option.some.inj hdecode
  subst hcd
  exact ⟨rfl, List.append_cancel_left h⟩

/-- The first byte of a character, with what follows it. -/
theorem exists_utf8EncodeChar_eq_cons (c : Char) : ∃ head tail,
    String.utf8EncodeChar c = head :: tail ∧ head.IsUTF8FirstByte ∧
      ∀ x ∈ tail, ¬ x.IsUTF8FirstByte := by
  obtain ⟨head, tail, hc⟩ := List.exists_cons_of_ne_nil (String.utf8EncodeChar_ne_nil (c := c))
  -- a byte is a first one exactly at the first place
  have hplace : ∀ i (hi : i < (head :: tail).length),
      (head :: tail)[i].IsUTF8FirstByte ↔ i = 0 := by
    simp only [← hc]
    exact fun i hi => UInt8.isUTF8FirstByte_getElem_utf8EncodeChar
  refine ⟨head, tail, hc, (hplace 0 (Nat.succ_pos _)).2 rfl, fun x hx => ?_⟩
  obtain ⟨i, hi, rfl⟩ := List.mem_iff_getElem.1 hx
  exact fun hfirst => Nat.succ_ne_zero i ((hplace (i + 1) (Nat.succ_lt_succ hi)).1 hfirst)

theorem slash_isUTF8FirstByte : slash.IsUTF8FirstByte := by decide

theorem utf8EncodeChar_slash : String.utf8EncodeChar '/' = [slash] := by decide

theorem slash_mem_utf8EncodeChar : slash ∈ String.utf8EncodeChar c ↔ c = '/' := by
  constructor
  · intro h
    obtain ⟨head, tail, hc, -, htail⟩ := exists_utf8EncodeChar_eq_cons c
    rw [hc] at h
    rcases List.mem_cons.1 h with rfl | hmem
    · have happend : String.utf8EncodeChar c ++ [] = String.utf8EncodeChar '/' ++ tail := by
        rw [hc, utf8EncodeChar_slash, List.append_nil]
        rfl
      exact (utf8EncodeChar_append_inj happend).1
    · exact absurd slash_isUTF8FirstByte (htail slash hmem)
  · rintro rfl
    rw [utf8EncodeChar_slash]
    exact List.mem_singleton_self slash

/-! ## A text -/

def utf8 (s : List Char) : List UInt8 := s.flatMap String.utf8EncodeChar

@[simp]
theorem utf8_nil : utf8 [] = [] := rfl

@[simp]
theorem utf8_cons : utf8 (c :: s) = String.utf8EncodeChar c ++ utf8 s := List.flatMap_cons

@[simp]
theorem utf8_append : utf8 (s ++ t) = utf8 s ++ utf8 t := List.flatMap_append

theorem utf8_eq_nil_iff : utf8 s = [] ↔ s = [] := by
  cases s with
  | nil => simp
  | cons c s => simp [String.utf8EncodeChar_ne_nil]

/-- A slash among the bytes is a slash in the text: no other character has that byte. -/
theorem slash_mem_utf8 : slash ∈ utf8 s ↔ '/' ∈ s := by
  simp [utf8, List.mem_flatMap, slash_mem_utf8EncodeChar]

/-- **A slash among the bytes** is a slash in the text. -/
theorem utf8_eq_append_slash_iff : utf8 s = a ++ slash :: b ↔
    ∃ before after, s = before ++ '/' :: after ∧ utf8 before = a ∧ utf8 after = b := by
  constructor
  · intro h
    induction s generalizing a with
    | nil => simp at h
    | cons c s ih =>
        rw [utf8_cons] at h
        rcases List.append_eq_append_iff.1 h with ⟨rest, rfl, hrest⟩ | ⟨rest, hc, hrest⟩
        · -- the slash stands behind the bytes of the first character
          obtain ⟨before, after, rfl, rfl, rfl⟩ := ih hrest
          exact ⟨c :: before, after, rfl, rfl, rfl⟩
        · cases rest with
          | nil =>
              obtain ⟨before, after, rfl, hbefore, rfl⟩ := ih (a := []) hrest.symm
              refine ⟨c :: before, after, rfl, ?_, rfl⟩
              rw [utf8_cons, hbefore, hc, List.append_nil, List.append_nil]
          | cons x rest =>
              obtain ⟨rfl, rfl⟩ := List.cons.inj hrest
              have hslash : c = '/' := slash_mem_utf8EncodeChar.1 (by rw [hc]; simp)
              subst hslash
              rw [utf8EncodeChar_slash] at hc
              cases a with
              | nil =>
                  obtain ⟨-, rfl⟩ := List.cons.inj hc
                  exact ⟨[], s, rfl, rfl, rfl⟩
              | cons y a => simp at hc
  · rintro ⟨before, after, rfl, rfl, rfl⟩
    simp [utf8EncodeChar_slash]

end Gatehouse.Text
