import Gatehouse.Http.Query
import Gatehouse.Proofs.Text.Bytes

/-!
# Query strings read back

A query string is read by a function, `Query.parse`, and written in many ways: a byte of a key or
a value may be escaped or stand for itself, the digits of an escape are of either case, a space may
be a plus sign, and between the pairs there may be more ampersands than needed. So writing is a
relation:

    pairs    ("a b", "1&2")      ("é", "")       ("a b", "3")
    parts    a+b=1%262       ""  %c3%A9=     ""  a%20b=3
    query    a+b=1%262 & & %c3%A9= & & a%20b=3

`WritesByte` says how one byte is written, `WritesText` how a text is, by its bytes, `WritesPair`
how a pair is, and `WritesParts` which parts between ampersands stand for a list of pairs, the
empty ones for none. **However a list of pairs is written, it is read back**
(`parse_of_writes`): each key that is listed has the value of its first pair.
-/

namespace Gatehouse.Http.Query

open Text

/-! ## The written form -/

/-- A character that stands for itself. -/
def isUnreserved (c : Char) : Bool := c.isAlphanum || ['-', '_', '.', '~'].contains c

/-- A hexadecimal digit of either case. -/
inductive WritesDigit : Nat → Char → Prop
  | lower {n : Nat} (h : n < 16) : WritesDigit n (Nat.digitChar n)
  | upper {n : Nat} (h : n < 16) : WritesDigit n (Nat.digitChar n).toUpper

/-- What may be written for a byte. -/
inductive WritesByte : UInt8 → List Char → Prop
  | plain {c : Char} (h : isUnreserved c = true) : WritesByte (UInt8.ofNat c.toNat) [c]
  | escaped {b : UInt8} {x y : Char} (hx : WritesDigit (b.toNat / 16) x)
      (hy : WritesDigit (b.toNat % 16) y) : WritesByte b ['%', x, y]
  | plus : WritesByte 0x20 ['+']

/-- What may be written for some bytes, one after the other. -/
inductive WritesBytes : List UInt8 → List Char → Prop
  | nil : WritesBytes [] []
  | cons {b : UInt8} {bs : List UInt8} {s t : List Char} (hb : WritesByte b s)
      (hbs : WritesBytes bs t) : WritesBytes (b :: bs) (s ++ t)

/-- What may be written for a text. -/
def WritesText (t : String) (s : List Char) : Prop := WritesBytes (utf8 t.toList) s

/-- What may be written for a key with a value. -/
def WritesPair (p : String × String) (s : List Char) : Prop :=
  ∃ k v, WritesText p.1 k ∧ WritesText p.2 v ∧ s = k ++ '=' :: v

/-- What may be written between the ampersands for some pairs in order. -/
inductive WritesParts : List (String × String) → List (List Char) → Prop
  | nil : WritesParts [] []
  | gap {ps : List (String × String)} {parts : List (List Char)} (h : WritesParts ps parts) :
      WritesParts ps ([] :: parts)
  | pair {p : String × String} {ps : List (String × String)} {s : List Char}
      {parts : List (List Char)} (hp : WritesPair p s) (h : WritesParts ps parts) :
      WritesParts (p :: ps) (s :: parts)

/-- What may be written for some pairs in order. -/
def Writes (ps : List (String × String)) (query : String) : Prop :=
  ∃ parts, WritesParts ps parts ∧ query.toList = ['&'].intercalate parts

/-! ### Everything can be written -/

theorem exists_writesBytes (bs : List UInt8) : ∃ s, WritesBytes bs s := by
  induction bs with
  | nil => exact ⟨[], .nil⟩
  | cons b bs ih =>
      obtain ⟨s, hs⟩ := ih
      have hb : b.toNat < 256 := b.toNat_lt_size
      exact ⟨_, .cons (.escaped (.lower (by omega)) (.lower (by omega))) hs⟩

theorem exists_writesPair (p : String × String) : ∃ s, WritesPair p s := by
  obtain ⟨k, hk⟩ := exists_writesBytes (utf8 p.1.toList)
  obtain ⟨v, hv⟩ := exists_writesBytes (utf8 p.2.toList)
  exact ⟨_, k, v, hk, hv, rfl⟩

theorem exists_writes (ps : List (String × String)) : ∃ query, Writes ps query := by
  have hparts : ∃ parts, WritesParts ps parts := by
    induction ps with
    | nil => exact ⟨[], .nil⟩
    | cons p ps ih =>
        obtain ⟨parts, hparts⟩ := ih
        obtain ⟨s, hs⟩ := exists_writesPair p
        exact ⟨_, .pair hs hparts⟩
  obtain ⟨parts, hparts⟩ := hparts
  exact ⟨String.ofList (['&'].intercalate parts), parts, hparts, String.toList_ofList⟩

/-! ## Separators -/

theorem hexDigit?_of_writesDigit {n : Nat} {x : Char} (h : WritesDigit n x) :
    Json.hexDigit? x = some n := by
  have hupper : ∀ n : Fin 16, Json.hexDigit? (Nat.digitChar n).toUpper = some n.val := by decide
  cases h with
  | lower hn => exact Json.hexDigit?_digitChar hn
  | upper hn => exact hupper ⟨n, hn⟩

theorem isUnreserved_of_writesDigit {n : Nat} {x : Char} (h : WritesDigit n x) :
    isUnreserved x = true := by
  have hlower : ∀ n : Fin 16, isUnreserved (Nat.digitChar n) = true := by decide
  have hupper : ∀ n : Fin 16, isUnreserved (Nat.digitChar n).toUpper = true := by decide
  cases h with
  | lower hn => exact hlower ⟨n, hn⟩
  | upper hn => exact hupper ⟨n, hn⟩

theorem ne_of_isUnreserved {c d : Char} (hc : isUnreserved c = true)
    (hd : isUnreserved d = false) : c ≠ d := by
  rintro rfl
  rw [hc] at hd
  cases hd

/-- The characters that bytes are written with. -/
def isUsed (c : Char) : Bool := isUnreserved c || c = '%' || c = '+'

theorem isUsed_of_isUnreserved {c : Char} (h : isUnreserved c = true) : isUsed c = true := by
  rw [isUsed, h, Bool.true_or, Bool.true_or]

/-- Among the characters that bytes are written with are none that separate pairs. -/
theorem isUsed_of_writesByte {b : UInt8} {s : List Char} (h : WritesByte b s) :
    ∀ c ∈ s, isUsed c = true := by
  intro c hc
  cases h with
  | plain hplain =>
      rw [List.mem_singleton.1 hc]
      exact isUsed_of_isUnreserved hplain
  | escaped hx hy =>
      simp only [List.mem_cons, List.not_mem_nil, or_false] at hc
      rcases hc with rfl | rfl | rfl
      · decide
      · exact isUsed_of_isUnreserved (isUnreserved_of_writesDigit hx)
      · exact isUsed_of_isUnreserved (isUnreserved_of_writesDigit hy)
  | plus =>
      rw [List.mem_singleton.1 hc]
      decide

theorem isUsed_of_writesBytes {bs : List UInt8} {s : List Char} (h : WritesBytes bs s) :
    ∀ c ∈ s, isUsed c = true := by
  induction h with
  | nil => simp
  | cons hb _ ih =>
      intro c hc
      rcases List.mem_append.1 hc with hc | hc
      · exact isUsed_of_writesByte hb c hc
      · exact ih c hc

/-- Neither of the separators stands in a key or a value. -/
theorem not_mem_of_writesText {t : String} {s : List Char} (h : WritesText t s) {c : Char}
    (hc : isUsed c = false) : c ∉ s := by
  intro hmem
  rw [isUsed_of_writesBytes h c hmem] at hc
  cases hc

/-! ## Reading a key or a value -/

/-- A plus sign is a space, and all else is itself. -/
def spaced (s : List Char) : List Char := s.map fun c => if c = '+' then ' ' else c

@[simp] theorem spaced_append (s t : List Char) : spaced (s ++ t) = spaced s ++ spaced t :=
  List.map_append

theorem bytes_cons_of_ne {c : Char} (h : c ≠ '%') (r : List Char) :
    Percent.bytes (c :: r) = String.utf8EncodeChar c ++ Percent.bytes r := by
  rw [Percent.bytes]
  intro a b t hc
  exact absurd hc h

/-- Characters that stand for themselves are ASCII. -/
theorem val_le_of_isUnreserved {c : Char} (h : isUnreserved c = true) : c.val ≤ 127 := by
  rw [isUnreserved, Bool.or_eq_true, List.contains_iff_mem] at h
  rcases h with halnum | hmark
  · rcases Bool.or_eq_true_iff.1 halnum with hletter | hdigit
    · rcases Bool.or_eq_true_iff.1 hletter with hupper | hlower
      · have hle : 'A'.val ≤ c.val ∧ c.val ≤ 'Z'.val := of_decide_eq_true hupper
        exact UInt32.le_trans hle.2 (by decide)
      · have hle := (Bool.and_eq_true_iff.1 hlower).2
        exact UInt32.le_trans (of_decide_eq_true hle) (by decide)
    · have hle := (Bool.and_eq_true_iff.1 hdigit).2
      exact UInt32.le_trans (of_decide_eq_true hle) (by decide)
  · simp only [List.mem_cons, List.not_mem_nil, or_false] at hmark
    rcases hmark with rfl | rfl | rfl | rfl
    all_goals decide

theorem utf8EncodeChar_of_isUnreserved {c : Char} (h : isUnreserved c = true) :
    String.utf8EncodeChar c = [UInt8.ofNat c.toNat] :=
  String.utf8EncodeChar_eq_singleton (Char.utf8Size_eq_one_iff.2 (val_le_of_isUnreserved h))

/-- **One byte** is read back. -/
theorem bytes_of_writesByte {b : UInt8} {s : List Char} (h : WritesByte b s) (r : List Char) :
    Percent.bytes (spaced s ++ r) = b :: Percent.bytes r := by
  cases h with
  | @plain c hc =>
      have hplus : c ≠ '+' := ne_of_isUnreserved hc (by decide)
      have hpercent : c ≠ '%' := ne_of_isUnreserved hc (by decide)
      show Percent.bytes ((if c = '+' then ' ' else c) :: r) = _
      rw [if_neg hplus, bytes_cons_of_ne hpercent, utf8EncodeChar_of_isUnreserved hc]
      rfl
  | @escaped b x y hx hy =>
      have hx' : x ≠ '+' := ne_of_isUnreserved (isUnreserved_of_writesDigit hx) (by decide)
      have hy' : y ≠ '+' := ne_of_isUnreserved (isUnreserved_of_writesDigit hy) (by decide)
      have hspaced : spaced ['%', x, y] = ['%', x, y] := by simp [spaced, hx', hy']
      rw [hspaced]
      show Percent.bytes ('%' :: x :: y :: r) = _
      rw [Percent.bytes, hexDigit?_of_writesDigit hx, hexDigit?_of_writesDigit hy]
      show UInt8.ofNat (b.toNat / 16 * 16 + b.toNat % 16) :: _ = _
      rw [Nat.div_add_mod', UInt8.ofNat_toNat]
  | plus =>
      show Percent.bytes (' ' :: r) = _
      rw [bytes_cons_of_ne (by decide)]
      rfl

/-- Escapes, plain characters and plus signs stand for the bytes they were written for. -/
theorem bytes_of_writesBytes {bs : List UInt8} {s : List Char} (h : WritesBytes bs s) :
    Percent.bytes (spaced s) = bs := by
  induction h with
  | nil => rw [spaced, List.map_nil, Percent.bytes]
  | cons hb _ ih => rw [spaced_append, bytes_of_writesByte hb, ih]

theorem ofUtf8?_utf8 (t : String) : Percent.ofUtf8? (utf8 t.toList) = some t := by
  have hbytes : (⟨(utf8 t.toList).toArray⟩ : ByteArray) = t.toByteArray := by
    rw [← String.utf8Encode_toList, List.utf8Encode, utf8, ByteArray.ext_iff, List.data_toByteArray]
  rw [Percent.ofUtf8?, hbytes, String.fromUTF8?, dif_pos t.isValidUTF8]
  rfl

/-- **A key or a value** is read back. -/
theorem decodePart_of_writesText {t : String} {s : List Char} (h : WritesText t s) :
    decodePart s = t := by
  show (Percent.decode? (spaced s)).getD _ = t
  rw [Percent.decode?, bytes_of_writesBytes h, ofUtf8?_utf8, Option.getD_some]

/-! ## Reading pairs -/

/-- A pair is read back as it was meant, in whatever way it was written. -/
theorem decodePair_of_writesPair {p : String × String} {s : List Char} (h : WritesPair p s) :
    decodePair s = p := by
  obtain ⟨k, v, hk, hv, rfl⟩ := h
  rw [decodePair, cut?_append (not_mem_of_writesText hk (by decide))]
  show (decodePart k, decodePart v) = p
  rw [decodePart_of_writesText hk, decodePart_of_writesText hv]

theorem ne_nil_of_writesPair {p : String × String} {s : List Char} (h : WritesPair p s) :
    s ≠ [] := by
  obtain ⟨k, v, -, -, rfl⟩ := h
  simp

/-- No pair contains what separates pairs. -/
theorem ampersand_not_mem_of_writesPair {p : String × String} {s : List Char}
    (h : WritesPair p s) : '&' ∉ s := by
  obtain ⟨k, v, hk, hv, rfl⟩ := h
  have hk' : '&' ∉ k := not_mem_of_writesText hk (by decide)
  have hv' : '&' ∉ v := not_mem_of_writesText hv (by decide)
  simp [hk', hv']

theorem ampersand_not_mem_of_writesParts {ps : List (String × String)} {parts : List (List Char)}
    (h : WritesParts ps parts) : ∀ s ∈ parts, '&' ∉ s := by
  induction h with
  | nil => simp
  | gap _ ih => exact List.forall_mem_cons.2 ⟨List.not_mem_nil, ih⟩
  | pair hp _ ih => exact List.forall_mem_cons.2 ⟨ampersand_not_mem_of_writesPair hp, ih⟩

/-- The parts that are not empty are read as the pairs. -/
theorem decode_of_writesParts {ps : List (String × String)} {parts : List (List Char)}
    (h : WritesParts ps parts) : (parts.filter (!·.isEmpty)).map decodePair = ps := by
  induction h with
  | nil => rfl
  | gap _ ih => exact ih
  | pair hp _ ih =>
      rw [List.filter_cons_of_pos (by simpa using ne_nil_of_writesPair hp), List.map_cons, ih,
        decodePair_of_writesPair hp]

/-- The parts of a query are the pairs that were written, in order. -/
theorem pairs_of_writes {ps : List (String × String)} {query : String} (h : Writes ps query) :
    pairs query = ps := by
  obtain ⟨parts, hparts, hquery⟩ := h
  rw [pairs, hquery]
  cases hnil : parts with
  | nil =>
      rw [hnil] at hparts
      cases hparts
      rfl
  | cons s rest =>
      rw [← hnil, List.splitOn_intercalate '&' (ampersand_not_mem_of_writesParts hparts)
        (by simp [hnil]), decode_of_writesParts hparts]

/-! ### First values -/

theorem ordered_firstOfEach (ps : List (String × String)) : Keyed.Ordered (firstOfEach ps) := by
  induction ps with
  | nil => exact Keyed.ordered_nil
  | cons p ps ih => exact ih.put p.1 p.2

/-- Of repeated keys the first one counts. -/
theorem lookup_firstOfEach (ps : List (String × String)) (k : String) :
    (firstOfEach ps).lookup k = ps.lookup k := by
  induction ps with
  | nil => rfl
  | cons p ps ih =>
      obtain ⟨k', v⟩ := p
      show (Keyed.put k' v (firstOfEach ps)).lookup k = _
      rw [Keyed.lookup_put, ih, List.lookup_cons]
      by_cases hk : k = k'
      · simp [hk]
      · simp [hk, beq_false_of_ne hk]

/-- **Query strings**: every list of pairs can be written, and however it is written, it is read
back as the keys that are listed, each with the value of its first pair. -/
theorem parse_of_writes (ps : List (String × String)) :
    (∃ query, Writes ps query) ∧
      ∀ query, Writes ps query → Keyed.Ordered (parse query) ∧
        ∀ k v, (k, v) ∈ parse query ↔ ps.lookup k = some v := by
  refine ⟨exists_writes ps, ?_⟩
  intro query hquery
  rw [parse, pairs_of_writes hquery]
  refine ⟨ordered_firstOfEach ps, ?_⟩
  intro k v
  rw [← Keyed.lookup_eq_some_iff (ordered_firstOfEach ps), lookup_firstOfEach]

/-- Two pairs with one key, written in two ways. -/
def accented : List (String × String) := [("é", "1&2"), ("é", " ")]

theorem writes_accented : Writes accented "%c3%A9=1%262&&%C3%a9=+" := by
  have hkey : WritesText "é" ['%', 'c', '3', '%', 'A', '9'] :=
    .cons (b := 0xC3) (.escaped (.lower (by decide)) (.lower (by decide))) <|
      .cons (b := 0xA9) (.escaped (.upper (by decide)) (.lower (by decide))) .nil
  have hkey' : WritesText "é" ['%', 'C', '3', '%', 'a', '9'] :=
    .cons (b := 0xC3) (.escaped (.upper (by decide)) (.lower (by decide))) <|
      .cons (b := 0xA9) (.escaped (.lower (by decide)) (.lower (by decide))) .nil
  have hvalue : WritesText "1&2" ['1', '%', '2', '6', '2'] :=
    .cons (.plain (c := '1') (by decide)) <|
      .cons (b := 0x26) (.escaped (.lower (by decide)) (.lower (by decide))) <|
        .cons (.plain (c := '2') (by decide)) .nil
  have hvalue' : WritesText " " ['+'] := .cons .plus .nil
  exact ⟨_, .pair ⟨_, _, hkey, hvalue, rfl⟩ (.gap (.pair ⟨_, _, hkey', hvalue', rfl⟩ .nil)),
    by decide⟩

/-- The first value counts. -/
theorem parse_of_writes_accented : Writes accented "%c3%A9=1%262&&%C3%a9=+" ∧
    ("é", "1&2") ∈ parse "%c3%A9=1%262&&%C3%a9=+" := by
  have hfirst := ((parse_of_writes accented).2 _ writes_accented).2 "é" "1&2"
  exact ⟨writes_accented, hfirst.2 (by decide)⟩

end Gatehouse.Http.Query
