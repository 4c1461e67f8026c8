import Gatehouse.Proofs.Text.Bytes

/-!
# What globs stand for

A glob spells a sequence of bytes if the sequence falls into parts, one for each token of the glob,
that the tokens take (`Spells`).

    token      `a`    `*`               `**/`                  `/**`          `/**/`
    takes      `a`    no slash in it    nothing, or …`/`       `/`…           `/`, or `/`…`/`

A glob accepts exactly what it spells (`accepts_iff_spells`), with one exception: `**` alone accepts
everything. Whatever a glob spells, the glob with `/**` behind it spells with a slash and anything
behind it, and nothing else (`spells_concat_trailing`).
-/

namespace Gatehouse.Match

open Text

/-- The bytes that a token takes. -/
def GlobToken.Takes : GlobToken → List UInt8 → Prop
  | .literal c, a => a = String.utf8EncodeChar c
  | .any, a => ∃ b, a = [b] ∧ b ≠ Glob.slash
  | .anyRun, a => Glob.slash ∉ a
  | .leadingSegments, a => a = [] ∨ ∃ r, a = r ++ [Glob.slash]
  | .trailingSegments, a => ∃ r, a = Glob.slash :: r
  | .innerSegments, a => a = [Glob.slash] ∨ ∃ r, a = Glob.slash :: r ++ [Glob.slash]
  | .oneOf negated ranges, a => ∃ b, a = [b] ∧ (ranges.any (Glob.inRange b) != negated) = true

namespace Glob

/-- A sequence of bytes falls into parts that the tokens of a glob take. -/
inductive Spells : Glob → List UInt8 → Prop
  | nil : Spells [] []
  | cons {t : GlobToken} {g : Glob} {a b : List UInt8} :
      t.Takes a → Spells g b → Spells (t :: g) (a ++ b)

variable {t : GlobToken} {g h : Glob} {s a b : List UInt8}

theorem spells_nil : Spells [] s ↔ s = [] := by
  constructor
  · rintro ⟨⟩
    rfl
  · rintro rfl
    exact .nil

theorem spells_cons : Spells (t :: g) s ↔ ∃ a b, s = a ++ b ∧ t.Takes a ∧ Spells g b := by
  constructor
  · rintro (_ | ⟨ha, hb⟩)
    exact ⟨_, _, rfl, ha, hb⟩
  · rintro ⟨a, b, rfl, ha, hb⟩
    exact .cons ha hb

theorem spells_singleton : Spells [t] s ↔ t.Takes s := by
  simp [spells_cons, spells_nil]

/-- A text is spelled by two patterns exactly if it can be cut between them. -/
theorem spells_append : Spells (g ++ h) s ↔ ∃ a b, s = a ++ b ∧ Spells g a ∧ Spells h b := by
  induction g generalizing s with
  | nil =>
      simp only [List.nil_append, spells_nil]
      exact ⟨fun h => ⟨[], s, rfl, rfl, h⟩, by rintro ⟨a, b, rfl, rfl, h⟩; exact h⟩
  | cons t g ih =>
      rw [List.cons_append, spells_cons]
      constructor
      · rintro ⟨a, r, rfl, ha, hr⟩
        obtain ⟨b, c, rfl, hb, hc⟩ := ih.1 hr
        exact ⟨a ++ b, c, (List.append_assoc a b c).symm, .cons ha hb, hc⟩
      · rintro ⟨r, c, rfl, hr, hc⟩
        obtain ⟨a, b, rfl, ha, hb⟩ := spells_cons.1 hr
        exact ⟨a, b ++ c, List.append_assoc a b c, ha, ih.2 ⟨b, c, rfl, hb, hc⟩⟩

/-- **With `/**` behind it** a glob also takes a slash and anything. -/
theorem spells_concat_trailing : Spells (g ++ [.trailingSegments]) s ↔
    ∃ a r, s = a ++ slash :: r ∧ Spells g a := by
  rw [spells_append]
  constructor
  · rintro ⟨a, b, rfl, ha, hb⟩
    obtain ⟨r, rfl⟩ := spells_singleton.1 hb
    exact ⟨a, r, rfl, ha⟩
  · rintro ⟨a, r, rfl, ha⟩
    exact ⟨a, slash :: r, rfl, ha, spells_singleton.2 ⟨r, rfl⟩⟩

/-! ## What the matcher looks at -/

/-- A run leaves what stands behind some bytes that are no slashes. -/
theorem mem_afterRun : b ∈ afterRun s ↔ ∃ a, s = a ++ b ∧ slash ∉ a := by
  induction s with
  | nil =>
      rw [afterRun, List.mem_singleton]
      constructor
      · rintro rfl
        exact ⟨[], rfl, List.not_mem_nil⟩
      · rintro ⟨a, hab, -⟩
        exact (List.append_eq_nil_iff.1 hab.symm).2
  | cons x s ih =>
      rw [afterRun, List.mem_cons]
      constructor
      · rintro (rfl | hmem)
        · exact ⟨[], rfl, List.not_mem_nil⟩
        · split at hmem
          · cases hmem
          · next hx =>
            obtain ⟨a, rfl, ha⟩ := ih.1 hmem
            exact ⟨x :: a, rfl, by simp [Ne.symm hx, ha]⟩
      · rintro ⟨a, hab, ha⟩
        cases a with
        | nil => exact Or.inl hab.symm
        | cons y a =>
            obtain ⟨rfl, rfl⟩ := List.cons.inj hab
            obtain ⟨hy, ha⟩ := List.ne_and_not_mem_of_not_mem_cons ha
            exact Or.inr (by rw [if_neg (Ne.symm hy)]; exact ih.2 ⟨a, rfl, ha⟩)

theorem mem_afterSlashes : b ∈ afterSlashes s ↔ slash :: b <:+ s := by
  induction s with
  | nil => simp [afterSlashes]
  | cons x s ih =>
      rw [List.suffix_cons_iff, afterSlashes, List.cons.injEq, ← ih]
      split
      · next hx => simp [hx]
      · next hx => simp [Ne.symm hx]

theorem mem_suffixes : b ∈ suffixes s ↔ b <:+ s := by
  induction s with
  | nil => simp [suffixes]
  | cons x s ih => rw [List.suffix_cons_iff, suffixes, List.mem_cons, ih]

/-! ## Accepting is spelling -/

/-- What a glob accepts falls into what its first token takes and what the rest accepts. -/
theorem accepts_cons (hg : t = .leadingSegments → g ≠ []) :
    accepts (t :: g) s = true ↔ ∃ a b, s = a ++ b ∧ t.Takes a ∧ accepts g b = true := by
  -- a token takes either what stands first or one of several beginnings
  cases t with
  | literal c =>
      rw [accepts]
      constructor
      · intro h
        cases hafter : after? (String.utf8EncodeChar c) s with
        | some r =>
            rw [hafter] at h
            exact ⟨_, r, after?_eq_some_iff.1 hafter, rfl, h⟩
        | none =>
            rw [hafter] at h
            cases h
      · rintro ⟨a, b, rfl, rfl, hb⟩
        rw [after?_eq_some_iff.2 rfl]
        exact hb
  | any =>
      constructor
      · intro h
        cases s with
        | nil => cases h
        | cons x s =>
            rw [accepts, Bool.and_eq_true, bne_iff_ne] at h
            exact ⟨[x], s, rfl, ⟨x, rfl, h.1⟩, h.2⟩
      · rintro ⟨_, b, rfl, ⟨x, rfl, hx⟩, hb⟩
        exact Bool.and_eq_true_iff.2 ⟨bne_iff_ne.2 hx, hb⟩
  | anyRun =>
      simp only [accepts, List.any_eq_true, mem_afterRun]
      constructor
      · rintro ⟨b, ⟨a, rfl, ha⟩, hb⟩
        exact ⟨a, b, rfl, ha, hb⟩
      · rintro ⟨a, b, rfl, ha, hb⟩
        exact ⟨b, ⟨a, rfl, ha⟩, hb⟩
  | leadingSegments =>
      simp only [accepts, List.isEmpty_iff, if_neg (hg rfl), Bool.or_eq_true, List.any_eq_true,
        mem_afterSlashes]
      constructor
      · rintro (h | ⟨b, ⟨r, rfl⟩, hb⟩)
        · exact ⟨[], s, rfl, Or.inl rfl, h⟩
        · exact ⟨r ++ [slash], b, by simp, Or.inr ⟨r, rfl⟩, hb⟩
      · rintro ⟨_, b, rfl, rfl | ⟨r, rfl⟩, hb⟩
        · exact Or.inl hb
        · exact Or.inr ⟨b, ⟨r, by simp⟩, hb⟩
  | trailingSegments =>
      constructor
      · intro h
        cases s with
        | nil => cases h
        | cons x s =>
            simp only [accepts, Bool.and_eq_true, beq_iff_eq, List.any_eq_true, mem_suffixes] at h
            obtain ⟨rfl, b, ⟨r, rfl⟩, hb⟩ := h
            exact ⟨slash :: r, b, rfl, ⟨r, rfl⟩, hb⟩
      · rintro ⟨_, b, rfl, ⟨r, rfl⟩, hb⟩
        simp only [List.cons_append, accepts, Bool.and_eq_true, beq_iff_eq, List.any_eq_true,
          mem_suffixes]
        exact ⟨trivial, b, ⟨r, rfl⟩, hb⟩
  | innerSegments =>
      constructor
      · intro h
        cases s with
        | nil => cases h
        | cons x s =>
            simp only [accepts, Bool.and_eq_true, beq_iff_eq, Bool.or_eq_true, List.any_eq_true,
              mem_afterSlashes] at h
            obtain ⟨rfl, h | ⟨b, ⟨r, rfl⟩, hb⟩⟩ := h
            · exact ⟨[slash], s, rfl, Or.inl rfl, h⟩
            · exact ⟨slash :: r ++ [slash], b, by simp, Or.inr ⟨r, rfl⟩, hb⟩
      · rintro ⟨_, b, rfl, rfl | ⟨r, rfl⟩, hb⟩
        · simp [accepts, hb]
        · simp only [List.cons_append, List.append_assoc, List.nil_append, accepts,
            Bool.and_eq_true, beq_iff_eq, Bool.or_eq_true, List.any_eq_true, mem_afterSlashes]
          exact ⟨trivial, Or.inr ⟨b, ⟨r, rfl⟩, hb⟩⟩
  | oneOf negated ranges =>
      constructor
      · intro h
        cases s with
        | nil => cases h
        | cons x s =>
            rw [accepts, Bool.and_eq_true] at h
            exact ⟨[x], s, rfl, ⟨x, rfl, h.1⟩, h.2⟩
      · rintro ⟨_, b, rfl, ⟨x, rfl, hx⟩, hb⟩
        exact Bool.and_eq_true_iff.2 ⟨hx, hb⟩

/-- **A glob accepts what it spells**, and nothing else, unless it ends in `**` for all that leads to
a path. -/
theorem accepts_iff_spells (hg : g.getLast? ≠ some .leadingSegments) :
    accepts g s = true ↔ Spells g s := by
  induction g generalizing s with
  | nil => rw [accepts, List.isEmpty_iff, spells_nil]
  | cons t g ih =>
      -- what is left of the glob after one token ends as the glob does
      have hrest : g.getLast? ≠ some .leadingSegments := fun hlast => hg <| by
        rw [List.getLast?_cons, hlast]
        rfl
      have hcons : t = .leadingSegments → g ≠ [] := by
        rintro rfl rfl
        exact hg rfl
      simp only [accepts_cons hcons, spells_cons, ih hrest]

/-- What a glob spells it accepts, however it ends. -/
theorem accepts_of_spells (h : Spells g s) : accepts g s = true := by
  induction h with
  | nil => rfl
  | @cons t g a b ha hb ih =>
      by_cases hcons : t = .leadingSegments ∧ g = []
      · obtain ⟨rfl, rfl⟩ := hcons
        rfl
      · exact (accepts_cons fun ht hg => hcons ⟨ht, hg⟩).2 ⟨a, b, rfl, ha, ih⟩

/-- A glob matches a text if it spells its bytes; a leading `**` at its end is no case of this. -/
theorem isMatch_iff_spells (hg : g.getLast? ≠ some .leadingSegments) {x : String} :
    g.isMatch x = true ↔ Spells g (utf8 x.toList) := accepts_iff_spells hg

/-! ## Characters

A run takes bytes, so it may end inside a character. In a glob of characters and runs alone this
makes no difference: what follows in the glob can take the rest of that character only by runs. -/

theorem spells_literal_utf8 {c : Char} {x : List Char} :
    Spells (.literal c :: g) (utf8 x) ↔ ∃ y, x = c :: y ∧ Spells g (utf8 y) := by
  rw [spells_cons]
  constructor
  · rintro ⟨_, b, hx, rfl, hb⟩
    cases x with
    | nil => exact absurd (List.append_eq_nil_iff.1 hx.symm).1 String.utf8EncodeChar_ne_nil
    | cons d x =>
        obtain ⟨rfl, rfl⟩ := utf8EncodeChar_append_inj (by simpa using hx)
        exact ⟨x, rfl, hb⟩
  · rintro ⟨y, rfl, hy⟩
    exact ⟨_, _, utf8_cons, rfl, hy⟩

theorem spells_literals_utf8 {p x : List Char} :
    Spells (p.map .literal) (utf8 x) ↔ x = p := by
  induction p generalizing x with
  | nil => rw [List.map_nil, spells_nil, utf8_eq_nil_iff]
  | cons c p ih => simp [spells_literal_utf8, ih]

/-- A trailing `/**` takes one slash and whatever is behind it. -/
theorem spells_concat_trailing_utf8 {x : List Char} :
    Spells (g ++ [.trailingSegments]) (utf8 x) ↔
      ∃ y z, x = y ++ '/' :: z ∧ Spells g (utf8 y) := by
  simp only [spells_concat_trailing, utf8_eq_append_slash_iff]
  constructor
  · rintro ⟨_, _, ⟨y, z, rfl, rfl, rfl⟩, hy⟩
    exact ⟨y, z, rfl, hy⟩
  · rintro ⟨y, z, rfl, hy⟩
    exact ⟨_, _, ⟨y, z, rfl, rfl, rfl⟩, hy⟩

/-- A glob of characters and runs. -/
def Plain (g : Glob) : Prop := ∀ t ∈ g, t = .anyRun ∨ ∃ c, t = .literal c

theorem Plain.tail (h : Plain (t :: g)) : Plain g := fun u hu => h u (List.mem_cons_of_mem t hu)

/-- A run of stars may take nothing at all. -/
theorem spells_anyRun_cons (h : Spells g s) : Spells (.anyRun :: g) s :=
  spells_cons.2 ⟨[], s, rfl, List.not_mem_nil, h⟩

/-- What does not begin a character is taken by a run. -/
theorem spells_anyRun_of_append (hg : Plain g) (ha : ∀ x ∈ a, ¬ x.IsUTF8FirstByte)
    (h : Spells g (a ++ b)) : Spells (.anyRun :: g) b := by
  induction g generalizing a with
  | nil =>
      obtain ⟨-, rfl⟩ := List.append_eq_nil_iff.1 (spells_nil.1 h)
      exact spells_anyRun_cons .nil
  | cons t g ih =>
      obtain ⟨a', b', hab, ht, hb'⟩ := spells_cons.1 h
      rcases hg t List.mem_cons_self with rfl | ⟨c, rfl⟩
      · rcases List.append_eq_append_iff.1 hab with ⟨r, rfl, rfl⟩ | ⟨r, rfl, rfl⟩
        · have hr : slash ∉ r := fun hr => ht (List.mem_append_right a hr)
          exact spells_anyRun_cons (spells_cons.2 ⟨r, b', rfl, hr, hb'⟩)
        · have hb := ih hg.tail (fun x hx => ha x (List.mem_append_right a' hx)) hb'
          exact spells_anyRun_cons hb
      · cases a with
        | nil => exact spells_anyRun_cons h
        | cons x a =>
            -- a character begins with a first byte
            obtain rfl : a' = String.utf8EncodeChar c := ht
            obtain ⟨head, tail, hc, hhead, -⟩ := exists_utf8EncodeChar_eq_cons c
            rw [hc] at hab
            obtain ⟨rfl, -⟩ := List.cons.inj hab
            exact absurd hhead (ha x List.mem_cons_self)

/-- **A run of a text** that is spelled ends where a character ends. -/
theorem spells_anyRun_utf8 (hg : Plain g) {x : List Char} :
    Spells (.anyRun :: g) (utf8 x) ↔ ∃ y z, x = y ++ z ∧ '/' ∉ y ∧ Spells g (utf8 z) := by
  constructor
  · intro h
    induction x with
    | nil =>
        obtain ⟨a, b, hab, -, hb⟩ := spells_cons.1 h
        obtain ⟨-, rfl⟩ := List.append_eq_nil_iff.1 hab.symm
        exact ⟨[], [], rfl, List.not_mem_nil, hb⟩
    | cons c x ih =>
        -- unless the run is empty, a longer one begins behind the first character
        have hlonger : c ≠ '/' → Spells (.anyRun :: g) (utf8 x) →
            ∃ y z, c :: x = y ++ z ∧ '/' ∉ y ∧ Spells g (utf8 z) := by
          intro hc h
          obtain ⟨y, z, rfl, hy, hz⟩ := ih h
          exact ⟨c :: y, z, rfl, by simp [hy, Ne.symm hc], hz⟩
        obtain ⟨a, b, hab, ha, hb⟩ := spells_cons.1 h
        rw [utf8_cons] at hab
        rcases List.append_eq_append_iff.1 hab with ⟨r, rfl, hr⟩ | ⟨r, hc, rfl⟩
        · refine hlonger (fun hc => ha ?_) (spells_cons.2 ⟨r, b, hr, fun hr => ha ?_, hb⟩)
          · exact List.mem_append_left r (slash_mem_utf8EncodeChar.2 hc)
          · exact List.mem_append_right _ hr
        · cases a with
          | nil => exact ⟨[], c :: x, rfl, List.not_mem_nil, by rwa [utf8_cons, hc]⟩
          | cons head a =>
              obtain ⟨head', tail, hcons, -, htail⟩ := exists_utf8EncodeChar_eq_cons c
              obtain ⟨rfl, rfl⟩ := List.cons.inj (hcons.symm.trans hc)
              refine hlonger ?_ (spells_anyRun_of_append hg
                (fun x hx => htail x (List.mem_append_right a hx)) hb)
              rintro rfl
              obtain ⟨rfl, -⟩ := List.cons.inj (utf8EncodeChar_slash.symm.trans hc)
              exact ha List.mem_cons_self
  · rintro ⟨y, z, rfl, hy, hz⟩
    rw [utf8_append]
    exact .cons (fun h => hy (slash_mem_utf8.1 h)) hz

end Glob

end Gatehouse.Match
