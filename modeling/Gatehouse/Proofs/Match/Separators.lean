import Gatehouse.Proofs.Match.Paths
import Mathlib.Algebra.Ring.Nat

/-!
# The slashes of what a pattern matches

Wildcards are meant to stay inside a segment, so that whatever a pattern matches has as many slashes
as the pattern. Two wildcards that are a segment together do not stay inside: they are read as `**`.

    pattern    `/a/{x}{y}`        read as    `/a/**`
    matches    `/a/b/c/d`, `/a/`, `/a`

Wherever such a segment stands, the pattern matches a text with more slashes than it has itself: the
one with a slash for each double segment and nothing for the other wildcards (`exists_reads_fill`).
-/

namespace Gatehouse.Match

open Text

namespace Segment

/-- A text for a segment: a slash for two wildcards, otherwise the letters. -/
def fill (s : Segment) : List Char := if s.IsDouble then ['/'] else s.letters

theorem slash_not_mem_text (s : Segment) : '/' ∉ s.text := by
  intro h
  obtain ⟨w, -, hw⟩ := List.mem_flatMap.1 h
  cases w with
  | letter c => exact c.2.1 (List.mem_singleton.1 hw).symm
  | star => exact absurd hw (by decide)
  | named name => simp [Piece.text, name.2.1] at hw

/-- A segment matches itself, with its wildcards taken as nothing. -/
theorem spells_tokens_letters (s : Segment) : Glob.Spells s.tokens (utf8 s.letters) := by
  have hplain : Glob.Plain [] := fun t ht => absurd ht List.not_mem_nil
  rw [← List.append_nil s.tokens]
  exact (spells_tokens_append hplain).2 ⟨_, [], (List.append_nil _).symm, s.fits_letters, .nil⟩

end Segment

namespace Glob

open GlobToken

/-- A token that may stand at a slash. -/
def AtSlash (t : GlobToken) : Prop := t = leadingSegments ∨ t = literal '/' ∨ t = innerSegments

variable {last : GlobToken} {kept : List GlobToken} {a : List UInt8}

theorem AtSlash.widen (h : AtSlash last) : AtSlash (widen innerSegments last) := by
  rcases h with rfl | rfl | rfl
  · exact Or.inl rfl
  · exact Or.inr (Or.inr rfl)
  · exact Or.inr (Or.inr rfl)

/-- What a token takes up to a slash, the wider token takes with two more slashes. -/
theorem AtSlash.takes_inner (h : AtSlash last) (ha : last.Takes a) :
    (Glob.widen innerSegments last).Takes (a ++ [slash, slash]) := by
  rcases h with rfl | rfl | rfl
  · exact Or.inr ⟨a ++ [slash], by simp⟩
  · obtain rfl : a = [slash] := ha.trans utf8EncodeChar_slash
    exact Or.inr ⟨[slash], rfl⟩
  · rcases ha with rfl | ⟨r, rfl⟩
    · exact Or.inr ⟨[slash], rfl⟩
    · exact Or.inr ⟨r ++ [slash, slash], by simp⟩

theorem AtSlash.takes_trailing (h : AtSlash last) (ha : last.Takes a) :
    (Glob.widen trailingSegments last).Takes (a ++ [slash]) := by
  rcases h with rfl | rfl | rfl
  · exact Or.inr ⟨a, rfl⟩
  · obtain rfl : a = [slash] := ha.trans utf8EncodeChar_slash
    exact ⟨[slash], rfl⟩
  · rcases ha with rfl | ⟨r, rfl⟩
    · exact ⟨[slash], rfl⟩
    · exact ⟨r ++ [slash, slash], by simp⟩

/-- A segment starts here, and the tokens so far spell these bytes. -/
inductive Started : Option Char → List GlobToken → List UInt8 → Prop
  | first : Started none [] []
  | later {last : GlobToken} {kept : List GlobToken} {a : List UInt8} :
      AtSlash last → Spells (last :: kept).reverse a → Started (some '/') (last :: kept) a

theorem Started.spells {before : Option Char} {out : List GlobToken} (h : Started before out a) :
    Spells out.reverse a := by
  cases h with
  | first => exact .nil
  | later _ ha => exact ha

/-- The last token gives way to one that takes more. -/
theorem spells_concat_of_takes {t : GlobToken} {b : List UInt8} (h : Spells (last :: kept).reverse a)
    (ht : ∀ v, last.Takes v → t.Takes (v ++ b)) : Spells (t :: kept).reverse (a ++ b) := by
  rw [List.reverse_cons] at h ⊢
  obtain ⟨u, v, rfl, hu, hv⟩ := spells_append.1 h
  rw [List.append_assoc]
  exact spells_append.2 ⟨u, v ++ b, rfl, hu, spells_singleton.2 (ht v (spells_singleton.1 hv))⟩

end Glob

namespace PathPattern

variable {p : PathPattern} {before : Option Char} {out : List GlobToken} {a : List UInt8}

/-- From the start of a segment a pattern is read as a glob that accepts its text with slashes for
double segments. -/
theorem exists_reads_fill (p : PathPattern) (h : Glob.Started before out a) :
    ∃ g, Glob.Reads before out (p.join Segment.marks) g ∧
      Glob.accepts g (a ++ utf8 (p.join Segment.fill)) = true := by
  have hslash : ∀ s : List Char, utf8 ('/' :: s) = Glob.slash :: utf8 s := fun s => by
    rw [utf8_cons, utf8EncodeChar_slash]
    rfl
  induction p using induct generalizing before out a with
  | single s =>
      rw [join_single, join_single, Segment.fill]
      split
      · next hs =>
        rw [Segment.isDouble_iff_marks.1 hs]
        -- at the very start the double segment leads; later on it widens what stands before it
        cases h with
        | first => exact ⟨_, .all, rfl⟩
        | later hlast ha =>
            exact ⟨_, .trailing, Glob.accepts_of_spells
              (Glob.spells_concat_of_takes ha fun v => hlast.takes_trailing)⟩
      · next hs =>
        have hp : ∀ r ∈ (⟨s, []⟩ : PathPattern).segments, ¬ r.IsDouble := by simpa [segments] using hs
        have hreads := PathPattern.reads _ hp before out
        rw [join_single, glob_single] at hreads
        exact ⟨_, hreads, Glob.accepts_of_spells
          (Glob.spells_append.2 ⟨a, _, rfl, h.spells, s.spells_tokens_letters⟩)⟩
  | cons s s' rest ih =>
      rw [join_cons, join_cons, Segment.fill]
      split
      · next hs =>
        rw [Segment.isDouble_iff_marks.1 hs]
        simp only [List.cons_append, List.nil_append, hslash]
        cases h with
        | first =>
            have hleading : Glob.Spells [GlobToken.leadingSegments].reverse
                [Glob.slash, Glob.slash] :=
              Glob.spells_singleton.2 (Or.inr ⟨[Glob.slash], rfl⟩)
            obtain ⟨g, hg, haccepts⟩ := ih (.later (Or.inl rfl) hleading)
            exact ⟨g, .leading hg, haccepts⟩
        | later hlast ha =>
            have hinner := Glob.spells_concat_of_takes ha fun v => hlast.takes_inner
            obtain ⟨g, hg, haccepts⟩ := ih (.later hlast.widen hinner)
            exact ⟨g, .inner hg, by simpa using haccepts⟩
      · next hs =>
        -- the slash behind the segment is a token of its own, where the next segment starts
        have hspells : Glob.Spells (GlobToken.literal '/' :: (s.tokens.reverse ++ out)).reverse
            (a ++ utf8 s.letters ++ [Glob.slash]) := by
          rw [List.reverse_cons, List.reverse_append, List.reverse_reverse]
          refine Glob.spells_append.2 ⟨_, _, rfl, Glob.spells_append.2
            ⟨a, _, rfl, h.spells, s.spells_tokens_letters⟩, Glob.spells_singleton.2 ?_⟩
          exact utf8EncodeChar_slash.symm
        obtain ⟨g, hg, haccepts⟩ := ih (.later (Or.inr (Or.inl rfl)) hspells)
        refine ⟨g, Segment.reads hs (Or.inr rfl) fun b => .plain (by decide) hg, ?_⟩
        simpa [hslash] using haccepts

/-! ## Counting slashes -/

/-- The slashes of a pattern are those between its segments and those inside of them. -/
theorem count_join (f : Segment → List Char) :
    (p.join f).count '/' = p.others.length + (p.segments.map fun s => (f s).count '/').sum := by
  induction p using induct with
  | single s => simp [segments]
  | cons s s' rest ih =>
      rw [join_cons, List.count_append, List.count_cons_self, ih]
      simp [segments]
      omega

theorem count_text : p.text.toList.count '/' = p.others.length := by
  have hnone : ∀ s : Segment, s.text.count '/' = 0 :=
    fun s => List.count_eq_zero.2 s.slash_not_mem_text
  simp [toList_text, count_join, hnone]

/-- A double segment is one slash more. -/
theorem count_fill (hp : ∃ s ∈ p.segments, s.IsDouble) :
    p.others.length < (p.join Segment.fill).count '/' := by
  obtain ⟨s, hs, hdouble⟩ := hp
  rw [count_join]
  refine Nat.lt_add_of_pos_right (List.sum_pos_iff_exists_pos_nat.2
    ⟨_, List.mem_map_of_mem hs, ?_⟩)
  simp [Segment.fill, hdouble]

end PathPattern

/-- There is one piece more than there are slashes. -/
theorem length_splitOn_slash (x : List Char) : (x.splitOn '/').length = x.count '/' + 1 := by
  induction hn : x.length using Nat.strongRecOn generalizing x with
  | _ n ih =>
      subst hn
      by_cases hx : '/' ∈ x
      · obtain ⟨y, z, rfl, hy⟩ := List.eq_append_cons_of_mem hx
        rw [List.splitOn_append_cons_self_of_not_mem hy, List.length_cons, ih z.length (by simp; omega) z rfl,
          List.count_append, List.count_cons_self, List.count_eq_zero.2 hy, Nat.zero_add]
      · rw [List.splitOn_eq_singleton hx, List.count_eq_zero.2 hx]
        rfl

/-- **All that a pattern matches has as many slashes as the pattern** exactly if none of its segments
is two wildcards and nothing else. -/
theorem separators_kept_iff (p : PathPattern) :
    (∀ x : String, (Operator.compile "match" p.text).isMatch x = true →
      x.toList.count '/' = p.text.toList.count '/') ↔ ∀ s ∈ p.segments, ¬ s.IsDouble := by
  rw [PathPattern.count_text]
  constructor
  · intro h s hs hdouble
    obtain ⟨g, hg, haccepts⟩ := p.exists_reads_fill .first
    rw [← PathPattern.toList_pathPattern, ← Glob.read?_eq_some_iff] at hg
    have hmatch : (Operator.compile "match" p.text).isMatch
        (String.ofList (p.join Segment.fill)) = true :=
      (Operator.path_isMatch_iff hg).2 (Or.inl (by rwa [Glob.isMatch, String.toList_ofList]))
    have hcount := h _ hmatch
    rw [String.toList_ofList] at hcount
    exact absurd hcount (Nat.ne_of_gt (PathPattern.count_fill ⟨s, hs, hdouble⟩))
  · intro hp x hx
    have hlength := ((PathPattern.isMatch_iff hp).1 hx).length_eq
    rw [length_splitOn_slash] at hlength
    exact (Nat.succ.inj hlength).symm

/-- The pattern `/a/{x}{y}`. -/
def PathPattern.neighbours : PathPattern :=
  ⟨[], [[.letter ⟨'a', by decide⟩], [.named ⟨['x'], by decide⟩, .named ⟨['y'], by decide⟩]]⟩

/-- The pattern `/a/{x}{y}` matches `/a/b/c/d`. -/
theorem not_separators_kept : ¬ ∀ p : PathPattern, (∀ s ∈ p.segments, Piece.star ∉ s) →
    ∀ x : String, (Operator.compile "match" p.text).isMatch x = true →
      x.toList.count '/' = p.text.toList.count '/' := by
  intro h
  have hread : Glob.read? (Operator.pathPattern PathPattern.neighbours.text) =
      some [.literal '/', .literal 'a', .trailingSegments] := by decide
  have hcount := h PathPattern.neighbours (by decide) "/a/b/c/d"
    ((Operator.path_isMatch_iff hread).2 (Or.inl (by decide)))
  exact absurd hcount (by decide)

end Gatehouse.Match
