import Gatehouse.Proofs.Match.Segments

/-!
# What path patterns match

A pattern without neighbouring wildcards matches the texts with as many segments as it has, each
fitting its own: the bytes that its glob accepts are the bytes of such a text, because none of its
wildcards takes a slash (`PathPattern.spells_glob_iff`). A text without wildcards, with `/**` behind
it, matches itself and what lies below it.

    `/users/{id}`   matches   `/users/7`   `/users/`
    `/files/**`     matches   `/files`   `/files/`   `/files/a/b`
-/

namespace Gatehouse.Match

open Text

namespace Segment

variable {c : Letter} {w : Piece} {s : Segment} {h : Glob} {t x : List Char}

theorem fits_nil : Fits [] t ↔ t = [] := by
  constructor
  · rintro ⟨⟩
    rfl
  · rintro rfl
    exact .nil

theorem fits_letter : Fits (.letter c :: s) t ↔ ∃ r, t = c.1 :: r ∧ Fits s r := by
  constructor
  · intro hfits
    cases hfits with
    | letter hr => exact ⟨_, rfl, hr⟩
    | wild hc => cases hc
  · rintro ⟨r, rfl, hr⟩
    exact .letter hr

theorem fits_wild (hw : w.isWild = true) :
    Fits (w :: s) t ↔ ∃ a r, t = a ++ r ∧ '/' ∉ a ∧ Fits s r := by
  constructor
  · intro hfits
    cases hfits with
    | letter => cases hw
    | wild _ ha hr => exact ⟨_, _, rfl, ha, hr⟩
  · rintro ⟨a, r, rfl, ha, hr⟩
    exact .wild hw ha hr

/-- Plain tokens in front of a plain glob leave it plain. -/
theorem plain_tokens_append (hh : h.Plain) : Glob.Plain (s.tokens ++ h) := by
  intro t ht
  rcases List.mem_append.1 ht with hs | ht
  · obtain ⟨w, -, rfl⟩ := List.mem_map.1 hs
    cases w with
    | letter c => exact Or.inr ⟨c.1, rfl⟩
    | star => exact Or.inl rfl
    | named name => exact Or.inl rfl
  · exact hh t ht

/-- **The tokens of a segment** take the texts that fit it. -/
theorem spells_tokens_append (hh : h.Plain) : Glob.Spells (s.tokens ++ h) (utf8 x) ↔
    ∃ y z, x = y ++ z ∧ s.Fits y ∧ Glob.Spells h (utf8 z) := by
  induction s generalizing x with
  | nil =>
      simp only [fits_nil]
      constructor
      · exact fun hx => ⟨[], x, rfl, rfl, hx⟩
      · rintro ⟨_, z, rfl, rfl, hz⟩
        exact hz
  | cons w s ih =>
      -- letters take one character, wildcards any run of them without a slash
      cases hw : w.isWild with
      | false =>
          cases w with
          | letter c =>
              show Glob.Spells (.literal c.1 :: (Segment.tokens s ++ h)) (utf8 x) ↔ _
              simp only [Glob.spells_literal_utf8, ih, fits_letter]
              constructor
              · rintro ⟨_, rfl, y, z, rfl, hy, hz⟩
                exact ⟨c.1 :: y, z, rfl, ⟨y, rfl, hy⟩, hz⟩
              · rintro ⟨_, z, rfl, ⟨y, rfl, hy⟩, hz⟩
                exact ⟨y ++ z, rfl, y, z, rfl, hy, hz⟩
          | star => cases hw
          | named name => cases hw
      | true =>
          show Glob.Spells (w.token :: (Segment.tokens s ++ h)) (utf8 x) ↔ _
          simp only [Piece.token_of_isWild hw, Glob.spells_anyRun_utf8 (plain_tokens_append hh), ih,
            fits_wild hw]
          constructor
          · rintro ⟨a, _, rfl, ha, y, z, rfl, hy, hz⟩
            exact ⟨a ++ y, z, (List.append_assoc a y z).symm, ⟨a, y, rfl, ha, hy⟩, hz⟩
          · rintro ⟨_, z, rfl, ⟨a, y, rfl, ha, hy⟩, hz⟩
            exact ⟨a, y ++ z, List.append_assoc a y z, ha, y, z, rfl, hy, hz⟩

end Segment

namespace PathPattern

theorem plain_glob (p : PathPattern) : p.glob.Plain := by
  induction p using induct with
  | single s =>
      rw [glob_single, ← List.append_nil s.tokens]
      exact Segment.plain_tokens_append fun t ht => absurd ht List.not_mem_nil
  | cons s s' rest ih =>
      rw [glob_cons]
      refine Segment.plain_tokens_append fun t ht => ?_
      rcases List.mem_cons.1 ht with rfl | ht
      · exact Or.inr ⟨'/', rfl⟩
      · exact ih t ht

/-- **The glob of a pattern** spells the texts whose segments fit those of the pattern. -/
theorem spells_glob_iff (p : PathPattern) {x : List Char} :
    Glob.Spells p.glob (utf8 x) ↔ List.Forall₂ Segment.Fits p.segments (x.splitOn '/') := by
  induction p using induct generalizing x with
  | single s =>
      have hplain : Glob.Plain [] := fun t ht => absurd ht List.not_mem_nil
      rw [glob_single, ← List.append_nil s.tokens, Segment.spells_tokens_append hplain]
      simp only [Glob.spells_nil, utf8_eq_nil_iff, segments, List.forall₂_cons_left_iff,
        List.forall₂_nil_left_iff]
      constructor
      · rintro ⟨y, _, rfl, hy, rfl⟩
        rw [List.append_nil, List.splitOn_eq_singleton hy.slash_not_mem]
        exact ⟨y, [], hy, rfl, rfl⟩
      · rintro ⟨y, _, hy, rfl, hsplit⟩
        have hx : ['/'].intercalate (x.splitOn '/') = x := List.intercalate_splitOn '/'
        rw [hsplit, List.intercalate_singleton] at hx
        exact ⟨y, [], by rw [List.append_nil, hx], hy, rfl⟩
  | cons s s' rest ih =>
      have hplain : Glob.Plain (.literal '/' :: (⟨s', rest⟩ : PathPattern).glob) := by
        intro t ht
        rcases List.mem_cons.1 ht with rfl | ht
        · exact Or.inr ⟨'/', rfl⟩
        · exact plain_glob _ t ht
      rw [glob_cons, Segment.spells_tokens_append hplain]
      simp only [Glob.spells_literal_utf8, ih, segments, List.forall₂_cons_left_iff (a := s)]
      constructor
      · rintro ⟨y, _, rfl, hy, z, rfl, hz⟩
        exact ⟨y, z.splitOn '/', hy, hz, List.splitOn_append_cons_self_of_not_mem hy.slash_not_mem z⟩
      · rintro ⟨y, r, hy, hr, hsplit⟩
        -- more than one segment is left, so there is a slash
        by_cases hmem : '/' ∈ x
        · obtain ⟨y', z, rfl, hy'⟩ := List.eq_append_cons_of_mem hmem
          rw [List.splitOn_append_cons_self_of_not_mem hy'] at hsplit
          obtain ⟨rfl, rfl⟩ := List.cons.inj hsplit
          exact ⟨y', _, rfl, hy, z, rfl, hr⟩
        · rw [List.splitOn_eq_singleton hmem] at hsplit
          obtain ⟨-, rfl⟩ := List.cons.inj hsplit
          cases hr

variable {p : PathPattern}

theorem toList_text (p : PathPattern) : p.text.toList = p.join Segment.text :=
  String.toList_ofList

/-- Variables are turned into stars segment by segment. -/
theorem toList_pathPattern (p : PathPattern) :
    (Operator.pathPattern p.text).toList = p.join Segment.marks := by
  rw [Operator.toList_pathPattern, toList_text, starred_text]

/-- Where no segment is two wildcards the pattern is read as it looks. -/
theorem read?_pathPattern (hp : ∀ s ∈ p.segments, ¬ s.IsDouble) :
    Glob.read? (Operator.pathPattern p.text) = some p.glob := by
  rw [Glob.read?_eq_some_iff, toList_pathPattern]
  exact p.reads hp none []

theorem splitOn_pathPattern (p : PathPattern) :
    (Operator.pathPattern p.text).toList.splitOn '/' = p.segments.map Segment.marks := by
  rw [toList_pathPattern]
  exact splitOn_join fun s _ => s.slash_not_mem_marks

/-- With stars for names there is no `**` between slashes. -/
theorem stars_not_mem_splitOn (hp : ∀ s ∈ p.segments, ¬ s.IsDouble) :
    ['*', '*'] ∉ (Operator.pathPattern p.text).toList.splitOn '/' := by
  rw [splitOn_pathPattern]
  intro hmem
  obtain ⟨s, hs, hmarks⟩ := List.mem_map.1 hmem
  exact hp s hs (Segment.isDouble_iff_marks.2 hmarks)

/-- Nor does it end in a subtree. -/
theorem pathStem?_eq_none (hp : ∀ s ∈ p.segments, ¬ s.IsDouble) :
    Operator.pathStem? (Operator.pathPattern p.text) = none := by
  refine Option.eq_none_iff_forall_ne_some.2 fun x hx => stars_not_mem_splitOn hp ?_
  rw [Operator.pathStem?_eq_some_iff.1 hx, Glob.subtree, List.splitOn_append_cons_self,
    List.splitOn_eq_singleton (show '/' ∉ ['*', '*'] by decide)]
  exact List.mem_append_right _ (List.mem_singleton_self _)

/-- **A pattern without double segments** matches the texts whose segments fit its own. -/
theorem isMatch_iff (hp : ∀ s ∈ p.segments, ¬ s.IsDouble) {x : String} :
    (Operator.compile "match" p.text).isMatch x = true ↔
      List.Forall₂ Segment.Fits p.segments (x.toList.splitOn '/') := by
  have hlast : p.glob.getLast? ≠ some .leadingSegments := fun hlast =>
    (p.plain_glob _ (List.mem_of_getLast? hlast)).elim nofun nofun
  rw [Operator.path_isMatch_iff (read?_pathPattern hp), Glob.isMatch_iff_spells hlast,
    pathStem?_eq_none hp, or_iff_left nofun, spells_glob_iff]

end PathPattern

/-! ## A text and all below it -/

variable {q : List Char}

/-- A text without wildcards is read letter by letter. -/
theorem Glob.reads_literals (hq : ∀ c ∈ q, c ∉ Glob.reserved) (before : Option Char)
    (out : List GlobToken) : Glob.Reads before out q (out.reverse ++ q.map .literal) := by
  induction q generalizing before out with
  | nil => simpa using @Glob.Reads.nil before out
  | cons c q ih =>
      obtain ⟨hc, hq⟩ := List.forall_mem_cons.1 hq
      exact .plain hc (by simpa using ih hq (some c) (.literal c :: out))

/-- **A text with `/**` behind it** matches the text and what begins with the text and a slash. -/
theorem Operator.isMatch_literal_subtree_iff {q x : String}
    (hq : ∀ c ∈ q.toList, c ∉ Glob.reserved) : (compile "match" (q ++ "/**")).isMatch x = true ↔
      x = q ∨ (q ++ "/").toList <+: x.toList := by
  have hnot : ∀ c ∈ Glob.reserved, c ∉ q.toList := fun c hc hmem => hq c hmem hc
  have hpattern : pathPattern q = q := by
    rw [← String.toList_inj, toList_pathPattern, starred_of_not_mem (hnot _ (by decide))]
  -- the text does not end in `**` itself
  have hends : ¬ Glob.EndsInSubtree none [] q.toList := by
    rintro (⟨-, h⟩ | h)
    · exact hnot '*' (by decide) (h ▸ List.mem_cons_self)
    · exact hnot '*' (by decide) (h.subset (by decide))
  have hread : Glob.read? (pathPattern q) = some (q.toList.map .literal) := by
    rw [hpattern, Glob.read?_eq_some_iff]
    exact Glob.reads_literals hq none []
  rw [isMatch_subtree_iff hread, hpattern, Glob.deepened, if_neg hends,
    Glob.isMatch_iff_spells (by simp), Glob.spells_concat_trailing_utf8, or_comm]
  simp only [Glob.spells_literals_utf8, String.toList_append]
  refine or_congr_right ⟨?_, ?_⟩
  · rintro ⟨_, z, hx, rfl⟩
    exact ⟨z, by simp [hx]⟩
  · rintro ⟨z, hx⟩
    exact ⟨_, z, by simp [← hx], rfl⟩

/-- **Path patterns match by segments**, one text without a slash for each wildcard; a text with
`/**` behind it matches itself and what lies below. -/
theorem path_match_by_segments :
    (∀ p : PathPattern, (∀ s ∈ p.segments, s.Apart) → ∀ x : String,
      (Operator.compile "match" p.text).isMatch x = true ↔
        List.Forall₂ Segment.Fits p.segments (x.toList.splitOn '/')) ∧
    ∀ q : String, (∀ c ∈ q.toList, c ∉ Glob.reserved) → ∀ x : String,
      (Operator.compile "match" (q ++ "/**")).isMatch x = true ↔
        x = q ∨ (q ++ "/").toList <+: x.toList :=
  ⟨fun _ hp _ => PathPattern.isMatch_iff fun s hs => (hp s hs).not_isDouble,
    fun _ hq _ => Operator.isMatch_literal_subtree_iff hq⟩

/-- The pattern `/u/{id}/*.md`. -/
def PathPattern.pages : PathPattern :=
  ⟨[], [[.letter ⟨'u', by decide⟩], [.named ⟨['i', 'd'], by decide⟩],
    [.star, .letter ⟨'.', by decide⟩, .letter ⟨'m', by decide⟩, .letter ⟨'d', by decide⟩]]⟩

theorem path_match_by_segments_at_pages :
    (Operator.compile "match" "/u/\x7bid\x7d/*.md").isMatch "/u/7/a.md" = true ∧
    (Operator.compile "match" "/u/\x7bid\x7d/*.md").isMatch "/u/7/b/a.md" = false ∧
    (Operator.compile "match" ("/u" ++ "/**")).isMatch "/u" = true ∧
    (Operator.compile "match" ("/u" ++ "/**")).isMatch "/us" = false := by
  have htext : PathPattern.pages.text = "/u/\x7bid\x7d/*.md" := by decide +kernel
  have hpages := path_match_by_segments.1 PathPattern.pages (by decide)
  have hbelow := path_match_by_segments.2 "/u" (by simp [Glob.reserved])
  rw [htext] at hpages
  refine ⟨(hpages "/u/7/a.md").2 ?_, Bool.eq_false_iff.2 fun h => ?_, (hbelow "/u").2 (Or.inl rfl),
    Bool.eq_false_iff.2 fun h => absurd ((hbelow "/us").1 h) (by decide)⟩
  · have hsplit : "/u/7/a.md".toList.splitOn '/' = [[], ['u'], ['7'], ['a', '.', 'm', 'd']] := by
      decide
    rw [hsplit]
    refine .cons .nil (.cons (.letter .nil) (.cons ?_ (.cons ?_ .nil)))
    · exact (Segment.fits_wild rfl).2 ⟨['7'], [], rfl, by decide, .nil⟩
    · exact (Segment.fits_wild rfl).2 ⟨['a'], _, rfl, by decide, .letter (.letter (.letter .nil))⟩
  · exact absurd ((hpages "/u/7/b/a.md").1 h).length_eq (by decide)

end Gatehouse.Match
