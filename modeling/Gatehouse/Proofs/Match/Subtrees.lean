import Gatehouse.Proofs.Match.Paths

/-!
# What `/**` adds to a path pattern

A pattern with `/**` behind it is meant to match all that the pattern matches, and what lies below.
What lies below is matched by the glob. For the rest there is one comparison with the text before
`/**`, stars and all, so a pattern with a wildcard loses what it matches itself.

    `/users/{id}`      matches `/users/7`
    `/users/{id}/**`   matches `/users/7/a`, and `/users/*`, but not `/users/7`

A pattern that is covered matches nothing but its own text and what lies below that
(`covered_iff`). Of the patterns of segments only those without a wildcard are.
-/

namespace Gatehouse.Match

open Text

namespace Operator

variable {p x : String} {g : Glob}

/-- A pattern that ends in `**` for whole segments matches with `/**` behind it what its glob
accepts, and itself. -/
theorem isMatch_subtree_of_ends (hg : Glob.read? (pathPattern p) = some g)
    (hends : Glob.EndsInSubtree none [] (pathPattern p).toList) :
    (compile "match" (p ++ "/**")).isMatch x = true ↔ g.isMatch x = true ∨ x = pathPattern p := by
  rw [isMatch_subtree_iff hg, Glob.deepened, if_pos hends]

/-- Any other pattern matches with `/**` behind it what stands below a text it spells, and itself. -/
theorem isMatch_subtree_of_not_ends (hg : Glob.read? (pathPattern p) = some g)
    (hends : ¬ Glob.EndsInSubtree none [] (pathPattern p).toList) :
    (compile "match" (p ++ "/**")).isMatch x = true ↔
      (∃ y z, x.toList = y ++ '/' :: z ∧ Glob.Spells g (utf8 y)) ∨ x = pathPattern p := by
  rw [isMatch_subtree_iff hg, Glob.deepened, if_neg hends, Glob.isMatch_iff_spells (by simp),
    Glob.spells_concat_trailing_utf8]

/-- All that a pattern matches it matches with `/**` behind it as well. -/
def Covered (p : String) : Prop := ∀ x : String,
  (compile "match" p).isMatch x = true → (compile "match" (p ++ "/**")).isMatch x = true

theorem endsInSubtree_none {s : List Char} :
    Glob.EndsInSubtree none [] s ↔ s = ['*', '*'] ∨ Glob.subtree <:+ s := by
  simp [Glob.EndsInSubtree]

/-- A pattern that ends in `/**` is covered if its glob accepts what stands before. -/
theorem covered_iff_of_stem (hg : Glob.read? (pathPattern p) = some g)
    (hstem : pathStem? (pathPattern p) = some x) : Covered p ↔ g.isMatch x = true := by
  have hpattern := pathStem?_eq_some_iff.1 hstem
  have hends : Glob.EndsInSubtree none [] (pathPattern p).toList :=
    endsInSubtree_none.2 (Or.inr ⟨x.toList, hpattern.symm⟩)
  simp only [Covered, isMatch_subtree_of_ends hg hends, path_isMatch_iff hg, hstem,
    Option.some.injEq]
  constructor
  · intro h
    refine (h x (Or.inr rfl)).resolve_right fun hx => ?_
    -- a text is not itself with something behind it
    rw [← hx] at hpattern
    exact absurd (List.append_right_eq_self.1 hpattern.symm) (by decide)
  · rintro hx y (hy | rfl)
    · exact Or.inl hy
    · exact Or.inl hx

/-- A glob that ends in `**` for all that leads to a path accepts everything, not only what lies
below one text. -/
theorem getLast?_ne_of_below (hg : Glob.read? (pathPattern p) = some g)
    (hall : ∀ x : String, g.isMatch x = true →
      x = pathPattern p ∨ (pathPattern p ++ "/").toList <+: x.toList) :
    g.getLast? ≠ some .leadingSegments := by
  intro hlast
  obtain rfl := (Glob.read?_eq_some_iff.1 hg).eq_of_getLast? nofun hlast
  have hempty := (hall "" rfl).resolve_right fun h => by simpa using h.length_le
  rcases hall "a" rfl with ha | ha
  · exact absurd (hempty.trans ha.symm) (by decide)
  · rw [← hempty] at ha
    exact absurd ha (by decide)

/-- Any other pattern is covered if all that it matches is its own text and what lies below, unless
it is `**`. -/
theorem covered_iff_of_no_stem (hg : Glob.read? (pathPattern p) = some g)
    (hstem : pathStem? (pathPattern p) = none) :
    Covered p ↔ pathPattern p = "**" ∨
      ∀ x : String, (compile "match" p).isMatch x = true → x = pathPattern p ∨
        ((compile "match" p).isMatch (pathPattern p) = true ∧
          (pathPattern p ++ "/").toList <+: x.toList) := by
  have hmatch : ∀ x, (compile "match" p).isMatch x = true ↔ g.isMatch x = true := by
    simp [path_isMatch_iff hg, hstem]
  by_cases hall : pathPattern p = "**"
  · refine ⟨fun _ => Or.inl hall, fun _ x hx => ?_⟩
    have hends : Glob.EndsInSubtree none [] (pathPattern p).toList :=
      endsInSubtree_none.2 (Or.inl (by rw [hall]; rfl))
    exact (isMatch_subtree_of_ends hg hends).2 (Or.inl ((hmatch x).1 hx))
  have hends : ¬ Glob.EndsInSubtree none [] (pathPattern p).toList := by
    rw [endsInSubtree_none]
    rintro (h | ⟨r, hr⟩)
    · exact hall (String.toList_inj.1 h)
    · have hsome := pathStem?_eq_some_iff (x := String.ofList r).2 (by rw [← hr, String.toList_ofList])
      rw [hstem] at hsome
      cases hsome
  rw [or_iff_right hall]
  simp only [Covered, isMatch_subtree_of_not_ends hg hends, hmatch]
  constructor
  · intro h x hx
    -- from a text down to shorter ones that the glob spells, as far as the pattern itself
    induction hn : x.length using Nat.strongRecOn generalizing x with
    | _ n ih =>
        subst hn
        rcases h x hx with ⟨y, z, hyz, hy⟩ | rfl
        · have hlength : (String.ofList y).length < x.length := by
            rw [← String.length_toList, ← String.length_toList, hyz, String.toList_ofList,
              List.length_append, List.length_cons]
            omega
          have hbelow : y <+: x.toList := ⟨'/' :: z, hyz.symm⟩
          have hy' : g.isMatch (String.ofList y) = true := by
            rw [Glob.isMatch, String.toList_ofList]
            exact Glob.accepts_of_spells hy
          rcases ih _ hlength _ hy' rfl with heq | ⟨hself, hprefix⟩
          · refine Or.inr ⟨heq ▸ hy', ⟨z, ?_⟩⟩
            rw [← heq, String.toList_append, String.toList_ofList, hyz, List.append_assoc]
            rfl
          · rw [String.toList_ofList] at hprefix
            exact Or.inr ⟨hself, hprefix.trans hbelow⟩
        · exact Or.inl rfl
  · intro h x hx
    have hlast := getLast?_ne_of_below hg fun x hx => (h x hx).imp_right And.right
    refine (h x hx).symm.imp_left fun ⟨hself, z, hz⟩ => ?_
    refine ⟨(pathPattern p).toList, z, ?_, (Glob.isMatch_iff_spells hlast).1 hself⟩
    rw [← hz, String.toList_append, List.append_assoc]
    rfl

end Operator

namespace Segment

/-- A segment without wildcards is fitted by one text. -/
theorem Fits.eq_marks {s : Segment} {t : List Char} (h : s.Fits t)
    (hwild : ∀ w ∈ s, w.isWild = false) : t = s.marks := by
  induction h with
  | nil => rfl
  | letter _ ih => rw [ih fun w hw => hwild w (List.mem_cons_of_mem _ hw)]; rfl
  | wild hw => exact absurd (hwild _ List.mem_cons_self) (by simp [hw])

theorem eq_map_marks {segments : List Segment} {texts : List (List Char)}
    (h : List.Forall₂ Fits segments texts) (hwild : ∀ s ∈ segments, ∀ w ∈ s, w.isWild = false) :
    texts = segments.map marks := by
  induction h with
  | nil => rfl
  | cons hs _ ih =>
      rw [hs.eq_marks (hwild _ List.mem_cons_self),
        ih fun s hs => hwild s (List.mem_cons_of_mem _ hs)]
      rfl

end Segment

namespace PathPattern

variable {p : PathPattern} {x : String}

/-- Whatever has letters only, the pattern has a star if there is a wildcard. -/
theorem isMatch_letters (hp : ∀ s ∈ p.segments, ¬ s.IsDouble) :
    (Operator.compile "match" p.text).isMatch (String.ofList (p.join Segment.letters)) = true := by
  have hslash : ∀ s ∈ p.segments, '/' ∉ s.letters := fun s _ h => (Segment.of_mem_letters h).1 rfl
  rw [isMatch_iff hp, String.toList_ofList, splitOn_join hslash, List.forall₂_map_right_iff,
    List.forall₂_same]
  exact fun s _ => s.fits_letters

/-- A pattern without wildcards matches nothing but itself. -/
theorem eq_pathPattern_of_isMatch (hp : ∀ s ∈ p.segments, ¬ s.IsDouble)
    (hwild : ∀ s ∈ p.segments, ∀ w ∈ s, w.isWild = false)
    (hx : (Operator.compile "match" p.text).isMatch x = true) : x = Operator.pathPattern p.text := by
  have hsplit := Segment.eq_map_marks ((isMatch_iff hp).1 hx) hwild
  rw [← splitOn_pathPattern] at hsplit
  have hjoin := congrArg ['/'].intercalate hsplit
  rwa [List.intercalate_splitOn, List.intercalate_splitOn, String.toList_inj] at hjoin

/-- **A pattern of segments** is covered exactly if there is no wildcard in it. -/
theorem covered_iff (hp : ∀ s ∈ p.segments, ¬ s.IsDouble) :
    Operator.Covered p.text ↔ ∀ s ∈ p.segments, ∀ w ∈ s, w.isWild = false := by
  rw [Operator.covered_iff_of_no_stem (read?_pathPattern hp) (pathStem?_eq_none hp)]
  constructor
  · intro h s hs w hw
    have hbelow := h.resolve_left fun hall => stars_not_mem_splitOn hp (by rw [hall]; decide)
    -- the letters alone are matched, and there is no star among them
    have hletters : '*' ∉ p.join Segment.letters := by
      rw [mem_join (by decide)]
      rintro ⟨s, -, hstar⟩
      exact (Segment.of_mem_letters hstar).2 (by decide)
    refine Bool.eq_false_iff.2 fun hwild => hletters ?_
    have hstar : '*' ∈ (Operator.pathPattern p.text).toList := by
      rw [toList_pathPattern, mem_join (by decide)]
      exact ⟨s, hs, List.mem_map.2 ⟨w, hw, Piece.mark_of_isWild hwild⟩⟩
    rw [← String.toList_ofList (l := p.join Segment.letters)]
    rcases hbelow _ (isMatch_letters hp) with heq | ⟨-, hprefix⟩
    · rwa [heq]
    · rw [String.toList_append] at hprefix
      exact hprefix.subset (List.mem_append_left _ hstar)
  · exact fun hwild => Or.inr fun x hx => Or.inl (eq_pathPattern_of_isMatch hp hwild hx)

end PathPattern

/-! ## The patterns that are covered -/

open Operator in
/-- **Whatever is a pattern is one with `/**` behind it**, and it is covered exactly if

* it ends in `/**` and its glob accepts what stands before, or
* it does not, and it is `**` or all that it matches is its own text or lies below that.

Of the patterns of segments these are the ones without a wildcard. -/
theorem covered_by_subtree_iff (p pattern : String) (g : Glob) (stem : Option String) :
    compile "match" p = path pattern g stem →
    (∃ pattern' g' stem', compile "match" (p ++ "/**") = path pattern' g' stem') ∧
    (Covered p ↔
      match stem with
      | some x => g.isMatch x = true
      | none => pattern = "**" ∨
          ∀ x : String, (compile "match" p).isMatch x = true → x = pattern ∨
            ((compile "match" p).isMatch pattern = true ∧
              (pattern ++ "/").toList <+: x.toList)) ∧
    ∀ q : PathPattern, q.text = p → (∀ s ∈ q.segments, ¬ s.IsDouble) →
      (Covered p ↔ ∀ s ∈ q.segments, ∀ w ∈ s, w.isWild = false) := by
  intro hcompile
  obtain ⟨rfl, hg, rfl⟩ := compile_eq_path_iff.1 hcompile
  refine ⟨⟨_, _, _, compile_eq_path_iff.2 ⟨rfl, read?_subtree hg, rfl⟩⟩, ?_, ?_⟩
  · cases hstem : pathStem? (pathPattern p) with
    | some x => exact covered_iff_of_stem hg hstem
    | none => exact covered_iff_of_no_stem hg hstem
  · rintro q rfl hq
    exact PathPattern.covered_iff hq

/-- The pattern `/users/{id}` matches `/users/7`, and with `/**` behind it, it does not. -/
theorem not_covered_by_subtree : ¬ ∀ p : String,
    (∃ pattern g stem, Operator.compile "match" p = .path pattern g stem) →
    (∃ pattern g stem, Operator.compile "match" (p ++ "/**") = .path pattern g stem) →
    ∀ x : String, (Operator.compile "match" p).isMatch x = true →
      (Operator.compile "match" (p ++ "/**")).isMatch x = true := by
  intro h
  have hread : Glob.read? (Operator.pathPattern "/users/\x7bid\x7d") =
      some ("/users/".toList.map .literal ++ [.anyRun]) := by decide
  have hlost := h "/users/\x7bid\x7d" ⟨_, _, _, Operator.compile_eq_path_iff.2 ⟨rfl, hread, rfl⟩⟩
    ⟨_, _, _, Operator.compile_eq_path_iff.2 ⟨rfl, Operator.read?_subtree hread, rfl⟩⟩ "/users/7"
  rw [Operator.path_isMatch_iff hread, Operator.isMatch_subtree_iff hread] at hlost
  exact absurd (hlost (Or.inl (by decide))) (by decide)

theorem covered_by_subtree_iff_pages :
    ¬ Operator.Covered "/u/\x7bid\x7d/*.md" ∧ ¬ Operator.Covered "/u/**" ∧
      Operator.Covered "/u/**/**" := by
  have hcompile : ∀ pattern g, Glob.read? (Operator.pathPattern pattern) = some g →
      Operator.compile "match" pattern = .path (Operator.pathPattern pattern) g
        (Operator.pathStem? (Operator.pathPattern pattern)) :=
    fun pattern g hg => Operator.compile_eq_path_iff.2 ⟨rfl, hg, rfl⟩
  refine ⟨fun h => ?_, fun h => ?_, ?_⟩
  · have hpages := (covered_by_subtree_iff "/u/\x7bid\x7d/*.md" _ _ _ (hcompile _
      (['/', 'u', '/'].map .literal ++ [.anyRun, .literal '/', .anyRun] ++
        ['.', 'm', 'd'].map .literal) (by decide))).2.2
    rw [hpages PathPattern.pages (by decide +kernel) (by decide)] at h
    exact absurd h (by decide)
  · have hends := (covered_by_subtree_iff "/u/**" _ _ _ (hcompile _
      [.literal '/', .literal 'u', .trailingSegments] (by decide))).2.1
    rw [show Operator.pathStem? (Operator.pathPattern "/u/**") = some "/u" by decide] at hends
    exact absurd (hends.1 h) (by decide)
  · have hends := (covered_by_subtree_iff "/u/**/**" _ _ _ (hcompile _
      [.literal '/', .literal 'u', .trailingSegments] (by decide))).2.1
    rw [show Operator.pathStem? (Operator.pathPattern "/u/**/**") = some "/u/**" by decide] at hends
    exact hends.2 (by decide)

end Gatehouse.Match
