import Gatehouse.Proofs.Match.Globs

/-!
# How patterns are read

The reader of globs goes through a pattern with the character before and the tokens so far, last
first. What it can do with what stands next is said once, as a relation:

    Reads before out pattern glob     ⟺     readTokens fuel before out pattern = some glob

for any fuel that exceeds the length of the pattern (`readTokens_eq_some_iff`). Two stars that fill
a segment become one token for whole segments; everywhere else a star is a run of its own.

The relation is used for what is known of the end of a pattern: `/**` behind a pattern is one token
behind its tokens, unless the pattern ends in `**` for whole segments already (`Reads.deeper`).
-/

namespace Gatehouse.Match.Glob

variable {before : Option Char} {out : List GlobToken} {g : Glob} {c : Char} {s r t : List Char}

/-! ## What stands next -/

/-- Whether a bracket expression is negated, and what follows. -/
def negation : List Char → Bool × List Char
  | '!' :: r => (true, r)
  | '^' :: r => (true, r)
  | r => (false, r)

theorem exists_negation (r : List Char) : ∃ a, r = a ++ (negation r).2 := by
  unfold negation
  split
  · exact ⟨['!'], rfl⟩
  · exact ⟨['^'], rfl⟩
  · exact ⟨[], rfl⟩

theorem negation_append (h : r ≠ []) (t : List Char) :
    negation (r ++ t) = ((negation r).1, (negation r).2 ++ t) := by
  cases r with
  | nil => exact absurd rfl h
  | cons c r =>
      rw [List.cons_append]
      unfold negation
      split <;> simp_all

/-- A bracket expression ends in its closing bracket. -/
theorem exists_of_readRanges {first pending : Bool} {ranges found : List (Char × Char)}
    (h : readRanges first pending ranges s = some (found, r)) : ∃ a, s = a ++ ']' :: r := by
  fun_induction readRanges first pending ranges s with
  | case1 => cases h
  | case2 first pending ranges c r' hc =>
      simp only [Bool.and_eq_true, decide_eq_true_eq] at hc
      obtain ⟨-, rfl⟩ := Prod.mk.inj (Option.some.inj h)
      exact ⟨[], by rw [hc.1]; rfl⟩
  | case4 => cases h
  | case3 _ _ _ c _ _ _ ih | case5 _ c _ _ _ _ _ _ _ ih | case6 _ _ _ c _ _ _ _ ih =>
      obtain ⟨a, rfl⟩ := ih h
      exact ⟨c :: a, rfl⟩

/-- What follows a bracket expression plays no part in it. -/
theorem readRanges_append {first pending : Bool} {ranges found : List (Char × Char)}
    (h : readRanges first pending ranges s = some (found, r)) (t : List Char) :
    readRanges first pending ranges (s ++ t) = some (found, r ++ t) := by
  fun_induction readRanges first pending ranges s with
  | case1 => cases h
  | case2 first pending ranges c r' hc =>
      obtain ⟨rfl, rfl⟩ := Prod.mk.inj (Option.some.inj h)
      simp [readRanges, hc]
  | case4 => cases h
  | case3 _ _ _ c _ h₁ h₂ ih =>
      simp only [List.cons_append, readRanges, h₁, h₂]
      exact ih h
  | case5 _ c _ h₁ _ _ _ h₂ h₃ ih =>
      simp only [List.cons_append, readRanges, h₁, h₂, h₃]
      exact ih h
  | case6 _ _ _ c _ h₁ h₂ h₃ ih =>
      simp only [List.cons_append, readRanges, h₁, h₂]
      exact ih h

/-- The token for whole segments that takes the place of the last token; one that is there already
stays. -/
def widen (token last : GlobToken) : GlobToken :=
  if last = .leadingSegments || last = .trailingSegments then last else token

/-- Two stars with this behind them fill a segment. -/
def Fills (before : Option Char) (out : List GlobToken) (r : List Char) : Prop :=
  (out = [] ∨ before = some '/') ∧ (r = [] ∨ r.head? = some '/')

/-- The characters that mean something in a pattern. -/
def reserved : List Char := ['?', '*', '[', '\x7b', '\x7d', '\\']

/-- A pattern is read as a glob. -/
inductive Reads : Option Char → List GlobToken → List Char → Glob → Prop
  | nil {before : Option Char} {out : List GlobToken} : Reads before out [] out.reverse
  | plain {before : Option Char} {out : List GlobToken} {c : Char} {r : List Char} {g : Glob} :
      c ∉ reserved → Reads (some c) (.literal c :: out) r g → Reads before out (c :: r) g
  | escaped {before : Option Char} {out : List GlobToken} {c : Char} {r : List Char} {g : Glob} :
      Reads (some c) (.literal c :: out) r g → Reads before out ('\\' :: c :: r) g
  | any {before : Option Char} {out : List GlobToken} {r : List Char} {g : Glob} :
      Reads (some '?') (.any :: out) r g → Reads before out ('?' :: r) g
  | oneOf {before : Option Char} {out : List GlobToken} {ranges : List (Char × Char)}
      {r rest : List Char} {g : Glob} :
      readRanges true false [] (negation r).2 = some (ranges, rest) →
      Reads (some ']') (.oneOf (negation r).1 ranges :: out) rest g →
      Reads before out ('[' :: r) g
  | run {before : Option Char} {out : List GlobToken} {r : List Char} {g : Glob} :
      r.head? ≠ some '*' → Reads (some '*') (.anyRun :: out) r g → Reads before out ('*' :: r) g
  | runs {before : Option Char} {out : List GlobToken} {r : List Char} {g : Glob} :
      ¬ Fills before out r → Reads (some '*') (.anyRun :: .anyRun :: out) r g →
      Reads before out ('*' :: '*' :: r) g
  /-- `**` is all there is. -/
  | all {before : Option Char} : Reads before [] ['*', '*'] [.leadingSegments]
  | leading {before : Option Char} {r : List Char} {g : Glob} :
      Reads (some '/') [.leadingSegments] r g → Reads before [] ('*' :: '*' :: '/' :: r) g
  | trailing {last : GlobToken} {kept : List GlobToken} :
      Reads (some '/') (last :: kept) ['*', '*'] (widen .trailingSegments last :: kept).reverse
  | inner {last : GlobToken} {kept : List GlobToken} {r : List Char} {g : Glob} :
      Reads (some '/') (widen .innerSegments last :: kept) r g →
      Reads (some '/') (last :: kept) ('*' :: '*' :: '/' :: r) g

theorem reads_of_readTokens {fuel : Nat} (h : readTokens fuel before out s = some g) :
    Reads before out s g := by
  fun_induction readTokens fuel before out s with
  | case1 => cases h
  | case2 =>
      cases h
      exact .nil
  -- two stars at the start
  | case3 =>
      cases h
      exact .all
  | case4 _ _ _ _ ih => exact .leading (ih h)
  | case5 _ _ r _ hnil hslash ih =>
      exact .runs (fun hfills => by cases r <;> simp_all [Fills]) (ih h)
  -- two stars later on
  | case6 _ _ _ _ _ _ hbefore ih => exact .runs (fun hfills => by simp_all [Fills]) (ih h)
  | case7 _ _ _ _ hbefore =>
      cases h
      obtain rfl := by simpa using hbefore
      exact .trailing
  | case8 _ _ _ _ hbefore _ _ _ ih =>
      obtain rfl := by simpa using hbefore
      exact .inner (ih h)
  | case9 _ _ r _ _ hbefore _ hnil hslash ih =>
      exact .runs (fun hfills => by cases r <;> simp_all [Fills]) (ih h)
  -- one character
  | case10 _ _ _ _ _ ih => exact .any (ih h)
  | case11 _ _ _ r hone ih => exact .run (by cases r <;> simp_all) (ih h)
  | case12 _ _ _ r negated rest hnegation ranges rest' hranges _ ih =>
      have hpair : negation r = (negated, rest) := hnegation
      exact .oneOf (by rw [hpair]; exact hranges) (by rw [hpair]; exact ih h)
  | case17 _ _ _ _ _ _ ih => exact .escaped (ih h)
  | case18 _ _ _ _ c h₁ h₂ h₃ h₄ h₅ h₆ _ ih =>
      have hc : c ∉ reserved := by
        simp only [reserved, List.mem_cons, List.not_mem_nil, or_false, not_or]
        exact ⟨h₁, h₂, h₃, h₄, h₅, h₆⟩
      exact .plain hc (ih h)
  | case13 => cases h
  | case14 => cases h
  | case15 => cases h
  | case16 => cases h

/-- A set of characters, and everything after it. -/
def readOneOf (fuel : Nat) (negated : Bool) (out : List GlobToken) :
    Option (List (Char × Char) × List Char) → Option Glob
  | some (ranges, r) => readTokens fuel (some ']') (.oneOf negated ranges :: out) r
  | none => none

/-- The reader takes exactly the tokens that the relation allows, given enough fuel. -/
theorem Reads.readTokens_eq {fuel : Nat} (h : Reads before out s g) (hfuel : s.length < fuel) :
    readTokens fuel before out s = some g := by
  induction h generalizing fuel <;>
    obtain ⟨fuel, rfl⟩ := Nat.exists_eq_add_one_of_ne_zero (Nat.ne_zero_of_lt hfuel)
  case nil | all | trailing => rfl
  case plain hc _ ih =>
    have hrest := ih (Nat.lt_of_succ_lt_succ hfuel)
    simp only [reserved, List.mem_cons, List.not_mem_nil, or_false, not_or] at hc
    simp [readTokens, hc, hrest]
  case any ih =>
    simp only [readTokens]
    exact ih (Nat.lt_of_succ_lt_succ hfuel)
  case escaped ih =>
    simp only [List.length_cons] at hfuel
    simp only [readTokens]
    exact ih (by omega)
  case leading ih =>
    simp only [List.length_cons] at hfuel
    simp only [readTokens]
    exact ih (by omega)
  case inner ih =>
    simp only [List.length_cons] at hfuel
    exact ih (by omega)
  case oneOf ranges r rest g hranges _ ih =>
    have hlt : rest.length < fuel := by
      obtain ⟨a, ha⟩ := exists_of_readRanges hranges
      obtain ⟨b, hb⟩ := exists_negation r
      rw [ha] at hb
      rw [hb] at hfuel
      simp only [List.length_append, List.length_cons] at hfuel
      omega
    show readOneOf fuel (negation r).1 _ (readRanges true false [] (negation r).2) = some g
    rw [hranges]
    exact ih hlt
  case run r g hone _ ih =>
    have hrest := ih (Nat.lt_of_succ_lt_succ hfuel)
    cases r with
    | nil =>
      cases fuel with
      | zero => cases hrest
      | succ fuel => exact hrest
    | cons d r =>
      have hd : d ≠ '*' := by simpa using hone
      simp [readTokens, hd, hrest]
  case runs before out r g hfills _ ih =>
    simp only [List.length_cons] at hfuel
    have hrest := ih (show _ < fuel by omega)
    -- the reader tests what stands before the stars first, and then what stands behind them
    cases out with
    | nil =>
      cases r with
      | nil => exact absurd ⟨Or.inl rfl, Or.inl rfl⟩ hfills
      | cons d r =>
        have hd : d ≠ '/' := fun hd => hfills ⟨Or.inl rfl, Or.inr (congrArg some hd)⟩
        simp [readTokens, hd, hrest]
    | cons last kept =>
      by_cases hb : before = some '/'
      · cases r with
        | nil => exact absurd ⟨Or.inr hb, Or.inl rfl⟩ hfills
        | cons d r =>
          have hd : d ≠ '/' := fun hd => hfills ⟨Or.inr hb, Or.inr (congrArg some hd)⟩
          simp [readTokens, hd, hrest, hb]
      · exact (if_pos (bne_iff_ne.2 hb)).trans hrest

/-- **A pattern is read** as the relation says, by any fuel that exceeds its length. -/
theorem readTokens_eq_some_iff {fuel : Nat} (hfuel : s.length < fuel) :
    readTokens fuel before out s = some g ↔ Reads before out s g :=
  ⟨reads_of_readTokens, fun h => h.readTokens_eq hfuel⟩

theorem read?_eq_some_iff {pattern : String} :
    read? pattern = some g ↔ Reads none [] pattern.toList g :=
  readTokens_eq_some_iff (Nat.lt_succ_self _)

/-- Widening never makes a leading `**` out of anything else. -/
theorem eq_leadingSegments_of_widen {token last : GlobToken} (htoken : token ≠ .leadingSegments)
    (h : widen token last = .leadingSegments) : last = .leadingSegments := by
  unfold widen at h
  split at h
  · exact h
  · exact absurd h htoken

/-- Only the first token stands for all that leads to a path. -/
theorem Reads.eq_of_getLast? (h : Reads before out s g)
    (hout : out.head? = some .leadingSegments → out = [.leadingSegments])
    (hg : g.getLast? = some .leadingSegments) : g = [.leadingSegments] := by
  induction h with
  | nil =>
      rw [List.getLast?_reverse] at hg
      rw [hout hg]
      rfl
  | plain _ _ ih | escaped _ ih | any _ ih | oneOf _ _ ih | run _ _ ih | runs _ _ ih =>
      exact ih nofun hg
  | all => rfl
  | leading _ ih => exact ih (fun _ => rfl) hg
  | trailing =>
      rw [List.getLast?_reverse] at hg
      obtain rfl := eq_leadingSegments_of_widen
        (show GlobToken.trailingSegments ≠ .leadingSegments by decide) (Option.some.inj hg)
      obtain ⟨-, rfl⟩ := List.cons.inj (hout rfl)
      rfl
  | inner _ ih =>
      refine ih (fun hhead => ?_) hg
      obtain rfl := eq_leadingSegments_of_widen
        (show GlobToken.innerSegments ≠ .leadingSegments by decide) (Option.some.inj hhead)
      obtain ⟨-, rfl⟩ := List.cons.inj (hout rfl)
      rfl

/-! ## A pattern with `/**` behind it -/

/-- What stands for everything below a path. -/
def subtree : List Char := ['/', '*', '*']

/-- The rest of a pattern ends in `**` for whole segments. -/
def EndsInSubtree (before : Option Char) (out : List GlobToken) (s : List Char) : Prop :=
  (out = [] ∧ s = ['*', '*']) ∨ subtree <:+ before.toList ++ s

instance : Decidable (EndsInSubtree before out s) := inferInstanceAs (Decidable (_ ∨ _))

theorem endsInSubtree_some {token : GlobToken} {kept : List GlobToken} :
    EndsInSubtree (some c) (token :: kept) s ↔ subtree <:+ c :: s := by
  simp [EndsInSubtree]

theorem not_endsInSubtree_nil : ¬ EndsInSubtree before out [] := by
  cases before <;> simp [EndsInSubtree, subtree, List.suffix_cons_iff]

/-- Where no star comes next, a pattern ends in a subtree exactly if its text does. -/
theorem endsInSubtree_cons (hc : c ≠ '*') :
    EndsInSubtree before out (c :: s) ↔ subtree <:+ c :: s := by
  cases before <;> simp [EndsInSubtree, subtree, List.suffix_cons_iff, hc, Ne.symm hc]

theorem endsInSubtree_star (hs : s.head? ≠ some '*') :
    EndsInSubtree before out ('*' :: s) ↔ subtree <:+ '*' :: s := by
  cases s with
  | nil => cases before <;> simp [EndsInSubtree, subtree, List.suffix_cons_iff]
  | cons d s =>
      have hd : d ≠ '*' := by simpa using hs
      cases before <;> simp [EndsInSubtree, subtree, List.suffix_cons_iff, hd, Ne.symm hd]

theorem endsInSubtree_stars (hs : ¬ Fills before out s) :
    EndsInSubtree before out ('*' :: '*' :: s) ↔ subtree <:+ '*' :: s := by
  cases s with
  | nil =>
      have hout : out ≠ [] := fun hout => hs ⟨Or.inl hout, Or.inl rfl⟩
      have hbefore : before ≠ some '/' := fun hbefore => hs ⟨Or.inr hbefore, Or.inl rfl⟩
      cases before with
      | none => simp [EndsInSubtree, subtree, List.suffix_cons_iff, hout]
      | some b =>
          have hb : '/' ≠ b := by simpa [eq_comm] using hbefore
          simp [EndsInSubtree, subtree, List.suffix_cons_iff, hout, hb]
  | cons d s => cases before <;> simp [EndsInSubtree, subtree, List.suffix_cons_iff]

theorem endsInSubtree_stars_slash :
    EndsInSubtree before out ('*' :: '*' :: '/' :: s) ↔ subtree <:+ '/' :: s := by
  cases before <;> simp [EndsInSubtree, subtree, List.suffix_cons_iff]

/-- A suffix cannot reach back over a character that it does not have. -/
theorem suffix_append_cons_iff {x : List Char} (hc : c ∉ t) :
    t <:+ x ++ c :: r ↔ t <:+ c :: r := by
  refine ⟨fun h => ?_, fun h => h.trans (List.suffix_append _ _)⟩
  rcases List.suffix_or_suffix_of_suffix h (List.suffix_append x (c :: r)) with hr | hr
  · exact hr
  · exact absurd (hr.subset List.mem_cons_self) hc

/-- What the glob of a pattern becomes with `/**` behind the pattern. -/
def deepened (before : Option Char) (out : List GlobToken) (s : List Char) (g : Glob) : Glob :=
  if EndsInSubtree before out s then g else g ++ [.trailingSegments]

/-- Reading on, the last character read is all that counts of what was before. -/
theorem deepened_eq (h : EndsInSubtree before out s ↔ subtree <:+ c :: r) (token : GlobToken)
    (kept : List GlobToken) : deepened before out s g = deepened (some c) (token :: kept) r g := by
  simp only [deepened, h, endsInSubtree_some]

/-- **Behind a pattern** `/**` is one token more, unless the pattern ends in `**` for whole
segments. -/
theorem Reads.deeper (h : Reads before out s g) :
    Reads before out (s ++ subtree) (deepened before out s g) := by
  induction h with
  | @nil before out =>
      rw [deepened, if_neg not_endsInSubtree_nil]
      have hlast := @Reads.trailing (.literal '/') out
      rw [List.reverse_cons] at hlast
      exact .plain (by decide) hlast
  | @plain before out c r g hc _ ih =>
      have hstar : c ≠ '*' := by
        rintro rfl
        exact hc (by decide)
      rw [deepened_eq (endsInSubtree_cons hstar) (.literal c) out]
      exact .plain hc ih
  | @escaped before out c r g _ ih =>
      have hends : EndsInSubtree before out ('\\' :: c :: r) ↔ subtree <:+ c :: r := by
        rw [endsInSubtree_cons (by decide), List.suffix_cons_iff]
        simp [subtree]
      rw [deepened_eq hends (.literal c) out]
      exact .escaped ih
  | @any before out _ _ _ ih =>
      rw [deepened_eq (endsInSubtree_cons (by decide)) .any out]
      exact .any ih
  | @oneOf before out ranges r rest g hranges _ ih =>
      -- the bracket closes within the old pattern, so what is added stands behind it
      have hends : EndsInSubtree before out ('[' :: r) ↔ subtree <:+ ']' :: rest := by
        obtain ⟨x, hx⟩ := exists_of_readRanges hranges
        obtain ⟨y, hy⟩ := exists_negation r
        rw [endsInSubtree_cons (by decide), hy, hx, ← List.append_assoc, ← List.cons_append]
        exact suffix_append_cons_iff (by decide)
      have hne : r ≠ [] := by
        rintro rfl
        cases hranges
      have hnegation := negation_append hne subtree
      rw [deepened_eq hends (.oneOf (negation r).1 ranges) out]
      have hfound : readRanges true false [] (negation (r ++ subtree)).2 =
          some (ranges, rest ++ subtree) := by
        rw [hnegation]
        exact readRanges_append hranges subtree
      refine .oneOf hfound ?_
      show Reads _ (.oneOf (negation (r ++ subtree)).1 ranges :: out) _ _
      rw [hnegation]
      exact ih
  | @run before out r g hone _ ih =>
      rw [deepened_eq (endsInSubtree_star hone) .anyRun out]
      refine .run ?_ ih
      cases r with
      | nil => decide
      | cons d r => exact hone
  | @runs before out r g hfills _ ih =>
      rw [deepened_eq (endsInSubtree_stars hfills) .anyRun (.anyRun :: out)]
      refine .runs (fun h => hfills ⟨h.1, ?_⟩) ih
      cases r with
      | nil => exact Or.inl rfl
      | cons d r => exact Or.inr (by simpa using h.2)
  | @all before =>
      have hends : EndsInSubtree before [] ['*', '*'] := Or.inl ⟨rfl, rfl⟩
      rw [deepened, if_pos hends]
      exact .leading .trailing
  | leading _ ih =>
      rw [deepened_eq endsInSubtree_stars_slash .leadingSegments []]
      exact .leading ih
  | @trailing last kept =>
      -- the old end is widened to the inside, and the new one is the end
      have hends : EndsInSubtree (some '/') (last :: kept) ['*', '*'] :=
        Or.inr (List.suffix_refl _)
      rw [deepened, if_pos hends]
      have hwiden : widen .trailingSegments last =
          widen .trailingSegments (widen .innerSegments last) := by
        unfold widen
        split <;> simp_all
      rw [hwiden]
      exact .inner .trailing
  | @inner last kept r g _ ih =>
      rw [deepened_eq endsInSubtree_stars_slash (widen .innerSegments last) kept]
      exact .inner ih

end Gatehouse.Match.Glob
