import Gatehouse.Match.Operator
import Gatehouse.Proofs.Match.Tokens

/-!
# Path patterns and their variables

A path pattern is made a glob in two steps: names in braces become stars, and what comes out is read.

    `/users/{id}/**`   ⟶   `/users/*/**`   ⟶   tokens, and `/users/*` for the bare path

`starred` says what the first step does to a text, piece by piece and without fuel. What a pattern
matches is then known from its glob (`path_isMatch_iff`).
-/

namespace Gatehouse.Match.Operator

open Text

variable {c : Char} {s r t name : List Char} {p x : String}

/-! ## Stars for names -/

/-- Fuel for each character is enough. -/
theorem starSegments_fuel {fuel fuel' : Nat} (h : s.length ≤ fuel) (h' : s.length ≤ fuel') :
    starSegments fuel s = starSegments fuel' s := by
  induction fuel generalizing fuel' s with
  | zero =>
      obtain rfl := List.length_eq_zero_iff.1 (Nat.le_zero.1 h)
      cases fuel' <;> rfl
  | succ fuel ih =>
      cases s with
      | nil => cases fuel' <;> rfl
      | cons c r =>
          obtain ⟨fuel', rfl⟩ := Nat.exists_eq_add_one_of_ne_zero (Nat.ne_zero_of_lt h')
          have hr : r.length ≤ fuel := Nat.le_of_succ_le_succ h
          have hr' : r.length ≤ fuel' := Nat.le_of_succ_le_succ h'
          by_cases hc : c = '\x7b'
          · subst hc
            rw [starSegments, starSegments]
            cases hcut : cut? '\x7d' r with
            | none => rfl
            | some found =>
                obtain ⟨name, rest⟩ := found
                obtain ⟨rfl, -⟩ := cut?_eq_some hcut
                simp only [List.length_append, List.length_cons] at hr hr'
                exact congrArg (List.cons '*') (ih (by omega) (by omega))
          · simp only [starSegments]
            rw [ih hr hr']

/-- The text with a star in place of each name in braces. -/
def starred (s : List Char) : List Char := starSegments s.length s

theorem pathPattern_eq (p : String) : pathPattern p = String.ofList (starred p.toList) := rfl

theorem toList_pathPattern (p : String) : (pathPattern p).toList = starred p.toList := by
  rw [pathPattern_eq, String.toList_ofList]

@[simp]
theorem starred_nil : starred [] = [] := rfl

theorem starred_cons (hc : c ≠ '\x7b') : starred (c :: r) = c :: starred r := by
  simp [starred, starSegments]

/-- A name between braces becomes one star, whatever the name is. -/
theorem starred_name (hname : '\x7d' ∉ name) :
    starred ('\x7b' :: (name ++ '\x7d' :: r)) = '*' :: starred r := by
  rw [starred, List.length_cons, starSegments, cut?_append hname]
  exact congrArg (List.cons '*') (starSegments_fuel (by simp; omega) (Nat.le_refl _))

/-- A brace that is never closed stays as it is. -/
theorem starred_open (hr : '\x7d' ∉ r) : starred ('\x7b' :: r) = '\x7b' :: r := by
  rw [starred, List.length_cons, starSegments, cut?_eq_none_iff.2 hr]

/-- A text without opening braces stays as it is. -/
theorem starred_of_not_mem (hs : '\x7b' ∉ s) : starred s = s := by
  induction s with
  | nil => rfl
  | cons c r ih =>
      obtain ⟨hc, hr⟩ := List.ne_and_not_mem_of_not_mem_cons hs
      rw [starred_cons (Ne.symm hc), ih hr]

/-- Behind a text nothing changes where there are no braces. -/
theorem starred_append (hopen : '\x7b' ∉ t) (hclose : '\x7d' ∉ t) :
    starred (s ++ t) = starred s ++ t := by
  induction hn : s.length using Nat.strongRecOn generalizing s with
  | _ n ih =>
      subst hn
      cases s with
      | nil => exact starred_of_not_mem hopen
      | cons c r =>
          by_cases hc : c = '\x7b'
          · subst hc
            cases hcut : cut? '\x7d' r with
            | none =>
                have hr := cut?_eq_none_iff.1 hcut
                rw [List.cons_append, starred_open hr, starred_open (by simp [hr, hclose])]
                rfl
            | some found =>
                obtain ⟨name, rest⟩ := found
                obtain ⟨rfl, hname⟩ := cut?_eq_some hcut
                rw [List.cons_append, List.append_assoc, List.cons_append, starred_name hname,
                  starred_name hname, ih rest.length (by simp; omega) rfl]
                rfl
          · rw [List.cons_append, starred_cons hc, starred_cons hc,
              ih r.length (Nat.lt_succ_self _) rfl]
            rfl

/-! ## Matching -/

theorem pathStem?_eq_some_iff {pattern : String} :
    pathStem? pattern = some x ↔ pattern.toList = x.toList ++ Glob.subtree := by
  rw [pathStem?, Option.map_eq_some_iff]
  constructor
  · rintro ⟨r, hr, rfl⟩
    rw [String.toList_ofList]
    exact before?_eq_some_iff.1 hr
  · intro h
    exact ⟨x.toList, before?_eq_some_iff.2 h, String.ofList_toList⟩

/-- A path operator keeps the pattern, its glob and its stem. -/
theorem compile_eq_path_iff {pattern : String} {g : Glob} {stem : Option String} :
    compile "match" p = path pattern g stem ↔
      pathPattern p = pattern ∧ Glob.read? pattern = some g ∧ pathStem? pattern = stem := by
  cases hg : Glob.read? (pathPattern p) with
  | none =>
      simp only [compile, hg]
      exact ⟨nofun, by rintro ⟨rfl, hread, -⟩; rw [hg] at hread; cases hread⟩
  | some g' =>
      simp only [compile, hg, path.injEq]
      refine and_congr_right ?_
      rintro rfl
      rw [hg, Option.some.injEq]

/-- What a path pattern matches: what its glob accepts, and what stands before a final `/**`. -/
theorem path_isMatch_iff {g : Glob} (hg : Glob.read? (pathPattern p) = some g) :
    (compile "match" p).isMatch x = true ↔
      g.isMatch x = true ∨ pathStem? (pathPattern p) = some x := by
  rw [compile_eq_path_iff.2 ⟨rfl, hg, rfl⟩, isMatch, Bool.or_eq_true, beq_iff_eq]

theorem pathPattern_subtree (p : String) :
    (pathPattern (p ++ "/**")).toList = (pathPattern p).toList ++ Glob.subtree := by
  rw [toList_pathPattern, toList_pathPattern, String.toList_append]
  exact starred_append (by decide) (by decide)

/-- **With `/**` behind it** a pattern is read as well, and matches what the deeper glob accepts and
the pattern itself, with stars for names. -/
theorem read?_subtree {g : Glob} (hg : Glob.read? (pathPattern p) = some g) :
    Glob.read? (pathPattern (p ++ "/**")) =
      some (Glob.deepened none [] (pathPattern p).toList g) := by
  rw [Glob.read?_eq_some_iff] at hg ⊢
  rw [pathPattern_subtree]
  exact hg.deeper

/-- With `/**` behind it a pattern matches more deeply, or else the stem as it was written. -/
theorem isMatch_subtree_iff {g : Glob} (hg : Glob.read? (pathPattern p) = some g) :
    (compile "match" (p ++ "/**")).isMatch x = true ↔
      Glob.isMatch (Glob.deepened none [] (pathPattern p).toList g) x = true ∨
        x = pathPattern p := by
  rw [path_isMatch_iff (read?_subtree hg), pathStem?_eq_some_iff, pathPattern_subtree,
    List.append_left_inj, String.toList_inj, eq_comm (a := x)]

end Gatehouse.Match.Operator
