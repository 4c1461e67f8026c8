import Gatehouse.Proofs.Balance.Choice
import Mathlib.Algebra.Order.BigOperators.Group.List
import Mathlib.Algebra.Order.Ring.Nat
import Mathlib.Order.Interval.Finset.Nat

/-!
# Chances by weight

The weights of some candidates, laid side by side, cover the points below their sum:

    weights   3       0   2     1
    points    0 1 2       3 4   5
    place     0 0 0       2 2   3

A point is followed through the weights: as long as it does not lie below the next one that one is
taken away from it. It ends in the place whose weight covers it (`placeOf_eq_some_iff`). So
**chances are by weight** (`chance_by_weight`): of all points as many fall on a place as the
candidate in it weighs at that time, none for a candidate without weight; and if no candidate has
any, each place has one point of its own.
-/

namespace Gatehouse.Balance

/-! ## Points and places -/

/-- The place in a list of weights on which a point falls. -/
def placeOf (weights : List Nat) (point : Nat) : Option Nat :=
  atPoint (weights.zipIdx.map Prod.swap) point

/-- The differences formed on the way, each of a point and the weight that is taken from it. -/
def differences : List Nat → Nat → List (Nat × Nat)
  | [], _ => []
  | w :: weights, point =>
    if point < w then [] else (point, w) :: differences weights (point - w)

section Places

variable {weights : List Nat} {point i : Nat}

/-- Where a point falls does not depend on what the weights belong to. -/
theorem atPoint_map (f : α → β) (weighted : List (α × Nat)) (point : Nat) :
    atPoint (weighted.map (Prod.map f id)) point = (atPoint weighted point).map f := by
  induction weighted generalizing point with
  | nil => rfl
  | cons e weighted ih =>
      obtain ⟨x, w⟩ := e
      show (if point < w then some (f x) else _) = Option.map f (if point < w then some x else _)
      by_cases h : point < w
      · simp [h]
      · rw [if_neg h, if_neg h]
        exact ih (point - w)

/-- A point falls on the first weight, or as far behind it as it exceeds the weight. -/
theorem placeOf_cons (w : Nat) (weights : List Nat) (point : Nat) :
    placeOf (w :: weights) point =
      if point < w then some 0 else (placeOf weights (point - w)).map (· + 1) := by
  have hnext : (weights.zipIdx 1).map Prod.swap =
      (weights.zipIdx.map Prod.swap).map (Prod.map (· + 1) id) := by
    rw [List.zipIdx_succ, List.map_map, List.map_map]
    rfl
  rw [placeOf, List.zipIdx_cons, List.map_cons, hnext]
  show (if point < w then some 0 else _) = _
  rw [atPoint_map]
  rfl

/-- **A point falls on the place** whose weight covers it, behind all weights before. -/
theorem placeOf_eq_some_iff : placeOf weights point = some i ↔
    (weights.take i).sum ≤ point ∧ point < (weights.take (i + 1)).sum := by
  induction weights generalizing point i with
  | nil => simp [placeOf, atPoint]
  | cons w weights ih =>
      rw [placeOf_cons]
      cases i with
      | zero =>
          by_cases h : point < w
          · simp [h]
          · simp [h]
      | succ i =>
          by_cases h : point < w
          · simp only [h, if_true, List.take_succ_cons, List.sum_cons]
            constructor
            · intro hplace
              cases hplace
            · intro hcovered
              omega
          · simp only [h, if_false, Option.map_eq_some_iff, Nat.succ_inj, exists_eq_right, ih,
              List.take_succ_cons, List.sum_cons]
            omega

/-- Every point below the sum falls on a place. -/
theorem exists_placeOf (h : point < weights.sum) :
    ∃ i, i < weights.length ∧ placeOf weights point = some i := by
  induction weights generalizing point with
  | nil => exact absurd h (Nat.not_lt_zero point)
  | cons w weights ih =>
      rw [placeOf_cons]
      by_cases hw : point < w
      · exact ⟨0, Nat.succ_pos _, if_pos hw⟩
      · rw [List.sum_cons] at h
        obtain ⟨i, hlt, hi⟩ := ih (show point - w < weights.sum by omega)
        refine ⟨i + 1, Nat.succ_lt_succ hlt, ?_⟩
        rw [if_neg hw, hi]
        rfl

/-- **Of the points below the sum** as many fall on a place as it weighs. -/
theorem card_points (hi : i < weights.length) :
    ((Finset.range weights.sum).filter fun point => placeOf weights point = some i).card =
      weights[i] := by
  have hnext : (weights.take (i + 1)).sum = (weights.take i).sum + weights[i] :=
    List.sum_take_succ weights i hi
  have hle : (weights.take (i + 1)).sum ≤ weights.sum :=
    Nat.le.intro (List.sum_take_add_sum_drop weights (i + 1))
  have hpoints : ((Finset.range weights.sum).filter fun point => placeOf weights point = some i) =
      Finset.Ico (weights.take i).sum (weights.take (i + 1)).sum := by
    ext point
    rw [Finset.mem_filter, Finset.mem_range, Finset.mem_Ico, placeOf_eq_some_iff]
    constructor
    · exact And.right
    · intro h
      exact ⟨Nat.lt_of_lt_of_le h.2 hle, h⟩
  rw [hpoints, Nat.card_Ico, hnext, Nat.add_sub_cancel_left]

theorem weight_pos_of_placeOf (h : placeOf weights point = some i) (hi : i < weights.length) :
    0 < weights[i] := by
  have hnext := List.sum_take_succ weights i hi
  have hcovered := placeOf_eq_some_iff.1 h
  omega

/-- All the differences exist. -/
theorem le_of_mem_differences {d : Nat × Nat} (h : d ∈ differences weights point) : d.2 ≤ d.1 := by
  induction weights generalizing point with
  | nil => cases h
  | cons w weights ih =>
      rw [differences] at h
      split at h
      · cases h
      · next hw =>
          rcases List.mem_cons.1 h with rfl | h
          · exact Nat.le_of_not_lt hw
          · exact ih h

end Places

/-! ## Candidates -/

/-- A backend that does not warm up, or no longer, has all its weight. -/
theorem Backend.effectiveWeight_of_warm {b : Backend} {now : Nat}
    (h : b.warmup = 0 ∨ b.started + b.warmup ≤ now) : b.effectiveWeight now = b.weight := by
  unfold Backend.effectiveWeight
  split
  · rfl
  · exact if_pos (by omega)

section Candidates

variable {now : Nat} {candidates : List Backend}

theorem totalWeight_map (f : α → Nat) (l : List α) :
    totalWeight (l.map fun x => (x, f x)) = (l.map f).sum := by
  induction l with
  | nil => rfl
  | cons x l ih =>
      rw [List.map_cons, List.map_cons, List.sum_cons, totalWeight, ih]

/-- The candidate at a point is the one in its place. -/
theorem atPoint_map_weight (f : α → Nat) (l : List α) (point : Nat) :
    atPoint (l.map fun x => (x, f x)) point = (placeOf (l.map f) point).bind (l[·]?) := by
  induction l generalizing point with
  | nil => rfl
  | cons x l ih =>
      rw [List.map_cons, List.map_cons, placeOf_cons, atPoint, ih]
      by_cases h : point < f x
      · simp [h]
      · rw [if_neg h, if_neg h, Option.bind_map]
        rfl

def weightsAt (now : Nat) (candidates : List Backend) : List Nat :=
  candidates.map fun b => b.effectiveWeight now

theorem length_weightsAt : (weightsAt now candidates).length = candidates.length :=
  List.length_map _

/-- The place in a list of candidates on which a roll falls. -/
def placeAt (now roll : Nat) (candidates : List Backend) : Option Nat :=
  if (weightsAt now candidates).sum = 0 then some (roll % candidates.length)
  else placeOf (weightsAt now candidates) (roll % (weightsAt now candidates).sum)

/-- Weights decide unless they are all zero. -/
theorem pickWeighted_eq (now roll : Nat) (candidates : List Backend) :
    pickWeighted now roll candidates =
      if (weightsAt now candidates).sum = 0 then pickUniform roll candidates
      else (atPoint (candidates.map fun b => (b, b.effectiveWeight now))
        (roll % (weightsAt now candidates).sum)).or candidates.getLast? := by
  unfold pickWeighted
  simp only [totalWeight_map]
  rfl

/-- What is picked is the candidate in the place on which the roll falls. -/
theorem exists_placeAt (hne : candidates ≠ []) (now roll : Nat) :
    ∃ i b, placeAt now roll candidates = some i ∧ candidates[i]? = some b ∧
      pickWeighted now roll candidates = some b := by
  rw [placeAt, pickWeighted_eq]
  by_cases hzero : (weightsAt now candidates).sum = 0
  · rw [if_pos hzero, if_pos hzero]
    obtain ⟨b, hb⟩ := exists_pickUniform hne roll
    exact ⟨_, b, rfl, hb, hb⟩
  · rw [if_neg hzero, if_neg hzero]
    obtain ⟨i, hlt, hi⟩ := exists_placeOf (Nat.mod_lt roll (Nat.pos_of_ne_zero hzero))
    rw [length_weightsAt] at hlt
    have hget : candidates[i]? = some candidates[i] := List.getElem?_eq_getElem hlt
    refine ⟨i, candidates[i], hi, hget, ?_⟩
    rw [atPoint_map_weight, ← weightsAt, hi, Option.bind_some, hget, Option.some_or]

/-- A roll falls on the place of the point below the sum that it is worth. -/
theorem placeAt_of_weight (hpos : 0 < (weightsAt now candidates).sum) (roll : Nat) :
    placeAt now roll candidates =
      placeOf (weightsAt now candidates) (roll % (weightsAt now candidates).sum) :=
  if_neg (Nat.pos_iff_ne_zero.1 hpos)

theorem placeAt_of_no_weight (hzero : (weightsAt now candidates).sum = 0) (roll : Nat) :
    placeAt now roll candidates = some (roll % candidates.length) := if_pos hzero

/-- As long as anything weighs something, what weighs nothing is not chosen. -/
theorem weight_ne_zero_of_placeAt (hpos : 0 < (weightsAt now candidates).sum) {roll i : Nat}
    {b : Backend} (hplace : placeAt now roll candidates = some i) (hb : candidates[i]? = some b) :
    b.weight ≠ 0 := by
  intro hzero
  rw [placeAt_of_weight hpos] at hplace
  obtain ⟨hlt, rfl⟩ := List.getElem?_eq_some_iff.1 hb
  have hcovering := weight_pos_of_placeOf hplace (length_weightsAt.symm ▸ hlt)
  simp only [weightsAt, List.getElem_map] at hcovering
  rw [(candidates[i].effectiveWeight_eq_zero_iff now).2 hzero] at hcovering
  exact Nat.lt_irrefl 0 hcovering

/-- The walk to a point below the sum ends at a candidate. -/
theorem atPoint_ne_none {point : Nat} (h : point < (weightsAt now candidates).sum) :
    atPoint (candidates.map fun b => (b, b.effectiveWeight now)) point ≠ none := by
  obtain ⟨i, hlt, hi⟩ := exists_placeOf h
  rw [length_weightsAt] at hlt
  rw [atPoint_map_weight, ← weightsAt, hi, Option.bind_some, List.getElem?_eq_getElem hlt]
  exact Option.some_ne_none _

/-- Those of the first points that fall on a place. -/
def pointsOn (now : Nat) (candidates : List Backend) (n i : Nat) : Finset Nat :=
  (Finset.range n).filter fun point => placeAt now point candidates = some i

/-- On a backend fall as many points as it weighs. -/
theorem card_pointsOn_of_weight (hpos : 0 < (weightsAt now candidates).sum) {i : Nat}
    (hi : i < (weightsAt now candidates).length) :
    (pointsOn now candidates (weightsAt now candidates).sum i).card =
      (weightsAt now candidates)[i] := by
  rw [← card_points hi, pointsOn]
  congr 1
  apply Finset.filter_congr
  intro point hpoint
  rw [placeAt_of_weight hpos, Nat.mod_eq_of_lt (Finset.mem_range.1 hpoint)]

/-- Without any weights one point falls on each candidate. -/
theorem card_pointsOn_of_no_weight (hzero : (weightsAt now candidates).sum = 0) {i : Nat}
    (hi : i < candidates.length) : (pointsOn now candidates candidates.length i).card = 1 := by
  have hpoint : pointsOn now candidates candidates.length i = {i} := by
    ext point
    rw [pointsOn, Finset.mem_filter, Finset.mem_range, Finset.mem_singleton,
      placeAt_of_no_weight hzero, Option.some_inj]
    constructor
    · rintro ⟨hlt, hmod⟩
      rwa [Nat.mod_eq_of_lt hlt] at hmod
    · rintro rfl
      exact ⟨hi, Nat.mod_eq_of_lt hi⟩
  rw [hpoint, Finset.card_singleton]

/-- The sum of all weights fits in a word. -/
theorem sum_weightsAt_lt (hlength : candidates.length < 2 ^ 32)
    (hwords : ∀ b ∈ candidates, b.weight < 2 ^ 32) : (weightsAt now candidates).sum < 2 ^ 64 := by
  have hle : (weightsAt now candidates).sum ≤ (weightsAt now candidates).length * (2 ^ 32 - 1) := by
    apply List.sum_le_card_nsmul
    intro w hw
    obtain ⟨b, hb, rfl⟩ := List.mem_map.1 hw
    have hword := hwords b hb
    exact (b.effectiveWeight_le now).trans (by omega)
  rw [length_weightsAt] at hle
  omega

end Candidates

/-- **Chances are by weight.** Every roll falls on a place, and what is picked is the candidate in
it. If any candidate has weight at the time, then of the points below the sum, which fits in a word,
exactly as many fall on a place as the candidate in it weighs; none falls on a candidate without
weight, no weight is taken from a smaller point on the way, and the way ends at a candidate, not
behind the last one. If none has any, exactly one of as many points as there are candidates falls on
each place. A backend has no weight at a time exactly if it was given none; otherwise at least one
and no more than it was given, and all of it without a warm-up or after it. -/
theorem chance_by_weight (now : Nat) {candidates : List Backend} (hne : candidates ≠ [])
    (hlength : candidates.length < 2 ^ 32) (hwords : ∀ b ∈ candidates, b.weight < 2 ^ 32) :
    let weights := weightsAt now candidates
    (∀ scatter elapsed roll m key, ∃ i b, placeAt now roll candidates = some i ∧
      candidates[i]? = some b ∧
      pick scatter .weightedRandom ⟨now, elapsed, roll⟩ m key candidates = (some b, m)) ∧
    weights.sum < 2 ^ 64 ∧
    (0 < weights.sum →
      (∀ (i : Nat) (hi : i < weights.length),
        (pointsOn now candidates weights.sum i).card = weights[i]) ∧
      (∀ roll i b, placeAt now roll candidates = some i → candidates[i]? = some b →
        b.weight ≠ 0) ∧
      ∀ point < weights.sum, (∀ d ∈ differences weights point, d.2 ≤ d.1) ∧
        atPoint (candidates.map fun b => (b, b.effectiveWeight now)) point ≠ none) ∧
    (weights.sum = 0 →
      ∀ i < candidates.length, (pointsOn now candidates candidates.length i).card = 1) ∧
    ∀ b : Backend, (b.effectiveWeight now = 0 ↔ b.weight = 0) ∧
      (b.weight ≠ 0 → 1 ≤ b.effectiveWeight now ∧ b.effectiveWeight now ≤ b.weight) ∧
      (b.warmup = 0 ∨ b.started + b.warmup ≤ now → b.effectiveWeight now = b.weight) := by
  intro weights
  refine ⟨?_, sum_weightsAt_lt hlength hwords, ?_, ?_, ?_⟩
  · intro scatter elapsed roll m key
    obtain ⟨i, b, hi, hb, hpick⟩ := exists_placeAt hne now roll
    refine ⟨i, b, hi, hb, ?_⟩
    rw [pick, if_neg (mt List.isEmpty_iff.1 hne)]
    show (pickWeighted now roll candidates, m) = _
    rw [hpick]
  · -- all three are facts about the points below the sum
    intro hpos
    refine ⟨fun i hi => card_pointsOn_of_weight hpos hi,
      fun roll i b => weight_ne_zero_of_placeAt hpos, ?_⟩
    intro point hpoint
    exact ⟨fun d => le_of_mem_differences, atPoint_ne_none hpoint⟩
  · intro hzero i hi
    exact card_pointsOn_of_no_weight hzero hi
  · intro b
    have hzero := b.effectiveWeight_eq_zero_iff now
    refine ⟨hzero, ?_, Backend.effectiveWeight_of_warm⟩
    intro hweight
    exact ⟨Nat.one_le_iff_ne_zero.2 (mt hzero.1 hweight), b.effectiveWeight_le now⟩

/-- A backend that started after a second. -/
def weighing (url : String) (weight warmup : Nat) : Backend :=
  ⟨url, "http://", weight, true, 1000, warmup⟩

/-- One that warms up, one without weight and one without a warm-up. -/
def warming : List Backend := [weighing "a" 4 200, weighing "b" 0 0, weighing "c" 1 0]

/-- Halfway through its warm-up the first one has two points, and the third one has one. -/
theorem chance_by_weight_warming :
    warming ≠ [] ∧ warming.length < 2 ^ 32 ∧ (∀ b ∈ warming, b.weight < 2 ^ 32) ∧
    weightsAt 1100 warming = [2, 0, 1] ∧ (pointsOn 1100 warming 3 0).card = 2 ∧
    (pointsOn 1100 warming 3 1).card = 0 ∧ (pointsOn 1100 warming 3 2).card = 1 := by
  have hne : warming ≠ [] := List.cons_ne_nil _ _
  have hlength : warming.length < 2 ^ 32 := by decide
  have hwords : ∀ b ∈ warming, b.weight < 2 ^ 32 := by decide
  have hweights : weightsAt 1100 warming = [2, 0, 1] := by decide +kernel
  obtain ⟨-, -, hpoints, -⟩ := chance_by_weight 1100 hne hlength hwords
  simp only [hweights] at hpoints
  obtain ⟨hcard, -⟩ := hpoints (by decide)
  exact ⟨hne, hlength, hwords, hweights, hcard 0 (by decide), hcard 1 (by decide),
    hcard 2 (by decide)⟩

end Gatehouse.Balance
