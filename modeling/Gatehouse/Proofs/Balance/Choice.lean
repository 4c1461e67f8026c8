import Gatehouse.Balance.Pool

/-!
# What is chosen

Every strategy picks one of the candidates it is given, whatever it remembers and however chance
falls (`mem_of_pick`); those that use no ring pick one whenever there is one (`exists_pick`). So a
pool that chooses for a selector **chooses a healthy backend of the selector**
(`mem_candidates_of_choose`), and it changes nothing but what the strategies remember
(`lists_choose`).
-/

namespace Gatehouse.Balance

/-! ## Picking -/

theorem mem_of_pickUniform {roll : Nat} {candidates : List α} {x : α}
    (h : pickUniform roll candidates = some x) : x ∈ candidates := List.mem_of_getElem? h

theorem mem_of_atPoint {weighted : List (α × Nat)} {point : Nat} {x : α}
    (h : atPoint weighted point = some x) : x ∈ weighted.map Prod.fst := by
  induction weighted generalizing point with
  | nil => cases h
  | cons e weighted ih =>
      obtain ⟨y, w⟩ := e
      rw [atPoint] at h
      rw [List.map_cons]
      split at h
      · cases h
        exact List.mem_cons_self
      · exact List.mem_cons_of_mem y (ih h)

theorem mem_of_pickWeighted {now roll : Nat} {candidates : List Backend} {b : Backend}
    (h : pickWeighted now roll candidates = some b) : b ∈ candidates := by
  have hfst : (candidates.map fun b => (b, b.effectiveWeight now)).map Prod.fst = candidates := by
    rw [List.map_map]
    exact List.map_id candidates
  unfold pickWeighted at h
  simp only at h
  split at h
  · exact mem_of_pickUniform h
  · rcases Option.or_eq_some_iff.1 h with hpoint | ⟨-, hlast⟩
    · have hmem := mem_of_atPoint hpoint
      rwa [hfst] at hmem
    · exact List.mem_of_getLast? hlast

/-- The address may come from an older ring, yet the answer is always looked up among the
candidates. -/
theorem mem_of_pickOnRing {scatter : Scatter} {m : Memory} {key : Key} {candidates : List Backend}
    {b : Backend} (h : (pickOnRing scatter m key candidates).1 = some b) : b ∈ candidates := by
  obtain ⟨url, -, hfind⟩ := Option.bind_eq_some_iff.1 h
  exact List.mem_of_find?_eq_some hfind

/-- **Every strategy** picks one of the candidates. -/
theorem mem_of_pick {scatter : Scatter} {s : Strategy} {moment : Moment} {m : Memory} {key : Key}
    {candidates : List Backend} {b : Backend}
    (h : (pick scatter s moment m key candidates).1 = some b) : b ∈ candidates := by
  unfold pick at h
  split at h
  · cases h
  · cases s with
    | hash => exact mem_of_pickOnRing h
    | random => exact mem_of_pickUniform h
    | roundRobin => exact List.mem_of_getElem? h
    | weightedRandom => exact mem_of_pickWeighted h

/-! ## That there is a pick -/

theorem exists_pickUniform {candidates : List α} (h : candidates ≠ []) (roll : Nat) :
    ∃ x, pickUniform roll candidates = some x :=
  ⟨_, List.getElem?_eq_getElem (Nat.mod_lt roll (List.length_pos_iff.2 h))⟩

/-- Where nothing weighs anything the choice is uniform, so one is found in either case. -/
theorem exists_pickWeighted {candidates : List Backend} (h : candidates ≠ []) (now roll : Nat) :
    ∃ b, pickWeighted now roll candidates = some b := by
  unfold pickWeighted
  simp only
  split
  · exact exists_pickUniform h roll
  · rw [← Option.isSome_iff_exists, Option.isSome_or, Bool.or_eq_true]
    exact Or.inr (List.getLast?_isSome.2 h)

/-- **By turns or by chance** one of the candidates is always picked. -/
theorem exists_pick {s : Strategy} (hs : s ≠ .hash) {candidates : List Backend}
    (h : candidates ≠ []) (scatter : Scatter) (moment : Moment) (m : Memory) (key : Key) :
    ∃ b, (pick scatter s moment m key candidates).1 = some b := by
  unfold pick
  rw [if_neg (mt List.isEmpty_iff.1 h)]
  cases s with
  | hash => exact absurd rfl hs
  | random => exact exists_pickUniform h moment.roll
  | roundRobin => exact exists_pickUniform h _
  | weightedRandom => exact exists_pickWeighted h moment.epochMs moment.roll

/-! ## Choosing -/

namespace Pool

variable {scatter : Scatter} {p : Pool} {moment : Moment} {selector : String} {key : Key}

theorem mem_candidates_iff {b : Backend} :
    b ∈ p.candidates selector ↔ b ∈ p.of selector ∧ b.healthy = true := List.mem_filter

/-- Candidates are found in the lists, which is all that a choice leaves as it is. -/
theorem candidates_congr {q : Pool} (h : q.lists = p.lists) (selector : String) :
    q.candidates selector = p.candidates selector := by
  unfold candidates of
  rw [h]

/-- A choice changes nothing but what the strategies remember. -/
theorem lists_choose : (p.choose scatter moment selector key).2.lists = p.lists := by
  unfold choose
  simp only
  split
  · rfl
  · split
    · rfl
    · split <;> rfl

theorem choose_of_no_candidates (h : p.candidates selector = []) :
    p.choose scatter moment selector key = (.error (.noBackend selector), p) := by
  unfold choose
  exact if_pos (List.isEmpty_iff.2 h)

/-- A choice fails where not even the fallback is available. -/
theorem choose_of_no_strategy (hs : Strategy.find? p.strategies key.strategy = none) :
    p.choose scatter moment selector key = (.error (.noBackend selector), p) := by
  unfold choose
  simp only [hs, ite_self]

/-- With candidates and a strategy a choice is what the strategy picks. -/
theorem fst_choose (h : p.candidates selector ≠ []) {s : Strategy}
    (hs : Strategy.find? p.strategies key.strategy = some s) :
    (p.choose scatter moment selector key).1 =
      (pick scatter s moment p.memory key (p.candidates selector)).1.elim
        (.error (.noBackend selector)) .ok := by
  unfold choose
  simp only [if_neg (mt List.isEmpty_iff.1 h), hs]
  cases (pick scatter s moment p.memory key (p.candidates selector)).1 <;> rfl

/-- What the strategy remembers is all that a choice leaves behind. -/
theorem snd_choose (h : p.candidates selector ≠ []) {s : Strategy}
    (hs : Strategy.find? p.strategies key.strategy = some s) :
    (p.choose scatter moment selector key).2 =
      { p with memory := (pick scatter s moment p.memory key (p.candidates selector)).2 } := by
  unfold choose
  simp only [if_neg (mt List.isEmpty_iff.1 h), hs]
  cases (pick scatter s moment p.memory key (p.candidates selector)).1 <;> rfl

/-- **A choice** falls on a candidate. -/
theorem mem_candidates_of_choose {b : Backend}
    (h : (p.choose scatter moment selector key).1 = .ok b) : b ∈ p.candidates selector := by
  unfold choose at h
  simp only at h
  split at h
  · cases h
  · split at h
    · cases h
    · split at h
      · next b' hpick =>
          cases h
          exact mem_of_pick hpick
      · cases h

end Pool

end Gatehouse.Balance
