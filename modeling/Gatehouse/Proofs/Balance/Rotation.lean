import Gatehouse.Proofs.Balance.Runs
import Mathlib.Algebra.Ring.Nat
import Mathlib.Data.List.Rotate

/-!
# Going round

For each selector there is a counter. Whoever asks by turns gets the candidate in the place that the
counter of the selector in the key shows, and the counter goes up by one:

    counter        5 ──────▶ 6 ──────▶ 7 ──────▶ 8
    of [a, b, c]      c         a         b

Nothing else moves a counter, but that it starts anew when its selector is taken out
(`counter_after`). So for as long as the candidates stay the same **the choices by turns go round**
(`turns_go_round`): whatever is done in between, they follow the list from where the counter was,
and from its end on from its start again.

This takes a counter that nobody else moves (`Op.Owns`), for it is found by the selector in the key
alone. One who asks for another selector with this one in the key takes a turn away
(`not_turns_go_round`).
-/

namespace Gatehouse.Balance

/-! ## Asking by turns -/

namespace Op

variable {strategies : List Strategy} {op : Op} {selector : String}

/-- The selector that an operation asks for by turns, and the one in its key. -/
def turn? (strategies : List Strategy) : Op → Option (String × String)
  | .choose _ selector key =>
    if Strategy.find? strategies key.strategy = some .roundRobin then some (selector, key.selector)
    else none
  | .put _ _ | .remove _ | .report _ _ => none

/-- An operation moves the counter of a selector only for this selector, and for it no other. -/
def Owns (strategies : List Strategy) (selector : String) (op : Op) : Prop :=
  ∀ asked counted, op.turn? strategies = some (asked, counted) →
    (asked = selector ↔ counted = selector)

/-- It is enough to ask with the selector asked for in the key. -/
theorem owns_choose {moment : Moment} {asked client strategy : String} :
    (Op.choose moment asked ⟨client, asked, strategy⟩).Owns strategies selector := by
  intro s t hturn
  obtain ⟨-, hpair⟩ := Option.ite_none_right_eq_some.1 hturn
  cases hpair
  exact Iff.rfl

end Op

/-- How many of some operations ask by turns. -/
def turnsIn (strategies : List Strategy) (ops : List Op) : Nat :=
  ops.countP fun op => (op.turn? strategies).isSome

theorem turnsIn_append (strategies : List Strategy) (before ops : List Op) :
    turnsIn strategies (before ++ ops) = turnsIn strategies before + turnsIn strategies ops :=
  List.countP_append

theorem turnsIn_cons (strategies : List Strategy) (op : Op) (ops : List Op) :
    turnsIn strategies (op :: ops) = turnsIn strategies [op] + turnsIn strategies ops :=
  turnsIn_append strategies [op] ops

theorem turnsIn_of_turn? {strategies : List Strategy} {op : Op} {turn : String × String}
    (h : op.turn? strategies = some turn) : turnsIn strategies [op] = 1 := by
  rw [turnsIn, List.countP_singleton, h]
  rfl

namespace Pool

variable {scatter : Scatter} {p : Pool} {op : Op} {ops : List Op} {selector : String}
  {candidates : List Backend}

/-- The counter of a selector. -/
def counter (p : Pool) (selector : String) : UInt64 := (p.memory.turns.get? selector).getD 0

/-- The answer to an operation that asks for a selector by turns. -/
def turnFor? (scatter : Scatter) (selector : String) (p : Pool) :
    Op → Option (Except Fault Backend)
  | .choose moment asked key =>
    if asked = selector ∧ Strategy.find? p.strategies key.strategy = some .roundRobin then
      some (p.choose scatter moment asked key).1
    else none
  | .put _ _ | .remove _ | .report _ _ => none

/-- The answers to the operations that ask for a selector by turns, one after the other. -/
def turnsFor (scatter : Scatter) (selector : String) (p : Pool) :
    List Op → List (Except Fault Backend)
  | [] => []
  | op :: ops =>
    (p.turnFor? scatter selector op).toList ++ (p.after scatter op).turnsFor scatter selector ops

/-! ## The counter -/

/-- Turns are counted by round robin alone, and for the selector in question alone. -/
theorem turns_pick (s : Strategy) (moment : Moment) (m : Memory) (key : Key)
    (hne : candidates ≠ []) :
    (pick scatter s moment m key candidates).2.turns =
      if s = .roundRobin then
        m.turns.insert key.selector ((m.turns.get? key.selector).getD 0 + 1)
      else m.turns := by
  unfold pick
  rw [if_neg (mt List.isEmpty_iff.1 hne)]
  cases s <;> rfl

theorem counter_put (p : Pool) (s selector : String) (backends : List Backend) :
    (p.put s backends).counter selector =
      if selector = s ∧ backends = [] then 0 else p.counter selector := by
  rw [counter, memory_put]
  by_cases hnone : backends = []
  · rw [if_pos hnone, Memory.forget, Table.get?_erase]
    by_cases hs : selector = s
    · simp [hs, hnone]
    · simp [hs, counter]
  · simp [hnone, counter]

theorem counter_remove (p : Pool) (s selector : String) :
    (p.remove s).counter selector = if selector = s then 0 else p.counter selector := by
  rw [counter, remove, Memory.forget, Table.get?_erase]
  split <;> rfl

/-- A choice by round robin moves the counter of its selector on by one. -/
theorem counter_choose {moment : Moment} {asked : String} {key : Key} {s : Strategy}
    (hne : p.candidates asked ≠ []) (hs : Strategy.find? p.strategies key.strategy = some s)
    (selector : String) :
    (p.choose scatter moment asked key).2.counter selector =
      if s = .roundRobin ∧ key.selector = selector then p.counter selector + 1
      else p.counter selector := by
  rw [snd_choose hne hs, counter, turns_pick s moment p.memory key hne]
  by_cases hround : s = .roundRobin
  · rw [if_pos hround, Table.get?_insert]
    by_cases hkey : key.selector = selector
    · simp [hround, hkey, counter]
    · simp [hkey, Ne.symm hkey, counter]
  · simp [hround, counter]

/-- **One operation** on a counter: it starts anew, it goes up, or it stays. -/
theorem counter_after (scatter : Scatter) (p : Pool) (op : Op) (selector : String) :
    (op.given? selector = some [] ∧ (p.after scatter op).counter selector = 0) ∨
    (∃ asked, op.turn? p.strategies = some (asked, selector) ∧ p.candidates asked ≠ [] ∧
      (p.after scatter op).counter selector = p.counter selector + 1) ∨
    ((∀ asked, op.turn? p.strategies = some (asked, selector) → p.candidates asked = []) ∧
      (p.after scatter op).counter selector = p.counter selector) := by
  cases op with
  | put s backends =>
      rw [after, counter_put, Op.given?]
      by_cases h : selector = s ∧ backends = []
      · exact Or.inl (by simp [h])
      · refine Or.inr (Or.inr ⟨?_, if_neg h⟩)
        intro asked hturn
        cases hturn
  | remove s =>
      rw [after, counter_remove, Op.given?]
      by_cases h : selector = s
      · exact Or.inl (by simp [h])
      · refine Or.inr (Or.inr ⟨?_, if_neg h⟩)
        intro asked hturn
        cases hturn
  | report url healthy =>
      refine Or.inr (Or.inr ⟨?_, rfl⟩)
      intro asked hturn
      cases hturn
  | choose moment asked key =>
      right
      rw [after, Op.turn?]
      by_cases hne : p.candidates asked = []
      · right
        rw [choose_of_no_candidates hne]
        refine ⟨?_, rfl⟩
        intro asked' hturn
        obtain ⟨-, hasked⟩ := Option.ite_none_right_eq_some.1 hturn
        cases hasked
        exact hne
      · cases hs : Strategy.find? p.strategies key.strategy with
        | none =>
            rw [choose_of_no_strategy hs]
            refine Or.inr ⟨?_, rfl⟩
            intro asked' hturn
            cases hturn
        | some s =>
            rw [counter_choose hne hs]
            -- only a choice by turns for this very selector is counted
            by_cases h : s = .roundRobin ∧ key.selector = selector
            · obtain ⟨rfl, rfl⟩ := h
              exact Or.inl ⟨asked, rfl, hne, by simp⟩
            · right
              refine ⟨?_, if_neg h⟩
              intro asked' hturn
              obtain ⟨hround, hasked⟩ := Option.ite_none_right_eq_some.1 hturn
              cases hasked
              exact absurd ⟨Option.some.inj hround, rfl⟩ h

/-- A counter goes up only where someone asks by turns. -/
theorem toNat_counter_after_le (scatter : Scatter) (p : Pool) (op : Op) (selector : String) :
    ((p.after scatter op).counter selector).toNat ≤
      (p.counter selector).toNat + turnsIn p.strategies [op] := by
  rcases counter_after scatter p op selector with
    ⟨-, hnew⟩ | ⟨asked, hturn, -, hup⟩ | ⟨-, hsame⟩
  · rw [hnew]
    exact Nat.zero_le _
  · rw [hup, UInt64.toNat_add, turnsIn_of_turn? hturn]
    exact Nat.mod_le _ _
  · rw [hsame]
    exact Nat.le_add_right _ _

/-- A counter is never ahead of the turns that were taken. -/
theorem toNat_counter_afterAll_le (scatter : Scatter) (p : Pool) (ops : List Op)
    (selector : String) :
    ((p.afterAll scatter ops).counter selector).toNat ≤
      (p.counter selector).toNat + turnsIn p.strategies ops := by
  induction ops generalizing p with
  | nil => exact Nat.le_add_right _ _
  | cons op ops ih =>
      have hone := toNat_counter_after_le scatter p op selector
      have hrest := ih (p.after scatter op)
      rw [strategies_after] at hrest
      rw [turnsIn_cons]
      apply hrest.trans
      omega

/-! ## Going round -/

/-- The candidates of a selector are the same ones before, during and after some operations. -/
def Steady (scatter : Scatter) (selector : String) (candidates : List Backend) (p : Pool)
    (ops : List Op) : Prop :=
  ∀ done, done <+: ops → (p.afterAll scatter done).candidates selector = candidates

theorem Steady.head (h : Steady scatter selector candidates p ops) :
    p.candidates selector = candidates := h [] List.nil_prefix

theorem Steady.tail (h : Steady scatter selector candidates p (op :: ops)) :
    Steady scatter selector candidates (p.after scatter op) ops :=
  fun done hdone => h (op :: done) (List.prefix_cons_inj op |>.2 hdone)

/-- Whoever asks by turns gets the candidate in the place that the counter shows. -/
theorem turnFor?_eq (hne : p.candidates selector ≠ []) {counted : String}
    (hturn : op.turn? p.strategies = some (selector, counted)) :
    p.turnFor? scatter selector op =
      (p.candidates selector)[(p.counter counted).toNat % (p.candidates selector).length]?.map
        .ok := by
  cases op with
  | put s backends => cases hturn
  | remove s => cases hturn
  | report url healthy => cases hturn
  | choose moment asked key =>
      obtain ⟨hs, hasked⟩ := Option.ite_none_right_eq_some.1 hturn
      cases hasked
      rw [turnFor?, if_pos ⟨rfl, hs⟩, fst_choose hne hs, pick, if_neg (mt List.isEmpty_iff.1 hne)]
      show some ((p.candidates selector)[(p.counter key.selector).toNat % _]?.elim _ _) = _
      rw [List.getElem?_eq_getElem (Nat.mod_lt _ (List.length_pos_iff.2 hne))]
      rfl

/-- Nobody else is answered. -/
theorem turnFor?_eq_none (h : ∀ counted, op.turn? p.strategies ≠ some (selector, counted)) :
    p.turnFor? scatter selector op = none := by
  cases op with
  | put s backends => rfl
  | remove s => rfl
  | report url healthy => rfl
  | choose moment asked key =>
      apply if_neg
      rintro ⟨rfl, hs⟩
      exact h key.selector (if_pos hs)

/-- **One operation** on a selector whose candidates stay: it answers with the candidate whose turn
it is, and then it is the turn of the next one, or it answers nobody and moves nothing. -/
theorem turnFor?_after (hne : candidates ≠ []) (hbefore : p.candidates selector = candidates)
    (hafter : (p.after scatter op).candidates selector = candidates)
    (howns : op.Owns p.strategies selector) :
    (p.turnFor? scatter selector op = none ∧
      (p.after scatter op).counter selector = p.counter selector) ∨
    (p.turnFor? scatter selector op =
        candidates[(p.counter selector).toNat % candidates.length]?.map .ok ∧
      (p.after scatter op).counter selector = p.counter selector + 1 ∧
      turnsIn p.strategies [op] = 1) := by
  subst hbefore
  rcases counter_after scatter p op selector with
    ⟨hgiven, -⟩ | ⟨asked, hturn, -, hup⟩ | ⟨hidle, hsame⟩
  · -- a selector that is taken out has no candidates
    rw [Pool.candidates, of_after, hgiven] at hafter
    exact absurd hafter.symm hne
  · obtain rfl := (howns asked selector hturn).2 rfl
    exact Or.inr ⟨turnFor?_eq hne hturn, hup, turnsIn_of_turn? hturn⟩
  · refine Or.inl ⟨turnFor?_eq_none fun counted hturn => ?_, hsame⟩
    obtain rfl := (howns selector counted hturn).1 rfl
    exact hne (hidle counted hturn)

/-- **Many operations**: the answers follow the list from where the counter was. -/
theorem getElem?_turnsFor (hne : candidates ≠ [])
    (hsteady : Steady scatter selector candidates p ops)
    (howns : ∀ op ∈ ops, op.Owns p.strategies selector)
    (hfew : (p.counter selector).toNat + turnsIn p.strategies ops < 2 ^ 64) {i : Nat}
    (hi : i < (p.turnsFor scatter selector ops).length) :
    (p.turnsFor scatter selector ops)[i]? =
      candidates[((p.counter selector).toNat + i) % candidates.length]?.map .ok := by
  induction ops generalizing p i with
  | nil => cases hi
  | cons op ops ih =>
      obtain ⟨hop, hops⟩ := List.forall_mem_cons.1 howns
      rw [turnsIn_cons] at hfew
      have hstrategies : (p.after scatter op).strategies = p.strategies := strategies_after p op
      rw [turnsFor] at hi ⊢
      -- the counter moves exactly with the answers, so it always shows the place of the next one
      rcases turnFor?_after hne hsteady.head hsteady.tail.head hop with
        ⟨hnone, hsame⟩ | ⟨hturn, hup, hone⟩
      · rw [hnone] at hi ⊢
        have hrest := ih hsteady.tail (hstrategies ▸ hops)
          (by rw [hsame, hstrategies]; omega) hi
        rwa [hsame] at hrest
      · have hnext : ((p.after scatter op).counter selector).toNat =
            (p.counter selector).toNat + 1 := by
          rw [hup, UInt64.toNat_add]
          exact Nat.mod_eq_of_lt (by simp; omega)
        have hsome : candidates[(p.counter selector).toNat % candidates.length]? = some _ :=
          List.getElem?_eq_getElem (Nat.mod_lt _ (List.length_pos_iff.2 hne))
        rw [hturn, hsome] at hi ⊢
        cases i with
        | zero =>
            rw [Nat.add_zero, hsome]
            rfl
        | succ i =>
            have hrest := ih hsteady.tail (hstrategies ▸ hops)
              (by rw [hnext, hstrategies]; omega) (Nat.lt_of_succ_lt_succ hi)
            rw [hnext, Nat.add_assoc, Nat.add_comm 1 i] at hrest
            exact hrest

/-- **The choices by turns go round.** Whatever was done before, and whatever is done to other
selectors or asked for in other ways meanwhile: as long as the candidates of a selector stay the
same, as many choices by turns as there are candidates, one after the other, fall on each place of
their list once, in the order of the list, and the next choice falls where the first did. -/
theorem turns_go_round {scatter : Scatter} {strategies : List Strategy} {before stretch : List Op}
    {selector : String} {candidates : List Backend}
    (hfew : turnsIn strategies (before ++ stretch) < 2 ^ 64)
    (hsteady : Steady scatter selector candidates ((empty strategies).afterAll scatter before)
      stretch)
    (howns : ∀ op ∈ stretch, op.Owns strategies selector) :
    let p := (empty strategies).afterAll scatter before
    let answers := p.turnsFor scatter selector stretch
    let start := (p.counter selector).toNat
    ∀ k, k + candidates.length ≤ answers.length →
      (answers.drop k).take candidates.length = (candidates.rotate (start + k)).map .ok ∧
      (k + candidates.length < answers.length →
        answers[k + candidates.length]? = answers[k]?) := by
  intro p answers start k hk
  by_cases hne : candidates = []
  · subst hne
    exact ⟨by simp, fun _ => rfl⟩
  · have hstrategies : p.strategies = strategies := strategies_afterAll _ before
    have hstart : start ≤ turnsIn strategies before := by
      have hle := toNat_counter_afterAll_le scatter (empty strategies) before selector
      exact hle.trans (Nat.le_of_eq (Nat.zero_add _))
    rw [turnsIn_append] at hfew
    -- no overflow as far as the stretch goes, so answers are read off the list of candidates
    have hget : ∀ i, i < answers.length →
        answers[i]? = candidates[(start + i) % candidates.length]?.map .ok := by
      intro i hi
      have hroom : start + turnsIn p.strategies stretch < 2 ^ 64 := by
        rw [hstrategies]
        omega
      exact getElem?_turnsFor hne hsteady (hstrategies.symm ▸ howns) hroom hi
    constructor
    · apply List.ext_getElem?
      intro j
      by_cases hj : j < candidates.length
      · have hplace : start + (k + j) = j + (start + k) := by omega
        rw [List.getElem?_take_of_lt hj, List.getElem?_drop, hget (k + j) (by omega),
          List.getElem?_map, List.getElem?_rotate hj, hplace]
      · rw [List.getElem?_eq_none (by simp; omega), List.getElem?_eq_none (by simp; omega)]
    · intro hnext
      rw [hget _ hnext, hget k (by omega), ← Nat.add_assoc, Nat.add_mod_right]

/-- That the candidates stay is seen at each beginning of some operations. -/
theorem steady_iff : Steady scatter selector candidates p ops ↔
    ∀ done ∈ ops.inits, (p.afterAll scatter done).candidates selector = candidates := by
  simp only [Steady, List.mem_inits]

end Pool

/-- To ask for a selector by turns. -/
def askByTurns (asked counted : String) : Op :=
  .choose ⟨0, 0, 0⟩ asked ⟨"10.0.0.1", counted, "roundRobin"⟩

/-- Two selectors, one with two backends of three up, after a turn of it. -/
def turnTaken : List Op :=
  [.put "s" [backendAt "a", backendAt "b", { backendAt "c" with healthy := false }],
    .put "t" [backendAt "c"], askByTurns "s" "s"]

/-- Turns of it, and in between other things. -/
def turnsMixed : List Op :=
  [askByTurns "s" "s", askByTurns "t" "t", .choose ⟨0, 0, 0⟩ "s" ⟨"10.0.0.1", "s", "random"⟩,
    .report "c" false, .remove "t", askByTurns "s" "s", askByTurns "s" "s"]

/-- The second backend, the first, and the second again. -/
theorem Pool.turns_go_round_mixed :
    let p := (empty Strategy.all).afterAll (fun _ => []) turnTaken
    let answers := p.turnsFor (fun _ => []) "s" turnsMixed
    turnsIn Strategy.all (turnTaken ++ turnsMixed) < 2 ^ 64 ∧
    Steady (fun _ => []) "s" [backendAt "a", backendAt "b"] p turnsMixed ∧
    (∀ op ∈ turnsMixed, op.Owns Strategy.all "s") ∧
    answers.take 2 = [.ok (backendAt "b"), .ok (backendAt "a")] ∧ answers[2]? = answers[0]? := by
  intro p answers
  have hfew : turnsIn Strategy.all (turnTaken ++ turnsMixed) < 2 ^ 64 := by decide +kernel
  have hsteady : Steady (fun _ => []) "s" [backendAt "a", backendAt "b"] p turnsMixed :=
    steady_iff.2 (by decide +kernel)
  have howns : ∀ op ∈ turnsMixed, op.Owns Strategy.all "s" := by
    simp only [turnsMixed, List.forall_mem_cons]
    refine ⟨Op.owns_choose, Op.owns_choose, Op.owns_choose, ?_, ?_, Op.owns_choose,
      Op.owns_choose, List.forall_mem_nil _⟩
    · intro asked counted hturn
      cases hturn
    · intro asked counted hturn
      cases hturn
  have hlength : answers.length = 3 := by decide +kernel
  have hstart : (p.counter "s").toNat = 1 := by decide +kernel
  obtain ⟨hround, hnext⟩ := turns_go_round hfew hsteady howns 0 (by rw [hlength]; decide)
  rw [hstart] at hround
  exact ⟨hfew, hsteady, howns, hround, hnext (by rw [hlength]; decide)⟩

/-- A turn that is taken for another selector is missing. -/
theorem Pool.not_turns_go_round : ¬ ∀ (before stretch : List Op) (selector : String)
    (candidates : List Backend),
    turnsIn Strategy.all (before ++ stretch) < 2 ^ 64 →
    Steady (fun _ => []) selector candidates
      ((empty Strategy.all).afterAll (fun _ => []) before) stretch →
    (∀ op ∈ stretch, op.given? selector ≠ some []) →
    let p := (empty Strategy.all).afterAll (fun _ => []) before
    let answers := p.turnsFor (fun _ => []) selector stretch
    ∀ k, k + candidates.length ≤ answers.length →
      ((answers.drop k).take candidates.length).Perm (candidates.map .ok) := by
  intro h
  have hperm := h [.put "s" [backendAt "a", backendAt "b"], .put "t" [backendAt "c"]]
    [askByTurns "s" "s", askByTurns "t" "s", askByTurns "s" "s"] "s"
    [backendAt "a", backendAt "b"] (by decide +kernel) (steady_iff.2 (by decide +kernel))
    (by decide) 0 (by decide +kernel)
  -- both answers are the first backend
  have hmem : Except.ok (backendAt "b") ∈ [.ok (backendAt "a"), .ok (backendAt "a")] :=
    hperm.mem_iff.2 (by simp)
  simp [backendAt] at hmem

end Gatehouse.Balance
