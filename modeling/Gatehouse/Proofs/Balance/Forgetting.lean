import Gatehouse.Proofs.Balance.Runs

/-!
# What is left of a selector

Backends are listed in one place, and what strategies remember is kept in another. It comes there
later than the backends, with the first choice that needs it, and it has to go with them:

                       lists           turns     rings
    put s [a, b]       s ▶ [a, b]
    choose by turns    s ▶ [a, b]      s ▶ 1
    choose by ring     s ▶ [a, b]      s ▶ 1     s ▶ ring of a and b
    remove s
    choose by turns
    put s [a, b]       s ▶ [a, b]

Each operation ends before the next one begins, and whoever asks for a selector has this selector in
the key (`Op.Consistent`). Then **what is remembered is remembered for selectors that are listed**
(`listed_of_remembers`), since no choice gets to a strategy without a candidate. A selector that is
taken out is forgotten, and when it is put in again nothing tells it from one that the pool has
never heard of: whatever is done from then on, it is answered as in a new pool.

With another selector in the key a choice leaves a counter or a ring for that one, listed or not.
-/

namespace Gatehouse.Balance

/-! ## Traces -/

/-- What strategies remember for one selector. -/
structure Trace where
  turn : Option UInt64
  ring : Option Ring

def Trace.blank : Trace := ⟨none, none⟩

namespace Memory

variable {m : Memory} {selector : String}

def trace (m : Memory) (selector : String) : Trace :=
  ⟨m.turns.get? selector, m.rings.get? selector⟩

/-- A selector has a counter or a ring. -/
def Remembers (m : Memory) (selector : String) : Prop :=
  m.turns.contains selector ∨ m.rings.contains selector

instance : Decidable (m.Remembers selector) := inferInstanceAs (Decidable (_ ∨ _))

theorem not_remembers_iff : ¬ m.Remembers selector ↔ m.trace selector = .blank := by
  simp [Remembers, Table.contains, trace, Trace.blank]

theorem trace_forget (m : Memory) (s selector : String) :
    (m.forget s).trace selector = if selector = s then .blank else m.trace selector := by
  rw [trace, forget, Table.get?_erase, Table.get?_erase]
  split <;> rfl

end Memory

section Picking

variable {scatter : Scatter} {s : Strategy} {moment : Moment} {m m' : Memory} {key : Key}
  {candidates : List Backend} {selector : String}

/-- A strategy leaves a trace of the selector in the key, if at all. -/
theorem trace_pick_of_ne (h : selector ≠ key.selector) :
    (pick scatter s moment m key candidates).2.trace selector = m.trace selector := by
  unfold pick
  split
  · rfl
  · cases s with
    | random | weightedRandom => rfl
    | roundRobin => simp [pickTurn, Memory.trace, Table.get?_insert, h]
    | hash => simp [pickOnRing, Memory.trace, Table.get?_insert, h]

/-- The ring of a selector depends on the ring remembered for it and on nothing else. -/
theorem ringFor_congr (h : m.rings.get? selector = m'.rings.get? selector) :
    ringFor scatter m selector candidates = ringFor scatter m' selector candidates := by
  rw [ringFor, h, ringFor]

/-- What a strategy picks, and the trace that it leaves of the selector in the key, depends on no
other trace. -/
theorem pick_congr (scatter : Scatter) (s : Strategy) (moment : Moment)
    (candidates : List Backend) (h : m.trace key.selector = m'.trace key.selector) :
    let here := pick scatter s moment m key candidates
    let there := pick scatter s moment m' key candidates
    here.1 = there.1 ∧ here.2.trace key.selector = there.2.trace key.selector := by
  obtain ⟨hturn, hring⟩ := Trace.mk.inj h
  unfold pick
  split
  · exact ⟨rfl, h⟩
  · cases s with
    | random | weightedRandom => exact ⟨rfl, h⟩
    | roundRobin => simp [pickTurn, Memory.trace, Table.get?_insert, hturn, hring]
    | hash => simp [pickOnRing, Memory.trace, Table.get?_insert, hturn, ringFor_congr hring]

end Picking

/-! ## Nothing is left behind -/

/-- Whoever asks for a selector has it in the key. -/
def Op.Consistent : Op → Prop
  | .choose _ asked key => key.selector = asked
  | .put _ _ | .remove _ | .report _ _ => True

instance : DecidablePred Op.Consistent
  | .choose _ asked key => inferInstanceAs (Decidable (key.selector = asked))
  | .put _ _ | .remove _ | .report _ _ => inferInstanceAs (Decidable True)

namespace Pool

variable {scatter : Scatter} {p q : Pool} {op : Op} {ops : List Op} {moment : Moment}
  {asked selector : String} {key : Key}

/-- To give a selector no backends is to forget it. -/
theorem trace_put (p : Pool) (s selector : String) (backends : List Backend) :
    (p.put s backends).memory.trace selector =
      if selector = s ∧ backends = [] then .blank else p.memory.trace selector := by
  rw [memory_put]
  by_cases hnone : backends = []
  · simp [hnone, Memory.trace_forget]
  · simp [hnone]

theorem trace_remove (p : Pool) (s selector : String) :
    (p.remove s).memory.trace selector =
      if selector = s then .blank else p.memory.trace selector :=
  p.memory.trace_forget s selector

/-- A choice leaves a trace of the selector in the key, if at all. -/
theorem trace_choose_of_ne (h : selector ≠ key.selector) :
    (p.choose scatter moment asked key).2.memory.trace selector = p.memory.trace selector := by
  by_cases hne : p.candidates asked = []
  · rw [choose_of_no_candidates hne]
  · cases hs : Strategy.find? p.strategies key.strategy with
    | none => rw [choose_of_no_strategy hs]
    | some s =>
        rw [snd_choose hne hs]
        exact trace_pick_of_ne h

/-- **One operation** on a trace: it is wiped out, it stays, or the selector has candidates and is
asked for one. -/
theorem trace_after (scatter : Scatter) (p : Pool) (hop : op.Consistent) (selector : String) :
    (op.given? selector = some [] ∧ (p.after scatter op).memory.trace selector = .blank) ∨
    (op.given? selector ≠ some [] ∧
      (p.after scatter op).memory.trace selector = p.memory.trace selector) ∨
    (op.given? selector = none ∧ p.candidates selector ≠ []) := by
  cases op with
  | put s backends =>
      rw [after, trace_put, Op.given?]
      by_cases h : selector = s ∧ backends = []
      · exact Or.inl (by simp [h])
      · exact Or.inr (Or.inl ⟨by simpa using h, if_neg h⟩)
  | remove s =>
      rw [after, trace_remove, Op.given?]
      by_cases h : selector = s
      · exact Or.inl (by simp [h])
      · exact Or.inr (Or.inl ⟨by simpa using h, if_neg h⟩)
  | report url healthy =>
      refine Or.inr (Or.inl ⟨?_, rfl⟩)
      intro hgiven
      cases hgiven
  | choose moment asked key =>
      right
      have hgiven : (Op.choose moment asked key).given? selector ≠ some [] := by
        intro h
        cases h
      by_cases hkey : selector = key.selector
      · obtain rfl : selector = asked := hkey.trans hop
        by_cases hne : p.candidates selector = []
        · rw [after, choose_of_no_candidates hne]
          exact Or.inl ⟨hgiven, rfl⟩
        · exact Or.inr ⟨rfl, hne⟩
      · exact Or.inl ⟨hgiven, trace_choose_of_ne hkey⟩

/-- Nothing is remembered for a selector without backends. -/
def Tidy (p : Pool) : Prop := ∀ selector, p.of selector = [] → p.memory.trace selector = .blank

theorem tidy_empty (strategies : List Strategy) : (empty strategies).Tidy := fun _ _ => rfl

/-- **One operation** leaves nothing behind. -/
theorem Tidy.after (h : p.Tidy) (hop : op.Consistent) : (p.after scatter op).Tidy := by
  intro selector hnone
  rw [of_after] at hnone
  rcases trace_after scatter p hop selector with
    ⟨-, hblank⟩ | ⟨hgiven, hsame⟩ | ⟨hgiven, hne⟩
  · exact hblank
  · cases hbackends : op.given? selector with
    | none =>
        rw [hbackends] at hnone
        rw [hsame, h selector (List.map_eq_nil_iff.1 hnone)]
    | some backends =>
        rw [hbackends] at hnone
        exact absurd (hbackends.trans (congrArg some hnone)) hgiven
  · -- the backends stay, and there are candidates among them
    rw [hgiven] at hnone
    rw [candidates, List.map_eq_nil_iff.1 hnone] at hne
    exact absurd rfl hne

theorem Tidy.afterAll (h : p.Tidy) (hops : ∀ op ∈ ops, op.Consistent) :
    (p.afterAll scatter ops).Tidy := by
  induction ops generalizing p with
  | nil => exact h
  | cons op ops ih =>
      obtain ⟨hop, hops⟩ := List.forall_mem_cons.1 hops
      exact ih (h.after hop) hops

/-- Backends that a selector has are listed. -/
theorem exists_list (h : p.of selector ≠ []) : ∃ b bs, p.lists.get? selector = some (b :: bs) := by
  rw [of] at h
  cases hlist : p.lists.get? selector with
  | none =>
      rw [hlist] at h
      exact absurd rfl h
  | some backends =>
      rw [hlist] at h
      obtain ⟨b, bs, rfl⟩ := List.exists_cons_of_ne_nil h
      exact ⟨b, bs, rfl⟩

/-! ## Starting anew -/

/-- Two pools have the same of a selector: its backends, its counter and its ring. -/
structure Alike (selector : String) (p q : Pool) : Prop where
  strategies : p.strategies = q.strategies
  backends : p.of selector = q.of selector
  trace : p.memory.trace selector = q.memory.trace selector

/-- In a tidy pool a selector without backends is as in a new one. -/
theorem Tidy.alike_empty (h : p.Tidy) (hnone : p.of selector = []) :
    Alike selector p (empty p.strategies) where
  strategies := rfl
  backends := hnone
  trace := h selector hnone

/-- The answer to an operation that asks for a selector. -/
def answerFor? (scatter : Scatter) (selector : String) (p : Pool) :
    Op → Option (Except Fault Backend)
  | .choose moment asked key =>
    if asked = selector then some (p.choose scatter moment asked key).1 else none
  | .put _ _ | .remove _ | .report _ _ => none

/-- The answers to the operations that ask for a selector, one after the other. -/
def answersFor (scatter : Scatter) (selector : String) (p : Pool) :
    List Op → List (Except Fault Backend)
  | [] => []
  | op :: ops =>
    (p.answerFor? scatter selector op).toList ++
      (p.after scatter op).answersFor scatter selector ops

/-- Pools that have the same of a selector choose the same for it, and remember the same. -/
theorem Alike.choose (h : Alike selector p q) (hkey : key.selector = selector) :
    (p.choose scatter moment selector key).1 = (q.choose scatter moment selector key).1 ∧
    (p.choose scatter moment selector key).2.memory.trace selector =
      (q.choose scatter moment selector key).2.memory.trace selector := by
  have hcandidates : p.candidates selector = q.candidates selector := by
    rw [candidates, h.backends, candidates]
  subst hkey
  by_cases hne : p.candidates key.selector = []
  · rw [choose_of_no_candidates hne, choose_of_no_candidates (hcandidates ▸ hne)]
    exact ⟨rfl, h.trace⟩
  · cases hs : Strategy.find? p.strategies key.strategy with
    | none =>
        rw [choose_of_no_strategy hs, choose_of_no_strategy (h.strategies ▸ hs)]
        exact ⟨rfl, h.trace⟩
    | some s =>
        have hne' : q.candidates key.selector ≠ [] := hcandidates ▸ hne
        have hs' : Strategy.find? q.strategies key.strategy = some s := h.strategies ▸ hs
        obtain ⟨hpicked, hleft⟩ :=
          pick_congr scatter s moment (p.candidates key.selector) h.trace
        rw [fst_choose hne hs, fst_choose hne' hs', snd_choose hne hs, snd_choose hne' hs',
          ← hcandidates]
        exact ⟨by rw [hpicked], hleft⟩

/-- **One operation** is answered alike for the selector, and leaves the pools alike. -/
theorem Alike.after (h : Alike selector p q) (hop : op.Consistent) :
    Alike selector (p.after scatter op) (q.after scatter op) where
  strategies := by rw [strategies_after, strategies_after, h.strategies]
  backends := by rw [of_after, of_after, h.backends]
  trace := by
    cases op with
    | put s backends => rw [Pool.after, Pool.after, trace_put, trace_put, h.trace]
    | remove s => rw [Pool.after, Pool.after, trace_remove, trace_remove, h.trace]
    | report url healthy => exact h.trace
    | choose moment asked key =>
        rw [Pool.after, Pool.after]
        by_cases hkey : selector = key.selector
        · obtain rfl : selector = asked := hkey.trans hop
          exact (h.choose hop).2
        · rw [trace_choose_of_ne hkey, trace_choose_of_ne hkey, h.trace]

/-- How a selector is answered depends on its own part of the pool only. -/
theorem Alike.answerFor? (h : Alike selector p q) (hop : op.Consistent) :
    p.answerFor? scatter selector op = q.answerFor? scatter selector op := by
  cases op with
  | put s backends => rfl
  | remove s => rfl
  | report url healthy => rfl
  | choose moment asked key =>
      rw [Pool.answerFor?, Pool.answerFor?]
      split
      · next hasked =>
          subst hasked
          rw [(h.choose hop).1]
      · rfl

/-- **Many operations** are answered alike. -/
theorem Alike.answersFor (h : Alike selector p q) (hops : ∀ op ∈ ops, op.Consistent) :
    p.answersFor scatter selector ops = q.answersFor scatter selector ops := by
  induction ops generalizing p q with
  | nil => rfl
  | cons op ops ih =>
      obtain ⟨hop, hops⟩ := List.forall_mem_cons.1 hops
      rw [Pool.answersFor, Pool.answersFor, h.answerFor? hop, ih (h.after hop) hops]

/-- **Nothing is left of a selector that is taken out.** After any operations, each asking for the
selector in its key, a selector that has a counter or a ring is listed with backends. One that is
removed, which is what giving it no backends does, is not listed and has neither. And one that is
not listed starts anew when it is given backends: it has neither a counter nor a ring, and whatever
is done from then on, those who ask for it are answered as in a new pool that was given the
same. -/
theorem listed_of_remembers (scatter : Scatter) (strategies : List Strategy) {ops : List Op}
    (hops : ∀ op ∈ ops, op.Consistent) :
    let p := (empty strategies).afterAll scatter ops
    (∀ selector, p.memory.Remembers selector →
      ∃ b bs, p.lists.get? selector = some (b :: bs)) ∧
    (∀ selector, p.put selector [] = p.remove selector ∧
      (p.remove selector).lists.get? selector = none ∧
      ¬ (p.remove selector).memory.Remembers selector) ∧
    ∀ selector backends, p.lists.get? selector = none →
      ¬ (p.put selector backends).memory.Remembers selector ∧
      ∀ later : List Op, (∀ op ∈ later, op.Consistent) →
        (p.put selector backends).answersFor scatter selector later =
          ((empty strategies).put selector backends).answersFor scatter selector later := by
  intro p
  have htidy : p.Tidy := (tidy_empty strategies).afterAll hops
  have hstrategies : p.strategies = strategies := strategies_afterAll (empty strategies) ops
  refine ⟨?listed, ?forgotten, ?anew⟩
  case listed =>
    intro selector hremembers
    refine exists_list fun hnone => ?_
    exact Memory.not_remembers_iff.2 (htidy selector hnone) hremembers
  case forgotten =>
    intro selector
    rw [Memory.not_remembers_iff, trace_remove, get?_lists_remove]
    exact ⟨rfl, if_pos rfl, if_pos rfl⟩
  case anew =>
    intro selector backends hunlisted
    have hnone : p.of selector = [] := by rw [of, hunlisted, Option.getD_none]
    have hnew : Alike selector p (empty strategies) := hstrategies ▸ htidy.alike_empty hnone
    have hput : Alike selector (p.after scatter (.put selector backends))
        ((empty strategies).after scatter (.put selector backends)) := hnew.after trivial
    constructor
    · rw [Memory.not_remembers_iff, trace_put, htidy selector hnone, ite_self]
    · intro later hlater
      exact hput.answersFor hlater

def asking (selector strategy : String) : Op :=
  .choose ⟨0, 0, 0⟩ selector ⟨"10.0.0.1", selector, strategy⟩

/-- Two selectors, of which one has had a turn and got a ring when it is removed. -/
def removedRun : List Op :=
  [.put "s" [backendAt "a", backendAt "b"], .put "t" [backendAt "c"], asking "s" "roundRobin",
    asking "s" "hash", asking "t" "roundRobin", .report "a" false, .remove "s",
    asking "s" "roundRobin"]

/-- It is put in again, and the turns go round from the first backend on. -/
theorem listed_of_remembers_removed :
    let p := (empty Strategy.all).afterAll (fun _ => [0]) removedRun
    (∀ op ∈ removedRun, op.Consistent) ∧
    ((empty Strategy.all).afterAll (fun _ => [0]) (removedRun.take 6)).memory.Remembers "s" ∧
    p.memory.Remembers "t" ∧ (∃ b bs, p.lists.get? "t" = some (b :: bs)) ∧
    ¬ (p.remove "t").memory.Remembers "t" ∧
    p.lists.get? "s" = none ∧
    ¬ (p.put "s" [backendAt "a", backendAt "b"]).memory.Remembers "s" ∧
    (p.put "s" [backendAt "a", backendAt "b"]).answersFor (fun _ => [0]) "s"
        [asking "s" "roundRobin", asking "t" "roundRobin", asking "s" "roundRobin"] =
      [.ok (backendAt "a"), .ok (backendAt "b")] := by
  intro p
  have hops : ∀ op ∈ removedRun, op.Consistent := by decide
  have hbefore : ((empty Strategy.all).afterAll (fun _ => [0])
      (removedRun.take 6)).memory.Remembers "s" := by decide +kernel
  have hremembers : p.memory.Remembers "t" := by decide +kernel
  have hunlisted : p.lists.get? "s" = none := by decide +kernel
  have hlater : ∀ op ∈ [asking "s" "roundRobin", asking "t" "roundRobin",
      asking "s" "roundRobin"], op.Consistent := by decide
  obtain ⟨hlisted, hforgotten, hanew⟩ :=
    listed_of_remembers (fun _ => [0]) Strategy.all hops
  obtain ⟨hblank, hanswers⟩ := hanew "s" [backendAt "a", backendAt "b"] hunlisted
  refine ⟨hops, hbefore, hremembers, hlisted "t" hremembers, (hforgotten "t").2.2, hunlisted,
    hblank, ?_⟩
  exact (hanswers _ hlater).trans rfl

/-- With another selector in the key a counter is left for one that is not listed. -/
example :
    let p := (empty Strategy.all).afterAll (fun _ => [])
      [.put "s" [backendAt "a"], .choose ⟨0, 0, 0⟩ "s" ⟨"10.0.0.1", "t", "roundRobin"⟩]
    p.memory.Remembers "t" ∧ p.lists.get? "t" = none := by
  decide +kernel

end Pool

end Gatehouse.Balance
