import Gatehouse.Proofs.Balance.Choice
import Gatehouse.Proofs.Balance.Reporting
import Mathlib.Data.List.Induction

/-!
# Runs of a pool

A pool is written to, hears reports about addresses, and is asked for backends, in any order. What
it lists for a selector follows from this history alone:

    ──put s bs──▶ bs ──report──▶ marked ──choose──▶ marked ──report──▶ marked ──remove s──▶ []

It is what the selector was given last, each backend with the mark of the last report about its
address that came in since (`listed`). The choices made in between leave counters and rings behind,
but no trace in the lists (`of_afterAll`). So **a choice is sound** (`listed_of_choose`): whatever
was asked before and however it was answered, the backend that is chosen is listed for the selector
at that moment, and it is healthy.
-/

namespace Gatehouse.Balance

/-! ## The latest elements of a list -/

/-- The latest of some values is that of the last element, if it has one. -/
theorem findSome?_reverse_concat (f : α → Option β) (l : List α) (x : α) :
    (l ++ [x]).reverse.findSome? f = (f x).or (l.reverse.findSome? f) := by
  rw [List.reverse_append, List.reverse_singleton, List.findSome?_append]
  cases hx : f x <;> simp [hx]

/-- What comes after the last element without a property. -/
theorem reverse_takeWhile_concat (p : α → Bool) (l : List α) (x : α) :
    ((l ++ [x]).reverse.takeWhile p).reverse =
      if p x then (l.reverse.takeWhile p).reverse ++ [x] else [] := by
  rw [List.reverse_append, List.reverse_singleton, List.singleton_append, List.takeWhile_cons]
  cases p x with
  | true => exact List.reverse_cons
  | false => rfl

/-! ## Operations -/

/-- What is done to a pool. -/
inductive Op where
  | put (selector : String) (backends : List Backend)
  | remove (selector : String)
  | report (url : String) (healthy : Bool)
  /-- To ask for a backend, which strategies may remember. -/
  | choose (moment : Moment) (selector : String) (key : Key)

namespace Pool

variable {scatter : Scatter}

def after (scatter : Scatter) (p : Pool) : Op → Pool
  | .put selector backends => p.put selector backends
  | .remove selector => p.remove selector
  | .report url healthy => p.report url healthy
  | .choose moment selector key => (p.choose scatter moment selector key).2

def afterAll (scatter : Scatter) (p : Pool) (ops : List Op) : Pool := ops.foldl (after scatter) p

theorem afterAll_concat (p : Pool) (ops : List Op) (op : Op) :
    p.afterAll scatter (ops ++ [op]) = (p.afterAll scatter ops).after scatter op :=
  List.foldl_append

end Pool

/-! ## The history of a list -/

namespace Op

/-- The backends that an operation gives a selector; none if it takes it out. -/
def given? (selector : String) : Op → Option (List Backend)
  | .put s backends => if selector = s then some backends else none
  | .remove s => if selector = s then some [] else none
  | .report _ _ | .choose _ _ _ => none

def reported? (url : String) : Op → Option Bool
  | .report u healthy => if url = u then some healthy else none
  | .put _ _ | .remove _ | .choose _ _ _ => none

end Op

/-- What a selector was given last. -/
def lastGiven (selector : String) (ops : List Op) : List Backend :=
  (ops.reverse.findSome? (Op.given? selector)).getD []

/-- The operations since a selector was given anything. -/
def sinceGiven (selector : String) (ops : List Op) : List Op :=
  (ops.reverse.takeWhile fun op => (op.given? selector).isNone).reverse

/-- A backend with the mark of the last report about its address. -/
def marked (ops : List Op) (b : Backend) : Backend :=
  { b with healthy := (ops.reverse.findSome? (Op.reported? b.url)).getD b.healthy }

/-- What a selector lists after a history: what it was given last, with the marks of the reports
since. -/
def listed (selector : String) (ops : List Op) : List Backend :=
  (lastGiven selector ops).map (marked (sinceGiven selector ops))

/-- Later reports override earlier ones. -/
theorem marked_concat (ops : List Op) (op : Op) (b : Backend) :
    marked (ops ++ [op]) b = marked [op] (marked ops b) := by
  simp only [marked, findSome?_reverse_concat, List.reverse_singleton, List.findSome?_cons,
    List.findSome?_nil]
  cases op.reported? b.url <;> rfl

theorem marked_report (url : String) (healthy : Bool) :
    marked [.report url healthy] = Pool.reported url healthy := by
  funext b
  simp only [marked, List.reverse_singleton, List.findSome?_cons, List.findSome?_nil,
    Op.reported?, Pool.reported]
  by_cases hurl : b.url = url
  · simp [hurl]
  · simp [hurl]

/-- Only reports leave marks. -/
theorem marked_eq_id {op : Op} (h : ∀ url, op.reported? url = none) : marked [op] = id := by
  funext b
  simp only [marked, List.reverse_singleton, List.findSome?_cons, List.findSome?_nil, h]
  rfl

theorem listed_concat (selector : String) (ops : List Op) (op : Op) :
    listed selector (ops ++ [op]) =
      (op.given? selector).getD ((listed selector ops).map (marked [op])) := by
  rw [listed, lastGiven, sinceGiven, findSome?_reverse_concat, reverse_takeWhile_concat]
  cases op.given? selector with
  | some backends => exact List.map_id backends
  | none =>
      rw [listed, List.map_map]
      exact List.map_congr_left fun b _ => marked_concat _ op b

namespace Pool

/-! ## The lists of a pool -/

/-- An empty list is never kept. -/
theorem get?_lists_put (p : Pool) (selector id : String) (backends : List Backend) :
    (p.put selector backends).lists.get? id =
      if id = selector then (if backends = [] then none else some backends)
      else p.lists.get? id := by
  rw [put]
  split
  · next h =>
      rw [List.isEmpty_iff] at h
      simp [remove, Table.get?_erase, h]
  · next h =>
      rw [List.isEmpty_iff] at h
      simp [Table.get?_insert, h]

/-- Taking a selector out leaves the lists of all others. -/
theorem get?_lists_remove (p : Pool) (selector id : String) :
    (p.remove selector).lists.get? id = if id = selector then none else p.lists.get? id :=
  Table.get?_erase p.lists selector id

/-- The memory of a selector goes with its last backend. -/
theorem memory_put (p : Pool) (selector : String) (backends : List Backend) :
    (p.put selector backends).memory =
      if backends = [] then p.memory.forget selector else p.memory := by
  rw [put]
  cases backends <;> rfl

theorem strategies_put (p : Pool) (selector : String) (backends : List Backend) :
    (p.put selector backends).strategies = p.strategies := by
  rw [put]
  split <;> rfl

theorem of_put (p : Pool) (s selector : String) (backends : List Backend) :
    (p.put s backends).of selector = if selector = s then backends else p.of selector := by
  rw [of, get?_lists_put]
  split
  · cases backends <;> rfl
  · rfl

theorem of_remove (p : Pool) (s selector : String) :
    (p.remove s).of selector = if selector = s then [] else p.of selector := by
  rw [of, get?_lists_remove]
  split <;> rfl

/-- A report maps the list of each selector. -/
theorem of_report (p : Pool) (url : String) (healthy : Bool) (selector : String) :
    (p.report url healthy).of selector = (p.of selector).map (reported url healthy) := by
  rw [of, get?_lists_report, of]
  cases p.lists.get? selector <;> rfl

/-- **One operation** gives a selector other backends, or marks those that it has. -/
theorem of_after (p : Pool) (op : Op) (selector : String) :
    (p.after scatter op).of selector =
      (op.given? selector).getD ((p.of selector).map (marked [op])) := by
  cases op with
  | put s backends =>
      rw [after, of_put, Op.given?, marked_eq_id fun _ => rfl, List.map_id]
      split <;> rfl
  | remove s =>
      rw [after, of_remove, Op.given?, marked_eq_id fun _ => rfl, List.map_id]
      split <;> rfl
  | report url healthy =>
      rw [after, of_report, marked_report]
      rfl
  | choose moment s key =>
      rw [marked_eq_id fun _ => rfl, List.map_id, of, after, lists_choose]
      rfl

theorem strategies_after (p : Pool) (op : Op) : (p.after scatter op).strategies = p.strategies := by
  cases op with
  | put selector backends => exact strategies_put p selector backends
  | remove selector => rfl
  | report url healthy => rfl
  | choose moment selector key =>
      rw [after]
      by_cases hne : p.candidates selector = []
      · rw [choose_of_no_candidates hne]
      · cases hs : Strategy.find? p.strategies key.strategy with
        | none => rw [choose_of_no_strategy hs]
        | some s => rw [snd_choose hne hs]

theorem strategies_afterAll (p : Pool) (ops : List Op) :
    (p.afterAll scatter ops).strategies = p.strategies := by
  induction ops generalizing p with
  | nil => rfl
  | cons op ops ih => exact (ih (p.after scatter op)).trans (strategies_after _ op)

variable (strategies : List Strategy) (ops : List Op)

/-- **The lists follow from the history**, in which the choices leave no trace. -/
theorem of_afterAll (selector : String) :
    ((empty strategies).afterAll scatter ops).of selector = listed selector ops := by
  induction ops using List.reverseRecOn with
  | nil => rfl
  | append_singleton ops op ih => rw [afterAll_concat, of_after, ih, listed_concat]

variable {strategies ops}

/-! ## Soundness -/

/-- **A choice is sound**: after any history the backend that is chosen is listed for the selector,
and it is healthy. -/
theorem listed_of_choose {moment : Moment} {selector : String} {key : Key} {b : Backend}
    (h : (((empty strategies).afterAll scatter ops).choose scatter moment selector key).1 =
      .ok b) :
    b ∈ ((empty strategies).afterAll scatter ops).of selector ∧ b ∈ listed selector ops ∧
      b.healthy = true := by
  obtain ⟨hlisted, hhealthy⟩ := mem_candidates_iff.1 (mem_candidates_of_choose h)
  exact ⟨hlisted, of_afterAll strategies ops selector ▸ hlisted, hhealthy⟩

end Pool

/-- A healthy backend at an address. -/
def backendAt (url : String) : Backend := ⟨url, "http://", 50, true, 0, 0⟩

/-- Two backends, of which one is reported to be up and then the other one to be down. -/
def flappingRun : List Op :=
  [.put "s" [backendAt "a", { backendAt "b" with healthy := false }],
    .choose ⟨0, 0, 0⟩ "s" ⟨"10.0.0.1", "s", "hash"⟩, .report "b" true,
    .choose ⟨0, 0, 0⟩ "s" ⟨"10.0.0.1", "s", "hash"⟩, .report "a" false]

/-- Under a strategy that nobody knows the other one is chosen. -/
theorem Pool.listed_of_choose_flapping :
    let p := (Pool.empty Strategy.all).afterAll (fun _ => [0]) flappingRun
    (p.choose (fun _ => [0]) ⟨0, 0, 7⟩ "s" ⟨"10.0.0.1", "s", "leastActive"⟩).1 =
        .ok (backendAt "b") ∧
      backendAt "b" ∈ p.of "s" ∧ backendAt "b" ∈ listed "s" flappingRun ∧
      (backendAt "b").healthy = true := by
  intro p
  have hfound : Strategy.find? p.strategies "leastActive" = some .weightedRandom := by
    rw [strategies_afterAll]
    decide
  have hcandidates : p.candidates "s" = [backendAt "b"] := by
    rw [candidates, of_afterAll]
    decide
  have h : (p.choose (fun _ => [0]) ⟨0, 0, 7⟩ "s" ⟨"10.0.0.1", "s", "leastActive"⟩).1 =
      .ok (backendAt "b") := by
    rw [fst_choose (hcandidates ▸ List.cons_ne_nil _ _) hfound, hcandidates]
    rfl
  exact ⟨h, listed_of_choose h⟩

end Gatehouse.Balance
