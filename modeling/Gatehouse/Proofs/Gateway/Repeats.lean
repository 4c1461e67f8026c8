import Gatehouse.Proofs.Catalog.Repeats
import Gatehouse.Proofs.Gateway.Notes
import Gatehouse.Proofs.Gateway.Reached

/-!
# The same event again

What the pool and the buckets hear takes the place of what they have heard about the same id, and
leaves the other ids alone. Whatever they hear in between, to hear it again makes up for the first
time (`Absorbing`):

    hear x, hear y, hear x    the same as    hear y, hear x

So nothing comes of hearing the end of a list of messages again (`Absorbing.foldl_again`), and when
an event is repeated they hear no more than that. The catalogue takes no notice of a repetition
either, and the line-up follows: **every event is idempotent** (`configure_configure`).
-/

namespace Gatehouse.Gateway

open Feed

/-! ## Hearing again -/

/-- What is done again makes up for the first time, whatever was done in between. -/
structure Absorbing (f : β → α → β) : Prop where
  again : ∀ b x, f (f b x) x = f b x
  between : ∀ b x y, f (f (f b x) y) x = f (f b y) x

namespace Absorbing

variable {f : β → α → β}

/-- Things that say nothing may come in between as well. -/
theorem ofOption (h : Absorbing f) (told : γ → Option α) :
    Absorbing fun b m => (told m).elim b (f b) where
  again b m := by
    cases told m with
    | none => rfl
    | some x => exact h.again b x
  between b m n := by
    cases told m with
    | none => rfl
    | some x =>
        cases told n with
        | none => exact h.again b x
        | some y => exact h.between b x y

/-- The last thing to be done absorbs an earlier one, however much came in between. -/
theorem foldl_concat (h : Absorbing f) (l : List α) (b : β) (x : α) :
    f (l.foldl f (f b x)) x = f (l.foldl f b) x := by
  induction l generalizing b with
  | nil => exact h.again b x
  | cons y l ih =>
      -- backwards, the hypothesis does `x` once more before `l`, next to the first time
      rw [List.foldl_cons, List.foldl_cons, ← ih, h.between, ih]

/-- What will be done again need not be done before. -/
theorem foldl_of_mem (h : Absorbing f) {x : α} {l : List α} (hx : x ∈ l) (b : β) :
    l.foldl f (f b x) = l.foldl f b := by
  obtain ⟨front, back, rfl⟩ := List.append_of_mem hx
  rw [List.foldl_append, List.foldl_append, List.foldl_cons, List.foldl_cons, h.foldl_concat]

/-- A list makes up for all that it contains. -/
theorem foldl_foldl (h : Absorbing f) {l m : List α} (hm : ∀ x ∈ m, x ∈ l) (b : β) :
    l.foldl f (m.foldl f b) = l.foldl f b := by
  induction m generalizing b with
  | nil => rfl
  | cons x m ih =>
      rw [List.foldl_cons, ih fun y hy => hm y (List.mem_cons_of_mem x hy),
        h.foldl_of_mem (hm x List.mem_cons_self)]

/-- **Nothing comes of the end of a list** when it comes again. -/
theorem foldl_again (h : Absorbing f) (before l : List α) (b : β) :
    l.foldl f ((before ++ l).foldl f b) = (before ++ l).foldl f b := by
  rw [List.foldl_append]
  exact h.foldl_foldl (fun _ hx => hx) _

end Absorbing

/-! ## The pool -/

theorem pool_ext {p q : Balance.Pool} (hlists : p.lists = q.lists) (hmemory : p.memory = q.memory)
    (hstrategies : p.strategies = q.strategies) : p = q := by
  cases p
  cases q
  rw [Balance.Pool.mk.injEq]
  exact ⟨hlists, hmemory, hstrategies⟩

theorem forget_again (m : Balance.Memory) (selector : String) :
    (m.forget selector).forget selector = m.forget selector := by
  simp only [Balance.Memory.forget, Table.erase_erase]

theorem forget_comm (m : Balance.Memory) (selector other : String) :
    (m.forget selector).forget other = (m.forget other).forget selector := by
  simp only [Balance.Memory.forget, Table.erase_comm _ selector other]

/-- What was put for a selector last is what counts. -/
theorem absorbing_put :
    Absorbing fun (p : Balance.Pool) (x : String × List Backend) => p.put x.1 x.2 where
  again p x := by
    apply pool_ext
    · apply Table.ext
      intro id
      simp only [Balance.Pool.get?_lists_put]
      split <;> rfl
    · simp only [Balance.Pool.memory_put]
      split
      · exact forget_again _ _
      · rfl
    · simp only [Balance.Pool.strategies_put]
  between p x y := by
    apply pool_ext
    · apply Table.ext
      intro id
      simp only [Balance.Pool.get?_lists_put]
      split <;> rfl
    · simp only [Balance.Pool.memory_put]
      -- memory is lost only where nothing is put, and then for good
      by_cases hx : x.2 = []
      · by_cases hy : y.2 = []
        · simp only [if_pos hx, if_pos hy, forget_comm _ y.1 x.1, forget_again]
        · simp only [if_pos hx, if_neg hy, forget_again]
      · simp only [if_neg hx]
    · simp only [Balance.Pool.strategies_put]

/-- The selector that the pool is told about, with its backends. -/
def toldPool (m : Message) : Option (String × List Backend) :=
  if m.stage = balanceStage then
    match m.notice with
    | .selectorPut s => (backendsOf s).toOption.map fun backends => (s.id, backends)
    | .selectorGone s => some (s.id, [])
    | _ => none
  else none

/-- The pool hears at most one list of backends in a message. -/
theorem heardByPool_eq (p : Balance.Pool) (m : Message) :
    heardByPool p m = (toldPool m).elim p fun x => p.put x.1 x.2 := by
  rw [heardByPool, toldPool]
  split
  · cases m.notice with
    | selectorPut s =>
        simp only [tellPool]
        cases backendsOf s <;> rfl
    | selectorGone _ | descriptorPut _ | descriptorGone _ | rulePut _ | ruleGone _ => rfl
  · rfl

/-- The pool absorbs repeated messages: a list that is put again replaces the first. -/
theorem absorbing_heardByPool : Absorbing heardByPool := by
  have h := absorbing_put.ofOption toldPool
  simpa only [← heardByPool_eq] using h

/-! ## The buckets -/

theorem absorbing_drop : Absorbing (@Throttle.Buckets.drop Number.Binary64) where
  again bs rule := by simp only [Throttle.Buckets.drop, Table.filter_filter]
  between bs rule other := by
    simp only [Throttle.Buckets.drop]
    rw [Table.filter_comm (bs.table), Table.filter_filter]

/-- The rule that the buckets are told about. -/
def toldBuckets (m : Message) : Option String :=
  if m.stage = throttleStage then
    match m.notice with
    | .rulePut r | .ruleGone r => some r.id
    | _ => none
  else none

theorem heardByBuckets_eq (bs : Throttle.Buckets) (m : Message) :
    heardByBuckets bs m = (toldBuckets m).elim bs bs.drop := by
  rw [heardByBuckets, toldBuckets]
  split
  · cases m.notice <;> rfl
  · rfl

/-- The buckets absorb repeated messages: what is dropped stays dropped. -/
theorem absorbing_heardByBuckets : Absorbing heardByBuckets := by
  have h := absorbing_drop.ofOption toldBuckets
  simpa only [← heardByBuckets_eq] using h

/-! ## Events -/

/-- One event twice leaves the state that the event leaves once. -/
theorem State.apply_apply {s : State} {L : Ledgers} (h : s.catalog.Stands L) (e : Event) :
    (s.apply e).apply e = s.apply e := by
  obtain ⟨gone, hgone⟩ := messages_again h e
  rw [State.apply_eq (s.apply e), State.apply_eq s]
  simp only [catalog_apply_apply h]
  rw [hgone, absorbing_heardByPool.foldl_again, absorbing_heardByBuckets.foldl_again]

/-- **Every event is idempotent.** -/
theorem configure_configure {g : Gateway} (h : Reached g) (e : Event) :
    (g.configure e).configure e = g.configure e := by
  have hsettled := h.settled
  obtain ⟨L, hL⟩ := hsettled.stands
  rw [(hsettled.configure e).configure_eq, hsettled.configure_eq]
  simp only [State.apply_apply hL]
  rfl

/-- A batch in which an id comes twice, first with a backend and then without any, and in between an
entry that is malformed. -/
def twofold : Event :=
  .replaceAll .selector
    [.obj [("handle", .arr [.obj [("url", .str "b")]]), ("id", .str "s"),
        ("pluginName", .str "divide")],
      .null,
      .obj [("id", .str "s"), ("pluginName", .str "divide")]]

theorem configure_configure_twofold :
    Reached (unset.follow routed) ∧
      ((unset.follow routed).configure twofold).configure twofold =
        (unset.follow routed).configure twofold ∧
      ((unset.follow routed).state.pool.of "s").length = 1 ∧
      ((unset.follow routed).configure twofold).state.pool.of "s" = [] := by
  have hreached : Reached (unset.follow routed) := (stock_unset routed).reached
  exact ⟨hreached, configure_configure hreached twofold, by decide +kernel, by decide +kernel⟩

end Gatehouse.Gateway
