import Gatehouse.Chain.Basic

/-!
# Passages through the chain

A run goes through stages in order until one of them does not proceed. `Passes` is the way that an
exchange has come up to some point: each stage so far was skipped or proceeded.

    arrival ──passage──▶ before a stage ──its turn──▶ after it ──▶ ⋯

* **What a run brings about, one of its stages brings about**, and the run has come to that stage by
  a passage (`exists_passes_of_run`).
* What every stage keeps holds all along a passage, where it may speak of the stages that were
  passed (`Passes.keeps`), and at the end of a run (`run_keeps`).
* A passage can be taken apart at the turn of a stage (`Passes.exists_turn`), and a run at the end
  of a passage (`run_append_of_passes`).

Which stages a run goes through is the line-up's to say: some of the registered ones, each name once
(`mem_registered_of_mem_active`, `nodup_names`).
-/

namespace Gatehouse.Chain

variable {σ : Type} {moment : Moment}

/-! ## Passages -/

/-- A stage lets an exchange on: it is skipped, or it proceeds. -/
inductive Advances (moment : Moment) (st : Stage σ) : σ → Exchange → σ → Exchange → Prop
  | skipped {s x} (h : st.skips x = true) : Advances moment st s x s x
  | proceeded {s x} (h : st.skips x = false) (hv : (st.run moment s x).verdict = .proceed) :
      Advances moment st s x (st.run moment s x).state (st.run moment s x).exchange

/-- All the stages let an exchange on, one after the other. -/
inductive Passes (moment : Moment) : List (Stage σ) → σ → Exchange → σ → Exchange → Prop
  | nil {s x} : Passes moment [] s x s x
  | cons {st rest s x s₁ x₁ s₂ x₂} : Advances moment st s x s₁ x₁ →
      Passes moment rest s₁ x₁ s₂ x₂ → Passes moment (st :: rest) s x s₂ x₂

/-- What holds on the way. `P` may speak of the names of the stages that were passed. -/
theorem Passes.keeps {P : List String → σ → Exchange → Prop} {stages : List (Stage σ)}
    {s s₁ : σ} {x x₁ : Exchange} (h : Passes moment stages s x s₁ x₁)
    (hstep : ∀ st ∈ stages, ∀ passed s x s₁ x₁, P passed s x → Advances moment st s x s₁ x₁ →
      P (passed ++ [st.name]) s₁ x₁)
    (passed : List String) (h₀ : P passed s x) : P (passed ++ stages.map Stage.name) s₁ x₁ := by
  induction h generalizing passed with
  | nil => simpa using h₀
  | @cons st rest s x s₁ x₁ s₂ x₂ hadv hrest ih =>
      have hnext : P (passed ++ [st.name]) s₁ x₁ :=
        hstep st List.mem_cons_self passed s x s₁ x₁ h₀ hadv
      have hend := ih (fun st' hst' => hstep st' (List.mem_cons_of_mem st hst')) _ hnext
      rwa [List.append_assoc, List.singleton_append] at hend

/-- Every stage that was passed had its turn, after those before it and before those after it. -/
theorem Passes.exists_turn {stages : List (Stage σ)} {st : Stage σ} {s s₁ : σ} {x x₁ : Exchange}
    (h : Passes moment stages s x s₁ x₁) (hst : st ∈ stages) :
    ∃ before after s₂ x₂ s₃ x₃, stages = before ++ st :: after ∧ Passes moment before s x s₂ x₂ ∧
      Advances moment st s₂ x₂ s₃ x₃ ∧ Passes moment after s₃ x₃ s₁ x₁ := by
  induction h with
  | nil => cases hst
  | @cons st' rest s x s₁ x₁ s₂ x₂ hadv hrest ih =>
      rcases List.mem_cons.1 hst with rfl | hst
      · exact ⟨[], rest, s, x, s₁, x₁, rfl, .nil, hadv, hrest⟩
      · obtain ⟨before, after, s₃, x₃, s₄, x₄, rfl, hbefore, hturn⟩ := ih hst
        exact ⟨st' :: before, after, s₃, x₃, s₄, x₄, rfl, .cons hadv hbefore, hturn⟩

/-! ## Runs -/

/-- How a run goes on from its first stage: with the others, or not at all. -/
theorem run_cons_cases (moment : Moment) (st : Stage σ) (rest : List (Stage σ)) (s : σ) (x : Exchange) :
    (∃ s₁ x₁, Advances moment st s x s₁ x₁ ∧
      (run moment (st :: rest) s x).state = (run moment rest s₁ x₁).state ∧
      (run moment (st :: rest) s x).exchange = (run moment rest s₁ x₁).exchange) ∨
    (st.skips x = false ∧
      (run moment (st :: rest) s x).state = (st.run moment s x).state ∧
      (run moment (st :: rest) s x).exchange = (st.run moment s x).exchange) := by
  by_cases hskip : st.skips x = true
  · refine Or.inl ⟨s, x, .skipped hskip, ?_, ?_⟩ <;> rw [run, if_pos hskip]
  · rw [run, if_neg hskip]
    have hskip : st.skips x = false := by simpa using hskip
    cases hv : (st.run moment s x).verdict with
    | proceed =>
        refine Or.inl ⟨_, _, .proceeded hskip hv, ?_, ?_⟩ <;> simp only [hv]
    | respond r => exact Or.inr ⟨hskip, by simp only [hv], by simp only [hv]⟩
    | fail f => exact Or.inr ⟨hskip, by simp only [hv, failedRun], by simp only [hv, failedRun]⟩
    | collapse => exact Or.inr ⟨hskip, by simp only [hv, failedRun], by simp only [hv, failedRun]⟩

/-- **What a run brings about, one of its stages brings about**, and the run passes all those before
it. -/
theorem exists_passes_of_run {P : σ → Exchange → Prop} {stages : List (Stage σ)} {s : σ}
    {x : Exchange} (hstart : ¬ P s x)
    (hend : P (run moment stages s x).state (run moment stages s x).exchange) :
    ∃ before st after s₁ x₁, stages = before ++ st :: after ∧ Passes moment before s x s₁ x₁ ∧
      st.skips x₁ = false ∧ ¬ P s₁ x₁ ∧
      P (st.run moment s₁ x₁).state (st.run moment s₁ x₁).exchange := by
  induction stages generalizing s x with
  | nil => exact absurd hend hstart
  | cons st rest ih =>
      rcases run_cons_cases moment st rest s x with
        ⟨s₁, x₁, hadv, hstate, hexchange⟩ | ⟨hskip, hstate, hexchange⟩
      · rw [hstate, hexchange] at hend
        by_cases hnow : P s₁ x₁
        · -- the first stage did it, so it was not skipped
          cases hadv with
          | skipped _ => exact absurd hnow hstart
          | proceeded hskip _ =>
              exact ⟨[], st, rest, s, x, rfl, .nil, hskip, hstart, hnow⟩
        · obtain ⟨before, st', after, s₂, x₂, rfl, hpass, h⟩ := ih hnow hend
          exact ⟨st :: before, st', after, s₂, x₂, rfl, .cons hadv hpass, h⟩
      · rw [hstate, hexchange] at hend
        exact ⟨[], st, rest, s, x, rfl, .nil, hskip, hstart, hend⟩

/-- What every stage keeps, whatever its verdict, holds at the end of a run. -/
theorem run_keeps {P : σ → Exchange → Prop} {stages : List (Stage σ)}
    (hstep : ∀ st ∈ stages, ∀ s x, P s x →
      P (st.run moment s x).state (st.run moment s x).exchange)
    {s : σ} {x : Exchange} (h₀ : P s x) :
    P (run moment stages s x).state (run moment stages s x).exchange := by
  -- else one of the stages would have brought about that it does not hold
  apply Classical.byContradiction
  intro hend
  obtain ⟨before, st, after, s₁, x₁, rfl, -, -, hbefore, hafter⟩ :=
    exists_passes_of_run (P := fun s x => ¬ P s x) (not_not_intro h₀) hend
  exact hafter (hstep st (by simp) s₁ x₁ (Classical.not_not.1 hbefore))

/-- A run goes on from the end of a passage. -/
theorem run_append_of_passes {before : List (Stage σ)} {s s₁ : σ} {x x₁ : Exchange}
    (h : Passes moment before s x s₁ x₁) (after : List (Stage σ)) :
    (run moment (before ++ after) s x).state = (run moment after s₁ x₁).state ∧
      (run moment (before ++ after) s x).exchange = (run moment after s₁ x₁).exchange := by
  induction h with
  | nil => exact ⟨rfl, rfl⟩
  | @cons st rest s x s₁ x₁ s₂ x₂ hadv _ ih =>
      rw [List.cons_append, run, ← ih.1, ← ih.2]
      cases hadv with
      | skipped hskip =>
          rw [if_pos hskip]
          exact ⟨rfl, rfl⟩
      | proceeded hskip hv =>
          simp only [hskip, hv]
          exact ⟨rfl, rfl⟩

/-! ## The line-up -/

/-- Of two names, the first comes before the second. -/
def Precedes (names : List String) (a b : String) : Prop := [a, b].Sublist names

instance (names : List String) (a b : String) : Decidable (Precedes names a b) :=
  inferInstanceAs (Decidable ([a, b].Sublist names))

/-- In a list of different names, those that come before one stand to the left of it. -/
theorem precedes_iff {a b : String} {left right : List String}
    (hnodup : (left ++ b :: right).Nodup) :
    Precedes (left ++ b :: right) a b ↔ a ∈ left := by
  obtain ⟨-, hright, hapart⟩ := List.nodup_append.1 hnodup
  have hbright : b ∉ right := (List.nodup_cons.1 hright).1
  constructor
  · intro h
    obtain ⟨before, after, heq, ha, hb⟩ := List.cons_sublist_iff.1 h
    rw [List.singleton_sublist] at hb
    rcases List.append_eq_append_iff.1 heq with ⟨mid, hbefore, hafter⟩ | ⟨mid, rfl, -⟩
    · cases mid with
      | nil =>
          rw [List.append_nil] at hbefore
          rwa [hbefore] at ha
      | cons c mid =>
          -- the only `b` would already have been passed
          obtain ⟨-, rfl⟩ := List.cons.inj hafter
          exact absurd (List.mem_append_right mid hb) hbright
    · exact List.mem_append_left mid ha
  · intro ha
    exact (List.singleton_sublist.2 ha).append (List.singleton_sublist.2 List.mem_cons_self)

namespace Lineup

variable (l : Lineup σ)

/-- What is left of the stages with their places, places taken away. -/
private theorem map_snd_placed (placements : Table Placement) (stages : List (Stage σ)) :
    (stages.filterMap fun st => (place? placements st).map fun n => (n, st)).map Prod.snd =
      stages.filter fun st => (place? placements st).isSome := by
  induction stages with
  | nil => rfl
  | cons st stages ih =>
      cases hst : place? placements st with
      | none =>
          rw [List.filterMap_cons_none (by rw [hst]; rfl), ih,
            List.filter_cons_of_neg (by simp [hst])]
      | some n =>
          rw [List.filterMap_cons_some (by rw [hst]; rfl), List.map_cons, ih,
            List.filter_cons_of_pos (by simp [hst])]

/-- The active stages are the registered ones that have a place, in another order. -/
theorem active_perm : l.active.Perm (l.registered.filter fun st => (place? l.placements st).isSome) := by
  rw [← map_snd_placed, l.upToDate]
  exact (List.mergeSort_perm _ _).map Prod.snd

/-- Stages that are registered in the order of their places stay in it. -/
theorem active_eq_filter
    (h : (l.registered.filterMap fun st => (place? l.placements st).map fun n => (n, st.name)).Pairwise
      fun a b => a.1 < b.1 ∨ (a.1 = b.1 ∧ a.2 ≤ b.2)) :
    l.active = l.registered.filter fun st => (place? l.placements st).isSome := by
  have hplaced : (l.registered.filterMap fun st => (place? l.placements st).map fun n => (n, st)).Pairwise
      fun a b => comesFirst a b = true := by
    have hnames : (l.registered.filterMap fun st => (place? l.placements st).map fun n => (n, st.name)) =
        (l.registered.filterMap fun st => (place? l.placements st).map fun n => (n, st)).map
          fun e => (e.1, e.2.name) := by
      rw [List.map_filterMap]
      simp only [Option.map_map]
      rfl
    rw [hnames, List.pairwise_map] at h
    refine h.imp ?_
    intro a b hab
    simpa [comesFirst] using hab
  rw [l.upToDate, arrange, List.mergeSort_of_pairwise hplaced, map_snd_placed]

theorem mem_registered_of_mem_active {st : Stage σ} (h : st ∈ l.active) : st ∈ l.registered :=
  (List.mem_filter.1 (l.active_perm.mem_iff.1 h)).1

/-- If no two registered stages have one name, no two active ones do. -/
theorem nodup_names (h : (l.registered.map Stage.name).Nodup) : l.names.Nodup := by
  have hperm := l.active_perm.map Stage.name
  have hsub : ((l.registered.filter fun st => (place? l.placements st).isSome).map Stage.name).Sublist
      (l.registered.map Stage.name) := List.filter_sublist.map Stage.name
  exact hperm.nodup_iff.2 (h.sublist hsub)

end Lineup

end Gatehouse.Chain
