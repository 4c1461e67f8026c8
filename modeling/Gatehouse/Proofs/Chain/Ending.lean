import Gatehouse.Proofs.Chain.Passage

/-!
# How runs end

A run ends past all of its stages, or at a stage that does not proceed:

    ──passage──▶ end                       the answer that the exchange has
    ──passage──▶ a stage that stops it     the response to the verdict of that stage

`run_of_passes` and `run_ends` say so, and that the run is completed in the first case only.
-/

namespace Gatehouse.Chain

variable {σ : Type} {moment : Moment} {s s₁ : σ} {x x₁ : Exchange}

/-- The response of a run that ends with a verdict of the stage of a name. -/
def Verdict.response? (stage : String) : Verdict → Option Http.Response
  | .proceed => none
  | .respond r => some r
  | .fail f => some (.ofFault f)
  | .collapse => some (.ofFault (.stage stage "plugin panicked"))

/-- A stage stops a run with a response. -/
structure Stops (moment : Moment) (st : Stage σ) (s : σ) (x : Exchange) (r : Http.Response) :
    Prop where
  skips : st.skips x = false
  verdict : (st.run moment s x).verdict.response? st.name = some r

/-- Behind a stage that lets the exchange on, a run is the run of the others, but for the list of
those that ran. -/
theorem run_cons_of_advances {st : Stage σ} (h : Advances moment st s x s₁ x₁)
    (rest : List (Stage σ)) :
    ∃ executed, run moment (st :: rest) s x =
      { run moment rest s₁ x₁ with executed := executed } := by
  rw [run]
  cases h with
  | skipped hskip => exact ⟨_, if_pos hskip⟩
  | proceeded hskip hv =>
      simp only [hskip, hv]
      exact ⟨_, rfl⟩

/-- **Past all stages** a run is completed, with the answer that the exchange has by then. -/
theorem run_of_passes {stages : List (Stage σ)} (h : Passes moment stages s x s₁ x₁) :
    ∃ executed, run moment stages s x =
      { ending := .completed
        response := x₁.answer.getD (.error 404 "no plugin handled the request")
        executed := executed
        state := s₁
        exchange := x₁ } := by
  induction h with
  | nil => exact ⟨_, rfl⟩
  | cons hadv _ ih =>
      obtain ⟨executed, hrest⟩ := ih
      obtain ⟨executed', hrun⟩ := run_cons_of_advances hadv _
      exact ⟨executed', by rw [hrun, hrest]⟩

/-- A run that a stage stops at once. -/
theorem run_of_stops {st : Stage σ} {r : Http.Response} (h : Stops moment st s x r)
    (rest : List (Stage σ)) :
    (run moment (st :: rest) s x).ending ≠ .completed ∧
      (run moment (st :: rest) s x).response = r := by
  have hverdict := h.verdict
  rw [run, h.skips]
  cases hv : (st.run moment s x).verdict with
  | proceed =>
      rw [hv] at hverdict
      cases hverdict
  | respond r' | fail f | collapse =>
      rw [hv] at hverdict
      obtain rfl := Option.some.inj hverdict
      simp [hv, failedRun]

/-- A stage lets an exchange on, or it stops the run. -/
theorem advances_or_stops (moment : Moment) (st : Stage σ) (s : σ) (x : Exchange) :
    (∃ s₁ x₁, Advances moment st s x s₁ x₁) ∨ ∃ r, Stops moment st s x r := by
  by_cases hskip : st.skips x = true
  · exact Or.inl ⟨s, x, .skipped hskip⟩
  · rw [Bool.not_eq_true] at hskip
    cases hv : (st.run moment s x).verdict.response? st.name with
    | some r => exact Or.inr ⟨r, hskip, hv⟩
    | none =>
        have hproceed : (st.run moment s x).verdict = .proceed := by
          cases hverdict : (st.run moment s x).verdict with
          | proceed => rfl
          | respond r | fail f | collapse =>
              rw [hverdict] at hv
              cases hv
        exact Or.inl ⟨_, _, .proceeded hskip hproceed⟩

/-- **The end of a run**: past all stages, or at one that stops it. -/
theorem run_ends (moment : Moment) (stages : List (Stage σ)) (s : σ) (x : Exchange) :
    (∃ s₁ x₁, Passes moment stages s x s₁ x₁) ∨
      ((run moment stages s x).ending ≠ .completed ∧
        ∃ st ∈ stages, ∃ s₁ x₁, Stops moment st s₁ x₁ (run moment stages s x).response) := by
  induction stages generalizing s x with
  | nil => exact Or.inl ⟨s, x, .nil⟩
  | cons st rest ih =>
      rcases advances_or_stops moment st s x with ⟨s₁, x₁, hadv⟩ | ⟨r, hstops⟩
      · rcases ih s₁ x₁ with ⟨s₂, x₂, hpasses⟩ | ⟨hending, st', hst', s₂, x₂, hstops⟩
        · exact Or.inl ⟨s₂, x₂, .cons hadv hpasses⟩
        · obtain ⟨executed, hrun⟩ := run_cons_of_advances hadv rest
          rw [hrun]
          exact Or.inr ⟨hending, st', List.mem_cons_of_mem st hst', s₂, x₂, hstops⟩
      · obtain ⟨hending, hresponse⟩ := run_of_stops hstops rest
        refine Or.inr ⟨hending, st, List.mem_cons_self, s, x, ?_⟩
        rw [hresponse]
        exact hstops

end Gatehouse.Chain
