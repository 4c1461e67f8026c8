import Gatehouse.Proofs.Chain.Passage

/-!
# Accounts of runs

What comes of a run can be told without running the chain. Let every stage have its turn, whether
or not an earlier one has stopped the run, and write down what each finds as it is reached
(`arrivals`). The stages that are not skipped then are the ones with a turn:

    stages ──reached one after the other──▶ arrivals ──not skipped──▶ turns

**The account** (`run_account`): the executed stages are the turns up to the first one that does not
proceed, the outcome is what that one makes of it, or the answer that the exchange has in the end,
and whatever stands behind the stage that stopped the run has no part in it. State and exchange are
in the end what they are behind one of the stages (`exists_take_of_run`).
-/

namespace Gatehouse.Chain

variable {σ : Type} {moment : Moment}

/-! ## Turns -/

/-- How a verdict ends a run and with which response; nothing if the run goes on. -/
def Verdict.ending? (stage : String) : Verdict → Option (Ending × Http.Response)
  | .proceed => none
  | .respond r => some (.shortCircuited, r)
  | .fail f => some (.failed, .ofFault f)
  | .collapse => some (.failed, .ofFault (.stage stage "plugin panicked"))

/-- State and exchange behind a stage. A stage that is skipped leaves both as they are. -/
def turn (moment : Moment) (p : σ × Exchange) (st : Stage σ) : σ × Exchange :=
  if st.skips p.2 then p else ((st.run moment p.1 p.2).state, (st.run moment p.1 p.2).exchange)

/-- A stage, with the state and the exchange that it finds as it is reached. -/
structure Arrival (σ : Type) where
  stage : Stage σ
  state : σ
  exchange : Exchange

namespace Arrival

def skipped (a : Arrival σ) : Bool := a.stage.skips a.exchange

/-- How the run ends with this stage, if it does. -/
def ending? (moment : Moment) (a : Arrival σ) : Option (Ending × Http.Response) :=
  (a.stage.run moment a.state a.exchange).verdict.ending? a.stage.name

end Arrival

/-- All stages as they are reached, each behind the one before it. -/
def arrivals (moment : Moment) : List (Stage σ) → σ × Exchange → List (Arrival σ)
  | [], _ => []
  | st :: rest, p => ⟨st, p.1, p.2⟩ :: arrivals moment rest (turn moment p st)

/-- The stages that are not skipped as they are reached. -/
def turns (moment : Moment) (stages : List (Stage σ)) (p : σ × Exchange) : List (Arrival σ) :=
  (arrivals moment stages p).filter fun a => !a.skipped

/-- A list up to its first element with a property, that one included. -/
def upTo (p : α → Bool) : List α → List α
  | [] => []
  | a :: l => if p a then [a] else a :: upTo p l

/-! ## One stage -/

variable {st : Stage σ} {s : σ} {x : Exchange}

theorem turns_of_skips (h : st.skips x = true) (rest : List (Stage σ)) :
    turns moment (st :: rest) (s, x) = turns moment rest (s, x) := by
  have hturn : turn moment (s, x) st = (s, x) := if_pos h
  rw [turns, arrivals, hturn, List.filter_cons_of_neg (by simpa [Arrival.skipped] using h)]
  rfl

/-- A stage that is not skipped has a turn, and the next one sees what it left. -/
theorem turns_of_not_skips (h : st.skips x = false) (rest : List (Stage σ)) :
    turns moment (st :: rest) (s, x) =
      ⟨st, s, x⟩ :: turns moment rest ((st.run moment s x).state, (st.run moment s x).exchange) := by
  have hturn : turn moment (s, x) st = ((st.run moment s x).state, (st.run moment s x).exchange) :=
    if_neg (by simp [h])
  rw [turns, arrivals, hturn, List.filter_cons_of_pos (by simpa [Arrival.skipped] using h)]
  rfl

theorem run_of_skips (h : st.skips x = true) (rest : List (Stage σ)) :
    run moment (st :: rest) s x = run moment rest s x := by
  rw [run, if_pos h]

/-- A stage either lets the run go on with the others, or it ends it. -/
theorem run_of_not_skips (h : st.skips x = false) (rest : List (Stage σ)) :
    run moment (st :: rest) s x =
      match (Arrival.mk st s x).ending? moment with
      | none =>
        let after := run moment rest (st.run moment s x).state (st.run moment s x).exchange
        { after with executed := st.name :: after.executed }
      | some (ending, response) =>
        ⟨ending, response, [st.name], (st.run moment s x).state, (st.run moment s x).exchange⟩ := by
  rw [run, h]
  dsimp only [Arrival.ending?]
  cases (st.run moment s x).verdict <;> rfl

/-! ## All stages -/

/-- What a run makes known of itself, in terms of the turns of its stages. -/
structure Account (moment : Moment) (stages : List (Stage σ)) (s : σ) (x : Exchange) (r : Run σ) :
    Prop where
  executed : r.executed = (upTo (fun a => (a.ending? moment).isSome) (turns moment stages (s, x))).map
    fun a => a.stage.name
  /-- The first turn that ends the run decides; else the exchange does, as it is in the end. -/
  outcome : (r.ending, r.response) =
    ((turns moment stages (s, x)).findSome? (Arrival.ending? moment)).getD (.completed,
      (stages.foldl (turn moment) (s, x)).2.answer.getD (.error 404 "no plugin handled the request"))
  /-- Behind a turn that ends the run there may be any stages. -/
  indifferent : ∀ front back, stages = front ++ back →
    (∃ a ∈ turns moment front (s, x), (a.ending? moment).isSome) →
    ∀ others, run moment (front ++ others) s x = r

/-- The trace is read off the turns, up to the first with an ending. -/
theorem executed_run (stages : List (Stage σ)) (s : σ) (x : Exchange) :
    (run moment stages s x).executed =
      (upTo (fun a => (a.ending? moment).isSome) (turns moment stages (s, x))).map
        fun a => a.stage.name := by
  induction stages generalizing s x with
  | nil => rfl
  | cons st rest ih =>
      cases hskips : st.skips x with
      | true => rw [run_of_skips hskips, turns_of_skips hskips, ih]
      | false =>
          rw [run_of_not_skips hskips, turns_of_not_skips hskips, upTo]
          cases hend : (Arrival.mk st s x).ending? moment with
          | none => simp [ih]
          | some e => simp

/-- The first turn with an ending decides on the outcome; without one the chain goes through. -/
theorem outcome_run (stages : List (Stage σ)) (s : σ) (x : Exchange) :
    ((run moment stages s x).ending, (run moment stages s x).response) =
      ((turns moment stages (s, x)).findSome? (Arrival.ending? moment)).getD (.completed,
        (stages.foldl (turn moment) (s, x)).2.answer.getD
          (.error 404 "no plugin handled the request")) := by
  induction stages generalizing s x with
  | nil => rfl
  | cons st rest ih =>
      cases hskips : st.skips x with
      | true =>
          have hturn : turn moment (s, x) st = (s, x) := if_pos hskips
          rw [run_of_skips hskips, turns_of_skips hskips, List.foldl_cons, hturn, ih]
      | false =>
          have hturn : turn moment (s, x) st =
              ((st.run moment s x).state, (st.run moment s x).exchange) := if_neg (by simp [hskips])
          rw [run_of_not_skips hskips, turns_of_not_skips hskips, List.foldl_cons, hturn,
            List.findSome?_cons]
          cases hend : (Arrival.mk st s x).ending? moment with
          | none => exact ih _ _
          | some e => rfl

/-- A run that has come to its end does not care what it might have come to after that. -/
theorem run_append_of_ends {front : List (Stage σ)} {s : σ} {x : Exchange}
    (h : ∃ a ∈ turns moment front (s, x), (a.ending? moment).isSome) (back others : List (Stage σ)) :
    run moment (front ++ others) s x = run moment (front ++ back) s x := by
  induction front generalizing s x with
  | nil =>
      obtain ⟨a, ha, -⟩ := h
      cases ha
  | cons st rest ih =>
      rw [List.cons_append, List.cons_append]
      cases hskips : st.skips x with
      | true =>
          rw [turns_of_skips hskips] at h
          rw [run_of_skips hskips, run_of_skips hskips, ih h]
      | false =>
          rw [turns_of_not_skips hskips] at h
          rw [run_of_not_skips hskips, run_of_not_skips hskips]
          cases hend : (Arrival.mk st s x).ending? moment with
          | some e => rfl
          | none =>
              -- this one lets the run go on, so the turn that ends it is among the others
              obtain ⟨a, ha, hends⟩ := h
              rcases List.mem_cons.1 ha with rfl | ha
              · rw [hend] at hends
                cases hends
              · simp only [ih ⟨a, ha, hends⟩]

/-- **The account of a run**, whatever its stages do. -/
theorem run_account (moment : Moment) (stages : List (Stage σ)) (s : σ) (x : Exchange) :
    Account moment stages s x (run moment stages s x) where
  executed := executed_run stages s x
  outcome := outcome_run stages s x
  indifferent := by
    rintro front back rfl hends others
    exact run_append_of_ends hends back others

/-! ## Where runs end -/

theorem turn_of_skips (h : st.skips x = true) : turn moment (s, x) st = (s, x) := if_pos h

theorem turn_of_not_skips (h : st.skips x = false) :
    turn moment (s, x) st = ((st.run moment s x).state, (st.run moment s x).exchange) :=
  if_neg (by simp [h])

/-- Where a stage lets an exchange on, it goes on behind the stage. -/
theorem Advances.turn_eq {s₁ : σ} {x₁ : Exchange}
    (h : Advances moment st s x s₁ x₁) : turn moment (s, x) st = (s₁, x₁) := by
  cases h with
  | skipped hskip => exact turn_of_skips hskip
  | proceeded hskip _ => exact turn_of_not_skips hskip

/-- **A run ends behind one of its stages**, or where it began. -/
theorem exists_take_of_run (moment : Moment) (stages : List (Stage σ)) (s : σ) (x : Exchange) :
    ∃ n, ((run moment stages s x).state, (run moment stages s x).exchange) =
      (stages.take n).foldl (turn moment) (s, x) := by
  induction stages generalizing s x with
  | nil => exact ⟨0, rfl⟩
  | cons st rest ih =>
      rcases run_cons_cases moment st rest s x with
        ⟨s₁, x₁, hadv, hstate, hexchange⟩ | ⟨hskip, hstate, hexchange⟩
      · obtain ⟨n, hn⟩ := ih s₁ x₁
        refine ⟨n + 1, ?_⟩
        rw [hstate, hexchange, hn, List.take_succ_cons, List.foldl_cons, hadv.turn_eq]
      · refine ⟨1, ?_⟩
        rw [hstate, hexchange, List.take_succ_cons, List.take_zero, List.foldl_cons,
          turn_of_not_skips hskip]
        rfl

end Gatehouse.Chain
