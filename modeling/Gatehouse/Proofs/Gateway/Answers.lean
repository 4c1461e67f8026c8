import Gatehouse.Proofs.Chain.Ending
import Gatehouse.Proofs.Gateway.Attempts

/-!
# Answers

What leaves a gateway with none but the built-in stages as the response to a request. Two of the
stages have to do with the answer of the backend, and the others stay aloof (`aloof_of_mem`):

    arrival ──before──▶ web_client ──between──▶ response ──after──▶ end
      none                raw          raw      finished  finished

Where `response` is active it cannot have its turn before the call, since it stops a run that has
no answer yet. So **a response is the last answer of the backend without the headers that concern
one connection only, or it is made by the gateway** (`relays_or_own`), and the first is the case
exactly when the run is completed.
-/

namespace Gatehouse

/-- What became of the last attempt for the request at hand. -/
def Call.Line.last? (l : Line) : Option (Attempt Http.Response) :=
  if l.sent.isEmpty then none else some (l.answers (l.attempts - 1))

/-- The answer to an attempt, if there is one. -/
def Call.Attempt.answer? : Attempt α → Option α
  | .answered x => some x
  | .failed _ | .broken => none

/-- A response that the gateway makes itself, to report an error. -/
def Http.Response.IsOwn (r : Response) : Prop := ∃ status message, r = .error status message

theorem Http.Response.isOwn_ofFault (f : Fault) : (ofFault f).IsOwn := by
  rw [ofFault]
  split
  · exact ⟨_, _, rfl⟩
  · exact ⟨_, _, rfl⟩

namespace Gateway

open Chain Stages Http

variable {resolve : State → String → Attributes → Match.Resolution} {moment : Moment}
  {s s₁ : State} {x x₁ : Exchange} {u : Setup}

/-! ## Stages that stay aloof -/

/-- A verdict reports errors of the gateway, if it responds at all. -/
def Reports (v : Verdict) : Prop := ∀ r, v = .respond r → r.IsOwn

theorem isOwn_of_stops {st : Stage State} {r : Response}
    (hreports : Reports (st.run moment s x).verdict) (h : Stops moment st s x r) : r.IsOwn := by
  have hresponse := h.verdict
  cases hv : (st.run moment s x).verdict with
  | proceed =>
      rw [hv] at hresponse
      cases hresponse
  | respond r' =>
      rw [hv] at hresponse
      obtain rfl := Option.some.inj hresponse
      exact hreports _ hv
  | fail f | collapse =>
      rw [hv] at hresponse
      obtain rfl := Option.some.inj hresponse
      exact Response.isOwn_ofFault _

/-- A turn has nothing to do with the answer of the backend. -/
structure Aloof (x : Exchange) (step : Step State) : Prop where
  answer : step.exchange.answer = x.answer
  reports : Reports step.verdict

/-- A stage that only passes a verdict has nothing to do with the answer. -/
theorem aloof_conclude {v : Verdict} (hv : Reports v) (s : State) (x : Exchange) :
    Aloof x (conclude v s x) := ⟨rfl, hv⟩

theorem reports_proceed : Reports .proceed := by
  intro r h
  cases h

theorem reports_fail (f : Fault) : Reports (.fail f) := by
  intro r h
  cases h

theorem reports_error (status : Nat) (message : String) :
    Reports (.respond (.error status message)) := by
  intro r h
  cases h
  exact ⟨status, message, rfl⟩

/-- What was found for an exchange does not count as an answer. -/
@[simp] theorem answer_noted (found : Match.Resolution) (x : Exchange) :
    (noted found x).answer = x.answer := by cases found <;> rfl

/-- A scoped stage stays aloof if it does so under its rules and without them. -/
theorem aloof_toStage {sc : Scoped State} (hunselected : Reports sc.unselected)
    (hunruled : ∀ selector, Reports (sc.unruled selector))
    (hmatched : ∀ s x selector rule, Aloof x (sc.matched moment s x selector rule))
    (s : State) (x : Exchange) : Aloof x ((sc.toStage resolve).run moment s x) := by
  rw [run_toStage]
  split
  · exact aloof_conclude hunselected s x
  · next selector _ => exact ⟨answer_noted _ x, hunruled selector⟩
  · next selector rule _ =>
      have h := hmatched s (noted (.matched selector rule) x) selector rule
      exact ⟨h.answer.trans (answer_noted _ x), h.reports⟩

theorem aloof_sign (verifier : Sign.Verifier) (s : State) (x : Exchange) (selector : Selector)
    (rule : Rule) : Aloof x ((Stages.sign verifier).matched moment s x selector rule) := by
  simp only [Stages.sign]
  split
  · exact aloof_conclude reports_proceed s x
  · exact aloof_conclude (reports_error _ _) s x

theorem aloof_throttle (s : State) (x : Exchange) (selector : Selector) (rule : Rule) :
    Aloof x (throttle.matched moment s x selector rule) := by
  simp only [throttle]
  split
  · exact aloof_conclude reports_proceed _ x
  · exact aloof_conclude (reports_error _ _) _ x
  · exact aloof_conclude (reports_fail _) _ x

theorem aloof_reshape (s : State) (x : Exchange) (selector : Selector) (rule : Rule) :
    Aloof x (reshape.matched moment s x selector rule) := by
  simp only [reshape]
  split
  · exact aloof_conclude (reports_fail _) s x
  · split
    · exact aloof_conclude (reports_fail _) s x
    · exact aloof_conclude reports_proceed s x
    · exact ⟨rfl, reports_proceed⟩

theorem aloof_balance (scatter : Gatehouse.Balance.Scatter) (s : State) (x : Exchange)
    (selector : Selector) (rule : Rule) :
    Aloof x ((balance scatter).matched moment s x selector rule) := by
  simp only [balance]
  split
  · exact aloof_conclude (reports_fail _) s x
  · split
    · exact aloof_conclude (reports_fail _) _ x
    · exact ⟨rfl, reports_proceed⟩

theorem aloof_target (s : State) (x : Exchange) : Aloof x (Stages.target.run moment s x) := by
  simp only [Stages.target]
  split
  · exact aloof_conclude reports_proceed s x
  · exact ⟨rfl, reports_proceed⟩

/-- All built-in stages but two stay aloof. -/
theorem aloof_of_mem {st : Stage State} (h : st ∈ u.stages) (hcalls : st.name ≠ "web_client")
    (hfinishes : st.name ≠ "response") (s : State) (x : Exchange) :
    Aloof x (st.run moment s x) := by
  simp only [Setup.stages, List.mem_cons, List.not_mem_nil, or_false] at h
  rcases h with rfl | rfl | rfl | rfl | rfl | rfl | rfl | rfl
  · exact ⟨rfl, reports_proceed⟩
  · exact aloof_toStage reports_proceed (fun _ => reports_proceed) (aloof_sign u.verifier) s x
  · exact aloof_toStage reports_proceed (fun _ => reports_proceed) aloof_throttle s x
  · exact aloof_toStage reports_proceed (fun _ => reports_proceed) aloof_reshape s x
  · exact aloof_toStage (reports_fail _) (fun _ => reports_fail _) (aloof_balance u.scatter) s x
  · exact aloof_target s x
  · exact absurd rfl hcalls
  · exact absurd rfl hfinishes

/-! ## The call -/

/-- An answer to a call is the outcome of its last attempt. -/
theorem last?_call {settings : HttpClientSettings} {url : String} {supply : Forward.Supply}
    {line : Call.Line} {raw : Response}
    (h : (Forward.call settings url x supply line).1 = .answered raw) :
    (Forward.call settings url x supply line).2.last? = some (.answered raw) := by
  obtain ⟨last, -, hcall⟩ := Forward.call_eq settings url x supply line
  rw [hcall] at h ⊢
  have houtcome := Call.Attempt.eq_answered_of_toEnding h
  simp [Call.Line.last?, Forward.lineAt, houtcome]

/-- The stage that makes the call gets past only with an answer, that to its last attempt. -/
theorem answer_forward {settings : HttpClientSettings}
    (h : ((forward settings).run moment s x).verdict = .proceed) :
    ∃ raw, ((forward settings).run moment s x).exchange.answer = some raw ∧
      ((forward settings).run moment s x).state.line.last? = some (.answered raw) := by
  simp only [forward] at h ⊢
  cases htarget : x.context.target with
  | none =>
      rw [htarget] at h
      cases h
  | some url =>
      rw [htarget] at h
      simp only at h ⊢
      cases hsupply : Forward.supply settings x with
      | error reason =>
          rw [hsupply] at h
          cases h
      | ok supply =>
          rw [hsupply] at h
          simp only at h ⊢
          cases hending : (Forward.call settings url x supply s.line).1 with
          | answered raw => exact ⟨raw, rfl, last?_call hending⟩
          | failed f | broken =>
              rw [hending] at h
              cases h

/-- A call responds only where there is nowhere to go, with an error of the gateway's own. -/
theorem reports_forward (settings : HttpClientSettings) (s : State) (x : Exchange) :
    Reports ((forward settings).run moment s x).verdict := by
  simp only [forward]
  split
  · exact reports_error _ _
  · split
    · exact reports_fail _
    · split
      · exact reports_proceed
      · exact reports_fail _
      · intro r h
        cases h

theorem reports_answer (s : State) (x : Exchange) :
    Reports (answer.run moment s x).verdict := by
  simp only [answer, Answer.missing]
  split
  · exact reports_proceed
  · simp only [conclude]
    split
    · exact reports_error _ _
    · exact reports_error _ _

/-- **A response by which a built-in stage stops a run** is one of the gateway itself. -/
theorem isOwn_of_mem {st : Stage State} (h : st ∈ u.stages) {r : Response}
    (hstops : Stops moment st s x r) : r.IsOwn := by
  by_cases hcalls : st.name = "web_client"
  · obtain rfl : st = forward u.client := eq_of_name h (by simp [Setup.stages]) hcalls
    exact isOwn_of_stops (reports_forward u.client s x) hstops
  · by_cases hfinishes : st.name = "response"
    · obtain rfl : st = answer := eq_of_name h (by simp [Setup.stages]) hfinishes
      exact isOwn_of_stops (reports_answer s x) hstops
    · exact isOwn_of_stops (aloof_of_mem h hcalls hfinishes s x).reports hstops

/-! ## On the way -/

/-- Stages that have nothing to do with the answer leave it alone, one after the other. -/
theorem answer_of_passes {stages : List (Stage State)} (hstages : ∀ st ∈ stages, st ∈ u.stages)
    (hcalls : "web_client" ∉ stages.map Stage.name)
    (hfinishes : "response" ∉ stages.map Stage.name) (h : Passes moment stages s x s₁ x₁) :
    x₁.answer = x.answer := by
  refine h.keeps (P := fun _ _ x' => x'.answer = x.answer) ?_ [] rfl
  intro st hst _ s' x' s₂ x₂ hsame hadv
  cases hadv with
  | skipped _ => exact hsame
  | proceeded _ _ =>
      have hname := List.mem_map_of_mem (f := Stage.name) hst
      have haloof : Aloof x' (st.run moment s' x') := aloof_of_mem (hstages st hst)
        (ne_of_mem_of_not_mem hname hcalls) (ne_of_mem_of_not_mem hname hfinishes) s' x'
      exact haloof.answer.trans hsame

/-- **Before it is finished** an answer is what the last attempt has brought, and the stage that
makes the call is behind. -/
theorem answered_of_passes {stages : List (Stage State)} (hstages : ∀ st ∈ stages, st ∈ u.stages)
    (hfinishes : "response" ∉ stages.map Stage.name) (h : Passes moment stages s x s₁ x₁)
    (hnone : x.answer = none) {raw : Response} (hraw : x₁.answer = some raw) :
    "web_client" ∈ stages.map Stage.name ∧ s₁.line.last? = some (.answered raw) := by
  have hkeeps := h.keeps
    (P := fun passed s' x' => ∀ raw, x'.answer = some raw →
      "web_client" ∈ passed ∧ s'.line.last? = some (.answered raw))
    ?_ [] (fun raw hraw => by rw [hnone] at hraw; cases hraw)
  · exact hkeeps raw hraw
  · -- the invariant: an answer means that the call is behind and came last on the line
    intro st hst passed s' x' s₂ x₂ hsofar hadv raw hraw
    have hfinish := ne_of_mem_of_not_mem (List.mem_map_of_mem (f := Stage.name) hst) hfinishes
    by_cases hcalls : st.name = "web_client"
    · obtain rfl : st = forward u.client :=
        eq_of_name (hstages st hst) (by simp [Setup.stages]) hcalls
      refine ⟨List.mem_append_right passed List.mem_cons_self, ?_⟩
      cases hadv with
      | skipped _ => exact (hsofar raw hraw).2
      | proceeded _ hv =>
          obtain ⟨raw', hraw', hlast⟩ := answer_forward hv
          obtain rfl := Option.some.inj (hraw'.symm.trans hraw)
          exact hlast
    · have hline := (leaves_of_advances (hstages st hst) hadv).line
        fun hmem => hcalls (List.mem_singleton.1 hmem).symm
      have hanswer : x₂.answer = x'.answer := by
        cases hadv with
        | skipped _ => rfl
        | proceeded _ _ => exact (aloof_of_mem (hstages st hst) hcalls hfinish s' x').answer
      rw [hanswer] at hraw
      rw [hline]
      exact ⟨List.mem_append_left _ (hsofar raw hraw).1, (hsofar raw hraw).2⟩

/-- The stage that finishes answers gets past only with an answer to finish. -/
theorem answer_of_advances (h : Advances moment answer s x s₁ x₁) :
    ∃ raw, x.answer = some raw ∧ x₁.answer = some (Answer.strip raw) := by
  cases h with
  | skipped hskip => cases hskip
  | proceeded _ hv =>
      simp only [answer] at hv ⊢
      cases hanswer : x.answer with
      | none =>
          rw [hanswer] at hv
          cases hv
      | some raw => exact ⟨raw, rfl, rfl⟩

/-! ## Responses -/

/-- A response relays an answer: it is the same but for the headers that concern one connection
only. -/
structure Relays (raw response : Response) : Prop where
  status : response.status = raw.status
  body : response.body = raw.body
  /-- Each other name has the values that it had, repeated ones included, in their order. -/
  headers : ∀ name, name ∉ Answer.hopByHop → Headers.valuesOf name response.headers.fields =
    Headers.valuesOf name raw.headers.fields
  clean : ∀ f ∈ response.headers.fields, f.1 ∉ Answer.hopByHop

/-- Cutting the headers of the connection keeps all other names with their values. -/
theorem relays_strip (raw : Response) : Relays raw (Answer.strip raw) where
  status := rfl
  body := rfl
  headers name hname := by
    show Headers.valuesOf name (raw.headers.without Answer.hopByHop).fields = _
    rw [Headers.valuesOf_without, if_neg hname]
  clean f hf := (Headers.mem_without.1 hf).2

/-- A run past all stages, one of which finishes answers, has the last answer to finish. -/
theorem answer_of_passes_active {g : Gateway} {r : Request} (h : Stock u g)
    (hactive : "response" ∈ g.lineup.names)
    (hpasses : Passes moment g.lineup.active g.arrival (.ofRequest r) s x) :
    ∃ raw, x.answer = some (Answer.strip raw) ∧ s.line.last? = some (.answered raw) := by
  obtain ⟨st, hst, hname⟩ := List.mem_map.1 hactive
  obtain rfl : st = answer := eq_of_name (h.mem_stages hst) (by simp [Setup.stages]) hname
  have hnodup := h.nodup_names
  unfold Lineup.names at hnodup
  obtain ⟨before, after, s₁, x₁, s₂, x₂, hsplit, hbefore, hturn, hafter⟩ := hpasses.exists_turn hst
  have hstages : ∀ st ∈ before ++ answer :: after, st ∈ u.stages :=
    fun st hst => h.mem_stages (hsplit ▸ hst)
  rw [hsplit, List.map_append, List.map_cons] at hnodup
  obtain ⟨-, hright, hapart⟩ := List.nodup_append.1 hnodup
  obtain ⟨raw, hraw, hfinished⟩ := answer_of_advances hturn
  -- the call was made before the turn, so it is not made after it
  obtain ⟨hcalls, hlast⟩ := answered_of_passes
    (fun st hst => hstages st (List.mem_append_left _ hst))
    (fun hmem => hapart _ hmem _ List.mem_cons_self rfl) hbefore rfl hraw
  have hcalls' : "web_client" ∉ after.map Stage.name :=
    fun hmem => hapart _ hcalls _ (List.mem_cons_of_mem _ hmem) rfl
  have hafterStages : ∀ st ∈ after, st ∈ u.stages :=
    fun st hst => hstages st (List.mem_append_right _ (List.mem_cons_of_mem _ hst))
  have hline : s.line = s₁.line := by
    rw [(leaves_of_passes hafterStages hafter).line hcalls',
      (leaves_of_advances (hstages answer (by simp)) hturn).line (by decide)]
  have hanswer : x.answer = x₂.answer :=
    answer_of_passes hafterStages hcalls' (List.nodup_cons.1 hright).1 hafter
  exact ⟨raw, hanswer.trans hfinished, hline ▸ hlast⟩

/-- **Where answers are finished**, the response of a completed run relays the answer to the last
attempt, and every other response is made by the gateway. -/
theorem relays_or_own {g : Gateway} (h : Stock u g) (hactive : "response" ∈ g.lineup.names)
    (moment : Moment) (r : Request) :
    ((g.handle moment r).ending = .completed ∧
      ∃ raw, (g.handle moment r).state.line.last? = some (.answered raw) ∧
        Relays raw (g.handle moment r).response) ∨
    ((g.handle moment r).ending ≠ .completed ∧ (g.handle moment r).response.IsOwn) := by
  rcases run_ends moment g.lineup.active g.arrival (.ofRequest r) with
    ⟨s, x, hpasses⟩ | ⟨hending, st, hst, s, x, hstops⟩
  · obtain ⟨raw, hanswer, hlast⟩ := answer_of_passes_active h hactive hpasses
    obtain ⟨executed, hrun⟩ := run_of_passes hpasses
    have hrun : g.handle moment r = _ := hrun
    rw [hrun, hanswer]
    exact Or.inl ⟨rfl, raw, hlast, relays_strip raw⟩
  · exact Or.inr ⟨hending, isOwn_of_mem (h.mem_stages hst) hstops⟩

/-- What a backend answers, in chunks, with a field that repeats. -/
def chunked : Response :=
  ⟨200, .ofList [("x-a", "1"), ("transfer-encoding", "chunked"), ("x-a", "2")], .ofText "ok"⟩

/-- What a gateway without settings is built from, if its backend is there from the second attempt
on. -/
def late : Blueprint :=
  { Blueprint.bare with
    line := .ofAnswers fun n =>
      if n = 0 then .failed (.connectTimeout "") else .answered chunked }

/-- A gateway whose backend is there from the second attempt on. -/
def waiting : Gateway := ((build late).toOption).get (by rfl)

/-- All requests are passed on to one backend, with a retry. -/
def retried : List Change :=
  routed ++ [.event (.put .rule (.obj [("enabled", .bool true),
    ("handle", .obj [("retry", .int 1)]), ("id", .str "r"), ("selectorId", .str "s")]))]

/-- The gateway whose backend answers the second attempt passes the answer on. -/
theorem relays_or_own_retried :
    Stock unsetSetup (waiting.follow retried) ∧
      "response" ∈ (waiting.follow retried).lineup.names ∧
      let response := ((waiting.follow retried).handle ⟨0, 0, 0⟩ (.ofTarget "GET" "/")).response
      response.status = 200 ∧ response.body = .ofText "ok" ∧
        Headers.valuesOf "x-a" response.headers.fields = ["1", "2"] ∧
        ∀ f ∈ response.headers.fields, f.1 ≠ "transfer-encoding" := by
  have hstock : Stock unsetSetup (waiting.follow retried) :=
    Stock.follow (.built (b := late) rfl rfl rfl rfl) retried
  have hactive : "response" ∈ (waiting.follow retried).lineup.names := by
    rw [Lineup.names, Lineup.active_eq_filter _ (by decide +kernel)]
    decide +kernel
  have hending : ((waiting.follow retried).handle ⟨0, 0, 0⟩ (.ofTarget "GET" "/")).ending =
      .completed := by
    rw [handle, Lineup.active_eq_filter _ (by decide +kernel)]
    decide +kernel
  have hlast : (((waiting.follow retried).handle ⟨0, 0, 0⟩
      (.ofTarget "GET" "/")).state.line.last?.bind Call.Attempt.answer?) = some chunked := by
    rw [handle, Lineup.active_eq_filter _ (by decide +kernel)]
    decide +kernel
  refine ⟨hstock, hactive, ?_⟩
  rcases relays_or_own hstock hactive ⟨0, 0, 0⟩ (.ofTarget "GET" "/") with
    ⟨-, raw, hraw, hrelays⟩ | ⟨hother, -⟩
  · rw [hraw] at hlast
    obtain rfl : raw = chunked := Option.some.inj hlast
    refine ⟨hrelays.status, hrelays.body, ?_, fun f hf => ?_⟩
    · rw [hrelays.headers "x-a" (by decide)]
      decide +kernel
    · intro hname
      refine hrelays.clean f hf ?_
      rw [hname]
      decide
  · exact absurd hending hother

end Gateway

end Gatehouse
