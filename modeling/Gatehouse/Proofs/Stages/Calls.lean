import Gatehouse.Proofs.Call.Retries
import Gatehouse.Proofs.Http.Fields
import Gatehouse.Stages.Forward

/-!
# What the call to a backend leaves behind

A call either makes no attempt at all, or as many as its retries ask for, and these are alike:

    body cannot be kept ──▶ no attempt, the context stays as it was
    otherwise ──▶ attempt ──▶ ... ──▶ attempt ──▶ its outcome, noted in the context

A body has to be kept if there are to be retries, and it cannot be if it is longer than the limit or
if it breaks off. `call_eq` says what is on the line afterwards. All attempts carry the whole request
but its `host` (`alike_attemptOf`): a body that is passed on as it comes goes out once only, but then
there is only one attempt. The last attempt decides what the stage makes of the exchange
(`forward_account`): **an answer becomes the answer of the exchange, a failure leaves that alone, and
both are noted together with the time that was spent**. Nothing is noted where no call was made.
-/

namespace Gatehouse.Stages

open Chain Gateway

namespace Forward

/-! ## The attempts of a call -/

/-- The time before the attempt of a number, in milliseconds. -/
def waitedBefore (settings : HttpClientSettings) (n : Nat) : Nat :=
  ((List.range n).map settings.retryPolicy.delay).sum

theorem waitedBefore_succ (settings : HttpClientSettings) (n : Nat) :
    waitedBefore settings (n + 1) = waitedBefore settings n + settings.retryPolicy.delay n := by
  simp [waitedBefore, List.range_succ]

def attemptOf (settings : HttpClientSettings) (url : String) (x : Exchange) (supply : Supply)
    (line : Call.Line) (n : Nat) : Call.Sent where
  after := line.waited + waitedBefore settings n
  method := x.request.method
  url := url
  headers := x.request.headers.without ["host"]
  body := supply.bodyOf n
  timeout := timeout settings x.context

/-- The line with the first attempts of a call and the waits after them. -/
def lineAt (settings : HttpClientSettings) (url : String) (x : Exchange) (supply : Supply)
    (line : Call.Line) (n : Nat) : Call.Line where
  answers := line.answers
  attempts := line.attempts + n
  sent := line.sent ++ (List.range n).map (attemptOf settings url x supply line)
  waited := line.waited + waitedBefore settings n

variable {settings : HttpClientSettings} {url : String} {x : Exchange} {line : Call.Line}
  {supply : Supply}

/-- By induction on the number of attempts. -/
theorem stateAt_eq_lineAt (settings : HttpClientSettings) (url : String) (x : Exchange)
    (supply : Supply) (line : Call.Line) (n : Nat) :
    Call.stateAt settings.retryPolicy
      (fun n line => line.send x.request.method url (x.request.headers.without ["host"])
        (supply.bodyOf n) (timeout settings x.context))
      Call.Line.wait line n = lineAt settings url x supply line n := by
  induction n with
  | zero => simp [Call.stateAt, lineAt, waitedBefore]
  | succ n ih =>
      rw [Call.stateAt, ih]
      simp [Call.Line.send, Call.Line.wait, lineAt, attemptOf, waitedBefore_succ, List.range_succ,
        Nat.add_assoc]

/-- **What is on the line after a call**: one attempt after the other, up to the first that does not
fail while connecting or the one that the retries allow, and the waits before the last one. -/
theorem call_eq (settings : HttpClientSettings) (url : String) (x : Exchange) (supply : Supply)
    (line : Call.Line) : ∃ last, Call.IsLast (retries settings x.context)
        (fun i => (line.answers (line.attempts + i)).isConnectTimeout) last ∧
      call settings url x supply line = ((line.answers (line.attempts + last)).toEnding (last + 1),
        { lineAt settings url x supply line (last + 1) with
          waited := line.waited + waitedBefore settings last }) := by
  obtain ⟨last, hlast⟩ := Call.exists_isLast (retries settings x.context)
    fun i => (line.answers (line.attempts + i)).isConnectTimeout
  refine ⟨last, hlast, ?_⟩
  have hscript : Call.IsLast (retries settings x.context)
      (fun i => ((lineAt settings url x supply line i).answers
        (lineAt settings url x supply line i).attempts).isConnectTimeout) last := hlast
  simp only [← stateAt_eq_lineAt] at hscript
  rw [call, Call.withRetries_eq hscript, stateAt_eq_lineAt]
  simp [Call.Line.send, lineAt, attemptOf, List.range_succ, Nat.add_assoc]

/-- An attempt carries all that it should. -/
structure Alike (settings : HttpClientSettings) (url : String) (x : Exchange) (a : Call.Sent) :
    Prop where
  method : a.method = x.request.method
  url : a.url = url
  /-- Each name but one has the values that it had, repeated ones included, in their order. -/
  headers : ∀ name, name ≠ "host" → Http.Headers.valuesOf name a.headers.fields =
    Http.Headers.valuesOf name x.request.headers.fields
  host : ∀ f ∈ a.headers.fields, f.1 ≠ "host"
  body : a.body = x.request.body
  timeout : a.timeout = max (x.context.timeout.getD settings.timeout) 1

/-- An attempt that is supplied with the whole body carries all that it should. -/
theorem alike_attemptOf {n : Nat} (hbody : supply.bodyOf n = x.request.body) :
    Alike settings url x (attemptOf settings url x supply line n) where
  method := rfl
  url := rfl
  headers name hname := by
    show Http.Headers.valuesOf name (x.request.headers.without ["host"]).fields = _
    rw [Http.Headers.valuesOf_without, if_neg (by simpa using hname)]
  host f hf := by
    have hother := (Http.Headers.mem_without.1 hf).2
    simpa using hother
  body := hbody
  timeout := rfl

/-- So all attempts of a call are alike, if there is a body for as many as the retries allow. -/
theorem alike_attempts {last : Nat} (hlast : last ≤ retries settings x.context)
    (hbodies : ∀ n ≤ retries settings x.context, supply.bodyOf n = x.request.body) :
    ∀ a ∈ (List.range (last + 1)).map (attemptOf settings url x supply line),
      Alike settings url x a := by
  intro a ha
  obtain ⟨n, hn, rfl⟩ := List.mem_map.1 ha
  apply alike_attemptOf
  apply hbodies
  exact Nat.le_trans (Nat.le_of_lt_succ (List.mem_range.1 hn)) hlast

/-! ## Bodies -/

/-- A body that is longer than the limit is not kept, whatever comes behind the limit. -/
theorem supply_of_tooLong (hretries : retries settings x.context ≠ 0)
    (hlong : settings.bufferLimit < x.request.body.bytes.length) :
    Forward.supply settings x = .error "length limit exceeded" := by
  rw [Forward.supply, if_neg hretries, Http.Body.collect, if_pos hlong]
  rfl

/-- Nor is one that breaks off before the limit. -/
theorem supply_of_fault (hretries : retries settings x.context ≠ 0)
    (hlength : x.request.body.bytes.length ≤ settings.bufferLimit) {reason : String}
    (hfault : x.request.body.fault = some reason) :
    Forward.supply settings x = .error reason := by
  rw [Forward.supply, if_neg hretries, Http.Body.collect, if_neg (Nat.not_lt.2 hlength), hfault]
  rfl

/-- Otherwise there is the whole body for each attempt that the retries allow. -/
theorem exists_supply (h : retries settings x.context = 0 ∨
    x.request.body.bytes.length ≤ settings.bufferLimit ∧ x.request.body.fault = none) :
    ∃ supply, Forward.supply settings x = .ok supply ∧
      ∀ n ≤ retries settings x.context, supply.bodyOf n = x.request.body := by
  rw [Forward.supply]
  by_cases hretries : retries settings x.context = 0
  · refine ⟨.streamed x.request.body, if_pos hretries, fun n hn => ?_⟩
    -- the stream goes out once, and there is only one attempt
    obtain rfl : n = 0 := by omega
    rfl
  · obtain ⟨hlength, hfault⟩ := h.resolve_left hretries
    refine ⟨.kept x.request.body.bytes, ?_, fun n _ => ?_⟩
    · rw [if_neg hretries, Http.Body.collect, if_neg (Nat.not_lt.2 hlength), hfault]
      rfl
    · show (⟨x.request.body.bytes, none⟩ : Http.Body) = x.request.body
      rw [← hfault]

/-! ## What becomes of the exchange -/

/-- The exchange after a call that took some time and went in some way. -/
def called (x : Exchange) (spent : Nat) (result : CallResult) : Exchange :=
  withContext (giveBody x) fun c => { c with callTime := some spent, result := some result }

end Forward

variable {settings : HttpClientSettings} {moment : Moment} {s : State} {x : Exchange}
  {url : String}

/-- A body that cannot be kept is not sent. -/
theorem run_forward_of_unkept (htarget : x.context.target = some url) {reason : String}
    (h : Forward.supply settings x = .error reason) : (forward settings).run moment s x =
      conclude (.fail (Forward.unkept reason)) s (Forward.giveBody x) := by
  simp only [forward, htarget, h]

/-- Any other body is, and the last attempt decides. -/
theorem run_forward_of_supplied (htarget : x.context.target = some url)
    {supply : Forward.Supply} (h : Forward.supply settings x = .ok supply) :
    (forward settings).run moment s x =
      let (ending, line) := Forward.call settings url x supply s.line
      let spent := line.waited - s.line.waited
      match ending with
      | .answered response =>
        conclude .proceed { s with line := line }
          { Forward.called x spent
              (if Forward.isSuccess response.status then .success else .error) with
            answer := some response }
      | .failed f => conclude (.fail f) { s with line := line } (Forward.called x spent .error)
      | .broken => conclude .collapse { s with line := line } (Forward.giveBody x) := by
  simp only [forward, htarget, h]
  rfl

/-- **What the call to a backend leaves behind.** If there are to be retries, a body that is longer
than what may be kept is not sent, and neither is one that breaks off before that: no attempt is
made, and of the exchange nothing changes but that its body is gone. Otherwise at least one attempt
is made and no more than the retries allow, and all are alike. If the last one is answered the answer
becomes that of the exchange, and the call is noted as a success exactly if the status is between 200
and 299; if it fails the exchange keeps the answer that it had, and the call is noted as an error;
both times the time of the call is noted too. A client that breaks down leaves no note. -/
theorem forward_account (settings : HttpClientSettings) (moment : Moment) (s : State)
    {x : Exchange} {url : String} (htarget : x.context.target = some url) :
    let step := (forward settings).run moment s x
    let budget := Forward.retries settings x.context
    let body := x.request.body
    let unsent (reason : String) :=
      step.verdict = .fail (.other ("cannot buffer request body: " ++ reason)) ∧
        step.state = s ∧ step.exchange = Forward.giveBody x
    (budget ≠ 0 → settings.bufferLimit < body.bytes.length → unsent "length limit exceeded") ∧
    (budget ≠ 0 → body.bytes.length ≤ settings.bufferLimit →
      ∀ reason, body.fault = some reason → unsent reason) ∧
    (budget = 0 ∨ body.bytes.length ≤ settings.bufferLimit ∧ body.fault = none → ∃ made spent,
      step.state = { s with line := step.state.line } ∧
      step.state.line.sent = s.line.sent ++ made ∧
      0 < made.length ∧ made.length ≤ budget + 1 ∧
      (∀ a ∈ made, Forward.Alike settings url x a) ∧
      match (s.line.answers (s.line.attempts + (made.length - 1))).toEnding made.length with
      | .answered response =>
        step.verdict = .proceed ∧
        step.exchange = { Forward.called x spent
          (if 200 ≤ response.status ∧ response.status < 300 then .success else .error) with
            answer := some response }
      | .failed f => step.verdict = .fail f ∧ step.exchange = Forward.called x spent .error
      | .broken => step.verdict = .collapse ∧ step.exchange = Forward.giveBody x) := by
  intro step budget body unsent
  have hunsent : ∀ reason, Forward.supply settings x = .error reason → unsent reason := by
    intro reason h
    have hstep : step = _ := run_forward_of_unkept htarget h
    show step.verdict = _ ∧ step.state = s ∧ step.exchange = _
    rw [hstep]
    exact ⟨rfl, rfl, rfl⟩
  refine ⟨fun hretries hlong => hunsent _ (Forward.supply_of_tooLong hretries hlong),
    fun hretries hlength reason hfault =>
      hunsent _ (Forward.supply_of_fault hretries hlength hfault), fun h => ?_⟩
  obtain ⟨supply, hsupply, hbodies⟩ := Forward.exists_supply h
  obtain ⟨last, hlast, hcall⟩ := Forward.call_eq settings url x supply s.line
  have hstep : step = _ := run_forward_of_supplied htarget hsupply
  rw [hcall] at hstep
  refine ⟨(List.range (last + 1)).map (Forward.attemptOf settings url x supply s.line),
    Forward.waitedBefore settings last, ?_⟩
  have hlength : ((List.range (last + 1)).map
      (Forward.attemptOf settings url x supply s.line)).length = last + 1 := by simp
  rw [hlength, Nat.add_sub_cancel]
  have hspent : s.line.waited + Forward.waitedBefore settings last - s.line.waited =
      Forward.waitedBefore settings last := Nat.add_sub_cancel_left _ _
  have hle := hlast.le
  have halike : ∀ a ∈ (List.range (last + 1)).map (Forward.attemptOf settings url x supply s.line),
      Forward.Alike settings url x a := Forward.alike_attempts hle hbodies
  cases hending : (s.line.answers (s.line.attempts + last)).toEnding (last + 1) with
  | answered response =>
      simp only [hending, hspent] at hstep
      rw [hstep]
      refine ⟨rfl, rfl, by omega, by omega, halike, rfl, ?_⟩
      simp [conclude, Forward.isSuccess]
  | failed f =>
      simp only [hending, hspent] at hstep
      rw [hstep]
      exact ⟨rfl, rfl, by omega, by omega, halike, rfl, rfl⟩
  | broken =>
      simp only [hending] at hstep
      rw [hstep]
      exact ⟨rfl, rfl, by omega, by omega, halike, rfl, rfl⟩

/-- A request to be sent twice at most. -/
def posting : Exchange :=
  { Exchange.ofRequest { Http.Request.ofTarget "POST" "/" with
      headers := .ofList [("host", "h"), ("x-a", "1"), ("x-b", "2"), ("x-a", "3")]
      body := .ofText "ab" } with
    context := { Context.ofPath "/" with target := some "http://a/", retry := some 1 } }

/-- A state whose backend cannot be connected to at first. -/
def stalling : State :=
  .initial [] (.ofAnswers fun
    | 0 => .failed (.connectTimeout "slow")
    | _ => .answered (.error 502 "down")) 0

/-- The second attempt has the body once more, and its answer is noted as an error. A body that
breaks off makes no attempt. -/
theorem forward_account_posting :
    posting.context.target = some "http://a/" ∧
    (∃ made, ((forward .default).run ⟨0, 0, 0⟩ stalling posting).state.line.sent = made ∧
      made.length = 2 ∧ (∀ a ∈ made, Forward.Alike .default "http://a/" posting a) ∧
      ((forward .default).run ⟨0, 0, 0⟩ stalling posting).exchange =
        { Forward.called posting 200 .error with answer := some (.error 502 "down") }) ∧
    let cut : Exchange :=
      { posting with request := { posting.request with body := ⟨[97], some "reset"⟩ } }
    ((forward .default).run ⟨0, 0, 0⟩ stalling cut).verdict =
      .fail (.other "cannot buffer request body: reset") := by
  have htarget : posting.context.target = some "http://a/" := rfl
  refine ⟨htarget, ?_, ?_⟩
  · obtain ⟨-, -, hsent⟩ := forward_account .default ⟨0, 0, 0⟩ stalling htarget
    obtain ⟨made, spent, -, hsent, -, -, halike, -⟩ := hsent (by decide +kernel)
    have hlength :
        ((forward .default).run ⟨0, 0, 0⟩ stalling posting).state.line.sent.length = 2 := rfl
    rw [hsent] at hlength
    exact ⟨made, hsent, hlength, halike, rfl⟩
  · intro cut
    have hcut : cut.context.target = some "http://a/" := rfl
    exact ((forward_account .default ⟨0, 0, 0⟩ stalling hcut).2.1 (by decide +kernel)
      (by decide +kernel) "reset" rfl).1

/-- The names do not go out in the order in which they came in. -/
example : (posting.request.headers.without ["host"]).fields =
    [("x-b", "2"), ("x-a", "1"), ("x-a", "3")] := by decide +kernel

/-- A body that is too long fails a call without a note of it. -/
theorem not_failure_noted : ¬ ∀ (settings : HttpClientSettings) (moment : Moment) (s : State)
    (x : Exchange) (url : String), x.context.target = some url →
    ∀ f, ((forward settings).run moment s x).verdict = .fail f →
      ((forward settings).run moment s x).exchange.context.result = some .error ∧
      ((forward settings).run moment s x).exchange.context.callTime.isSome = true := by
  intro h
  have htarget : posting.context.target = some "http://a/" := rfl
  have hrun : (forward { HttpClientSettings.default with bufferLimit := 1 }).run ⟨0, 0, 0⟩ stalling
      posting = conclude (.fail (Forward.unkept "length limit exceeded")) stalling
        (Forward.giveBody posting) :=
    run_forward_of_unkept htarget (Forward.supply_of_tooLong (by decide +kernel) (by decide +kernel))
  have hnoted := h _ ⟨0, 0, 0⟩ stalling posting "http://a/" htarget _
    (congrArg Step.verdict hrun)
  rw [hrun] at hnoted
  cases hnoted.1

end Gatehouse.Stages
