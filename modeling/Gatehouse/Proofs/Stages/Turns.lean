import Gatehouse.Gateway.Basic
import Gatehouse.Proofs.Balance.Choice
import Gatehouse.Proofs.Chain.Passage
import Gatehouse.Proofs.Stages.Calls
import Mathlib.Data.List.Nodup

/-!
# What each stage does in its turn

Every part of an exchange that decides about the call to a backend has **one owner among the
stages**, and all other stages leave it alone, whatever their verdict (`leaves_of_mem`):

    what the request is      global        the path after substitution   rewrite
    backend and domain       divide        the URL to call               uri
    attempts on the line     web_client

The catalogue and the lists of the pool have none: they are the same after a run, and so is the
request apart from its body. What an owner makes of its part is said by one lemma each, from
`identity_classify` to `sent_forward`.
-/

namespace Gatehouse

/-- What a context says of the request itself: what kind of call it is, what it asks for, and how
it is signed. -/
@[ext] structure Identity where
  rpc : Rpc
  path : String
  realUrl : String
  appKey : Option String
  sign : Option String
  timestamp : Option String

/-- What a context says of the request itself. -/
def Context.identity (c : Context) : Identity :=
  ⟨c.rpc, c.path, c.realUrl, c.appKey, c.sign, c.timestamp⟩

namespace Gateway

open Chain Stages

/-! ## What is left alone -/

/-- What the turns of some stages leave alone, given the names of the stages. -/
structure Leaves (stages : List String) (s : State) (x : Exchange) (s₁ : State)
    (x₁ : Exchange) : Prop where
  catalog : s₁.catalog = s.catalog
  lists : s₁.pool.lists = s.pool.lists
  request : x₁.request = { x.request with body := x₁.request.body }
  line : "web_client" ∉ stages → s₁.line = s.line
  identity : "global" ∉ stages → x₁.context.identity = x.context.identity
  reshaped : "rewrite" ∉ stages → x₁.context.reshaped = x.context.reshaped
  backend : "divide" ∉ stages → x₁.context.backend = x.context.backend
  domain : "divide" ∉ stages → x₁.context.domain = x.context.domain
  target : "uri" ∉ stages → x₁.context.target = x.context.target

theorem Leaves.refl (stages : List String) (s : State) (x : Exchange) : Leaves stages s x s x :=
  ⟨rfl, rfl, rfl, fun _ => rfl, fun _ => rfl, fun _ => rfl, fun _ => rfl, fun _ => rfl,
    fun _ => rfl⟩

/-- Stages one after the other leave alone what each of them does. -/
theorem Leaves.trans {stages : List String} {s s₁ s₂ : State} {x x₁ x₂ : Exchange}
    (h : Leaves stages s x s₁ x₁) (h' : Leaves stages s₁ x₁ s₂ x₂) : Leaves stages s x s₂ x₂ where
  catalog := h'.catalog.trans h.catalog
  lists := h'.lists.trans h.lists
  request := by
    rw [h'.request, h.request]
  line hno := (h'.line hno).trans (h.line hno)
  identity hno := (h'.identity hno).trans (h.identity hno)
  reshaped hno := (h'.reshaped hno).trans (h.reshaped hno)
  backend hno := (h'.backend hno).trans (h.backend hno)
  domain hno := (h'.domain hno).trans (h.domain hno)
  target hno := (h'.target hno).trans (h.target hno)

/-- More stages leave less alone. -/
theorem Leaves.mono {stages more : List String} {s s₁ : State} {x x₁ : Exchange}
    (h : Leaves stages s x s₁ x₁) (hsub : ∀ n ∈ stages, n ∈ more) : Leaves more s x s₁ x₁ where
  catalog := h.catalog
  lists := h.lists
  request := h.request
  line hno := h.line fun hmem => hno (hsub _ hmem)
  identity hno := h.identity fun hmem => hno (hsub _ hmem)
  reshaped hno := h.reshaped fun hmem => hno (hsub _ hmem)
  backend hno := h.backend fun hmem => hno (hsub _ hmem)
  domain hno := h.domain fun hmem => hno (hsub _ hmem)
  target hno := h.target fun hmem => hno (hsub _ hmem)

/-! ### Scoped stages -/

/-- An exchange with what was found for it. -/
def noted (found : Match.Resolution) (x : Exchange) : Exchange :=
  match found with
  | .noSelector => x
  | .noRule selector => withContext x fun c => { c with selectorId := some selector.id }
  | .matched selector rule =>
    withContext x fun c => { c with selectorId := some selector.id, ruleId := some rule.id }

theorem leaves_noted (stages : List String) (s : State) (found : Match.Resolution)
    (x : Exchange) : Leaves stages s x s (noted found x) := by
  cases found <;> exact ⟨rfl, rfl, rfl, fun _ => rfl, fun _ => rfl, fun _ => rfl, fun _ => rfl,
    fun _ => rfl, fun _ => rfl⟩

variable {resolve : State → String → Http.Attributes → Match.Resolution} {moment : Moment}
  {s s₁ : State} {x x₁ : Exchange}

/-- The turn of a scoped stage. -/
theorem run_toStage (sc : Scoped State) (moment : Moment) (s : State) (x : Exchange) :
    (sc.toStage resolve).run moment s x =
      match resolve s sc.name (.ofRequest x.request) with
      | .noSelector => conclude sc.unselected s x
      | .noRule selector => conclude (sc.unruled selector) s (noted (.noRule selector) x)
      | .matched selector rule =>
        sc.matched moment s (noted (.matched selector rule) x) selector rule := rfl

/-- A scoped stage leaves alone what it leaves alone under its rules. -/
theorem leaves_toStage {sc : Scoped State}
    (h : ∀ moment s x selector rule, Leaves [sc.name] s x
      (sc.matched moment s x selector rule).state (sc.matched moment s x selector rule).exchange)
    (moment : Moment) (s : State) (x : Exchange) :
    Leaves [sc.name] s x ((sc.toStage resolve).run moment s x).state
      ((sc.toStage resolve).run moment s x).exchange := by
  rw [run_toStage]
  split
  · exact .refl [sc.name] s x
  · next selector _ => exact leaves_noted [sc.name] s (.noRule selector) x
  · next selector rule _ =>
      have hnoted := leaves_noted [sc.name] s (.matched selector rule) x
      exact hnoted.trans (h moment s _ selector rule)

theorem leaves_sign (verifier : Sign.Verifier) (moment : Moment) (s : State) (x : Exchange)
    (selector : Selector) (rule : Rule) :
    Leaves ["sign"] s x ((Stages.sign verifier).matched moment s x selector rule).state
      ((Stages.sign verifier).matched moment s x selector rule).exchange := by
  simp only [Stages.sign]
  split <;> exact .refl _ _ _

theorem leaves_throttle (moment : Moment) (s : State) (x : Exchange) (selector : Selector)
    (rule : Rule) :
    Leaves [throttleStage] s x (throttle.matched moment s x selector rule).state
      (throttle.matched moment s x selector rule).exchange := by
  simp only [throttle]
  split <;> exact ⟨rfl, rfl, rfl, fun _ => rfl, fun _ => rfl, fun _ => rfl, fun _ => rfl,
    fun _ => rfl, fun _ => rfl⟩

theorem leaves_reshape (moment : Moment) (s : State) (x : Exchange) (selector : Selector)
    (rule : Rule) :
    Leaves ["rewrite"] s x (reshape.matched moment s x selector rule).state
      (reshape.matched moment s x selector rule).exchange := by
  simp only [reshape]
  split
  · exact .refl _ _ _
  · split
    · exact .refl _ _ _
    · exact .refl _ _ _
    · exact ⟨rfl, rfl, rfl, fun _ => rfl, fun _ => rfl, fun h => absurd List.mem_cons_self h, fun _ => rfl,
        fun _ => rfl, fun _ => rfl⟩

/-- Choosing a backend touches the pool's memory, the backend and its domain. -/
theorem leaves_balance (scatter : Gatehouse.Balance.Scatter) (moment : Moment) (s : State)
    (x : Exchange) (selector : Selector) (rule : Rule) :
    Leaves ["divide"] s x ((balance scatter).matched moment s x selector rule).state
      ((balance scatter).matched moment s x selector rule).exchange := by
  simp only [balance]
  split
  · exact .refl _ _ _
  · split <;> exact ⟨rfl, Gatehouse.Balance.Pool.lists_choose, rfl, fun _ => rfl, fun _ => rfl,
      fun _ => rfl, fun h => absurd List.mem_cons_self h, fun h => absurd List.mem_cons_self h, fun _ => rfl⟩

/-! ### The other stages -/

/-- Classifying says nothing of the way to a backend. -/
theorem way_decorate (kind : Rpc) (service : Option Service) (c : Context) :
    (Classify.decorate kind service c).reshaped = c.reshaped ∧
      (Classify.decorate kind service c).backend = c.backend ∧
      (Classify.decorate kind service c).domain = c.domain ∧
      (Classify.decorate kind service c).target = c.target := by
  cases kind <;> cases service <;> exact ⟨rfl, rfl, rfl, rfl⟩

theorem leaves_classify (moment : Moment) (s : State) (x : Exchange) :
    Leaves ["global"] s x (classify.run moment s x).state (classify.run moment s x).exchange := by
  obtain ⟨hreshaped, hbackend, hdomain, htarget⟩ := way_decorate
    (Classify.kindOf s.catalog.services x.request).1 (Classify.kindOf s.catalog.services x.request).2
    { x.context with
      path := x.request.path
      appKey := x.request.header? "appKey"
      sign := x.request.header? "sign"
      timestamp := x.request.header? "timestamp" }
  exact ⟨rfl, rfl, rfl, fun _ => rfl, fun h => absurd List.mem_cons_self h, fun _ => hreshaped,
    fun _ => hbackend, fun _ => hdomain, fun _ => htarget⟩

theorem leaves_target (moment : Moment) (s : State) (x : Exchange) :
    Leaves ["uri"] s x (Stages.target.run moment s x).state
      (Stages.target.run moment s x).exchange := by
  simp only [Stages.target]
  split
  · exact .refl _ _ _
  · exact ⟨rfl, rfl, rfl, fun _ => rfl, fun _ => rfl, fun _ => rfl, fun _ => rfl, fun _ => rfl,
      fun h => absurd List.mem_cons_self h⟩

/-- A call touches the line and what is noted of the call. -/
theorem leaves_forward (settings : HttpClientSettings) (moment : Moment) (s : State)
    (x : Exchange) :
    Leaves ["web_client"] s x ((forward settings).run moment s x).state
      ((forward settings).run moment s x).exchange := by
  simp only [forward]
  split
  · exact .refl _ _ _
  · split
    · exact ⟨rfl, rfl, rfl, fun _ => rfl, fun _ => rfl, fun _ => rfl, fun _ => rfl, fun _ => rfl,
        fun _ => rfl⟩
    · split <;> exact ⟨rfl, rfl, rfl, fun h => absurd List.mem_cons_self h, fun _ => rfl, fun _ => rfl,
        fun _ => rfl, fun _ => rfl, fun _ => rfl⟩

theorem leaves_answer (moment : Moment) (s : State) (x : Exchange) :
    Leaves ["response"] s x (answer.run moment s x).state (answer.run moment s x).exchange := by
  simp only [answer]
  split <;> exact ⟨rfl, rfl, rfl, fun _ => rfl, fun _ => rfl, fun _ => rfl, fun _ => rfl,
    fun _ => rfl, fun _ => rfl⟩

/-- **What the built-in stages leave alone**, whatever their verdict. -/
theorem leaves_of_mem {u : Setup} {st : Stage State} (h : st ∈ u.stages) (moment : Moment)
    (s : State) (x : Exchange) :
    Leaves [st.name] s x (st.run moment s x).state (st.run moment s x).exchange := by
  simp only [Setup.stages, List.mem_cons, List.not_mem_nil, or_false] at h
  rcases h with rfl | rfl | rfl | rfl | rfl | rfl | rfl | rfl
  · exact leaves_classify moment s x
  · exact leaves_toStage (leaves_sign u.verifier) moment s x
  · exact leaves_toStage leaves_throttle moment s x
  · exact leaves_toStage leaves_reshape moment s x
  · exact leaves_toStage (leaves_balance u.scatter) moment s x
  · exact leaves_target moment s x
  · exact leaves_forward u.client moment s x
  · exact leaves_answer moment s x

/-- A stage that lets a request advance touches what its name allows. -/
theorem leaves_of_advances {u : Setup} {st : Stage State} (h : st ∈ u.stages)
    (hadv : Advances moment st s x s₁ x₁) : Leaves [st.name] s x s₁ x₁ := by
  cases hadv with
  | skipped _ => exact .refl _ s x
  | proceeded _ _ => exact leaves_of_mem h moment s x

/-- What a passage through built-in stages leaves alone. -/
theorem leaves_of_passes {u : Setup} {stages : List (Stage State)}
    (hstages : ∀ st ∈ stages, st ∈ u.stages) (h : Passes moment stages s x s₁ x₁) :
    Leaves (stages.map Stage.name) s x s₁ x₁ := by
  refine h.keeps (P := fun _ => Leaves (stages.map Stage.name) s x) ?_ [] (.refl _ s x)
  intro st hst _ s' x' s₂ x₂ hleaves hadv
  refine hleaves.trans ((leaves_of_advances (hstages st hst) hadv).mono ?_)
  intro n hn
  rw [List.mem_singleton.1 hn]
  exact List.mem_map_of_mem hst

/-- What a run through built-in stages leaves alone. -/
theorem leaves_of_run {u : Setup} {stages : List (Stage State)}
    (hstages : ∀ st ∈ stages, st ∈ u.stages) (moment : Moment) (s : State) (x : Exchange) :
    Leaves (stages.map Stage.name) s x (run moment stages s x).state
      (run moment stages s x).exchange := by
  refine run_keeps (P := Leaves (stages.map Stage.name) s x) ?_ (.refl _ s x)
  intro st hst s' x' hleaves
  refine hleaves.trans ((leaves_of_mem (hstages st hst) moment s' x').mono ?_)
  intro n hn
  rw [List.mem_singleton.1 hn]
  exact List.mem_map_of_mem hst

/-! ## What the owners do -/

theorem nodup_names_stages (u : Setup) : (u.stages.map Stage.name).Nodup := by
  show (["global", "sign", "rate_limiter", "rewrite", "divide", "uri", "web_client",
    "response"] : List String).Nodup
  decide

/-- A built-in stage is known by its name. -/
theorem eq_of_name {u : Setup} {st st' : Stage State} (h : st ∈ u.stages) (h' : st' ∈ u.stages)
    (hname : st.name = st'.name) : st = st' :=
  List.inj_on_of_nodup_map (nodup_names_stages u) h h' hname

/-- A scoped stage that lets an exchange on is skipped, or it proceeds for what it has found. -/
theorem advances_toStage {sc : Scoped State}
    (h : Advances moment (sc.toStage resolve) s x s₁ x₁) :
    (sc.skips x = true ∧ s₁ = s ∧ x₁ = x) ∨ (sc.skips x = false ∧
      match resolve s sc.name (.ofRequest x.request) with
      | .noSelector => sc.unselected = .proceed ∧ s₁ = s ∧ x₁ = x
      | .noRule selector =>
        sc.unruled selector = .proceed ∧ s₁ = s ∧ x₁ = noted (.noRule selector) x
      | .matched selector rule =>
        let step := sc.matched moment s (noted (.matched selector rule) x) selector rule
        step.verdict = .proceed ∧ s₁ = step.state ∧ x₁ = step.exchange) := by
  cases h with
  | skipped hskip => exact Or.inl ⟨hskip, rfl, rfl⟩
  | proceeded hskip hv =>
      refine Or.inr ⟨hskip, ?_⟩
      rw [run_toStage] at hv ⊢
      split at hv
      · exact ⟨hv, rfl, rfl⟩
      · exact ⟨hv, rfl, rfl⟩
      · exact ⟨hv, rfl, rfl⟩

/-! ### What the request is -/

/-- What classifying finds a request to be. -/
def identityOf (services : Table Service) (r : Http.Request) : Identity :=
  (Classify.context services r (.ofPath r.path)).identity

/-- What is found does not depend on what was known before. -/
theorem identity_context (services : Table Service) (r : Http.Request) (c : Context) :
    (Classify.context services r c).identity = identityOf services r := by
  have hdecorate : ∀ (kind : Rpc) (service : Option Service) (c d : Context), c.path = d.path →
      c.appKey = d.appKey → c.sign = d.sign → c.timestamp = d.timestamp →
      (Classify.decorate kind service c).identity =
        (Classify.decorate kind service d).identity := by
    intro kind service c d hpath hkey hsign htime
    cases kind <;> cases service <;>
      simp only [Classify.decorate, Context.identity, hpath, hkey, hsign, htime]
  exact hdecorate _ _ _ _ rfl rfl rfl rfl

/-- Classifying depends on the services and the request alone. -/
theorem identity_classify (moment : Moment) (s : State) (x : Exchange) :
    (classify.run moment s x).exchange.context.identity =
      identityOf s.catalog.services x.request := identity_context _ _ _

theorem rpc_decorate (kind : Rpc) (service : Option Service) (c : Context) :
    (Classify.decorate kind service c).rpc = kind := by
  cases kind <;> cases service <;> rfl

theorem path_decorate (kind : Rpc) (service : Option Service) (c : Context) :
    (Classify.decorate kind service c).path = c.path := by
  cases kind <;> cases service <;> rfl

theorem rpc_identityOf (services : Table Service) (r : Http.Request) :
    (identityOf services r).rpc = (Classify.kindOf services r).1 := rpc_decorate _ _ _

theorem path_identityOf (services : Table Service) (r : Http.Request) :
    (identityOf services r).path = r.path := path_decorate _ _ _

/-- A plain request asks for its own path. -/
theorem realUrl_identityOf {services : Table Service} {r : Http.Request}
    (h : (identityOf services r).rpc.isPlainHttp = true) :
    (identityOf services r).realUrl = r.path := by
  rw [rpc_identityOf] at h
  have hkind : (Classify.kindOf services r).1 = .http := by simpa [Rpc.isPlainHttp] using h
  show (Classify.decorate (Classify.kindOf services r).1 _ _).realUrl = _
  rw [hkind]
  rfl

/-! ### Signatures -/

/-- A verifier looks at nothing but what the request is. -/
theorem verify_congr {v : Sign.Verifier} {catalog : Catalog} {now : Nat} {c d : Context}
    (h : c.identity = d.identity) : v.verify catalog now c = v.verify catalog now d := by
  have hpath : c.path = d.path := congrArg Identity.path h
  have hkey : c.appKey = d.appKey := congrArg Identity.appKey h
  have hsign : c.sign = d.sign := congrArg Identity.sign h
  have htime : c.timestamp = d.timestamp := congrArg Identity.timestamp h
  cases v with
  | credentials maxDelay =>
      unfold Sign.Verifier.verify Sign.check
      rw [hpath, hkey, hsign, htime]
  | fixed objection => cases objection <;> rfl

/-- Requests under a rule get past only if the verifier has no objection. -/
theorem verify_of_advances {verifier : Sign.Verifier} {selector : Selector} {rule : Rule}
    (h : Advances moment ((Stages.sign verifier).toStage resolve) s x s₁ x₁)
    (hfound : resolve s "sign" (.ofRequest x.request) = .matched selector rule) :
    verifier.verify s.catalog moment.epochMs x.context = .ok () := by
  rcases advances_toStage h with ⟨hskip, -⟩ | ⟨-, hstep⟩
  · cases hskip
  · have hname : (Stages.sign verifier).name = "sign" := rfl
    rw [hname, hfound] at hstep
    obtain ⟨hv, -⟩ := hstep
    have hsame : (noted (.matched selector rule) x).context.identity = x.context.identity := rfl
    simp only [Stages.sign] at hv
    rw [verify_congr hsame] at hv
    split at hv
    · assumption
    · cases hv

/-! ### Substitution -/

/-- What the rule that was found makes of a path, if it makes anything of it. -/
def reshapedBy (found : Match.Resolution) (path : String) : Option String :=
  match found with
  | .matched _ rule =>
    match parseHandle Reshape.Substitution.decode .default rule.handle with
    | .ok substitution => (substitution.apply path).toOption.join
    | .error _ => none
  | _ => none

/-- The path that a request goes on with is the one from the rule, if the rule gives one. -/
theorem reshaped_of_advances (h : Advances moment (reshape.toStage resolve) s x s₁ x₁) :
    x₁.context.reshaped =
      (reshapedBy (resolve s "rewrite" (.ofRequest x.request)) x.context.realUrl).or
        x.context.reshaped := by
  rcases advances_toStage h with ⟨hskip, -⟩ | ⟨-, hstep⟩
  · cases hskip
  · have hname : reshape.name = "rewrite" := rfl
    rw [hname] at hstep
    cases hfound : resolve s "rewrite" (.ofRequest x.request) with
    | noSelector =>
        rw [hfound] at hstep
        obtain ⟨-, -, rfl⟩ := hstep
        rfl
    | noRule selector =>
        rw [hfound] at hstep
        obtain ⟨-, -, rfl⟩ := hstep
        rfl
    | matched selector rule =>
        rw [hfound] at hstep
        obtain ⟨hv, -, rfl⟩ := hstep
        have hurl : (noted (.matched selector rule) x).context.realUrl = x.context.realUrl := rfl
        simp only [reshape, reshapedBy, hurl] at hv ⊢
        cases hparse : parseHandle Reshape.Substitution.decode .default rule.handle with
        | error f =>
            rw [hparse] at hv
            cases hv
        | ok substitution =>
            rw [hparse] at hv
            simp only at hv ⊢
            cases happly : substitution.apply x.context.realUrl with
            | error f =>
                rw [happly] at hv
                cases hv
            | ok path => cases path <;> rfl

/-! ### The backend and the URL -/

/-- A plain request gets past only with a healthy backend of the selector it falls under. -/
theorem backend_of_advances {scatter : Gatehouse.Balance.Scatter}
    (h : Advances moment ((balance scatter).toStage resolve) s x s₁ x₁) :
    (x.context.rpc.isPlainHttp = false ∧ x₁ = x) ∨ ∃ selector rule b,
      resolve s "divide" (.ofRequest x.request) = .matched selector rule ∧
      b ∈ s.pool.candidates selector.id ∧
      x₁.context.backend = some b ∧ x₁.context.domain = some b.domain := by
  rcases advances_toStage h with ⟨hskip, -, rfl⟩ | ⟨-, hstep⟩
  · exact Or.inl ⟨by simpa [balance] using hskip, rfl⟩
  · have hname : (balance scatter).name = "divide" := rfl
    rw [hname] at hstep
    cases hfound : resolve s "divide" (.ofRequest x.request) with
    | noSelector =>
        rw [hfound] at hstep
        cases hstep.1
    | noRule selector =>
        rw [hfound] at hstep
        cases hstep.1
    | matched selector rule =>
        rw [hfound] at hstep
        obtain ⟨hv, -, rfl⟩ := hstep
        simp only [balance] at hv ⊢
        split at hv
        · cases hv
        · split at hv
          · cases hv
          · next b hchosen =>
              have hb := Gatehouse.Balance.Pool.mem_candidates_of_choose hchosen
              refine Or.inr ⟨selector, rule, b, rfl, hb, ?_⟩
              exact ⟨rfl, rfl⟩

/-- A URL was there before, or it is for a plain request and on its domain. -/
theorem target_of_advances (h : Advances moment Stages.target s x s₁ x₁) {url : String}
    (htarget : x₁.context.target = some url) :
    x.context.target = some url ∨ (x.context.rpc.isPlainHttp = true ∧
      ∃ domain, x.context.domain = some domain ∧ url = Target.url domain x) := by
  cases h with
  | skipped _ => exact Or.inl htarget
  | proceeded hskip _ =>
      have hplain : x.context.rpc.isPlainHttp = true := by simpa [Stages.target] using hskip
      simp only [Stages.target] at htarget
      cases hdomain : x.context.domain with
      | none =>
          rw [hdomain] at htarget
          exact Or.inl htarget
      | some domain =>
          rw [hdomain] at htarget
          exact Or.inr ⟨hplain, domain, rfl, (Option.some.inj htarget).symm⟩

/-! ### Attempts -/

/-- The attempts of a call are for its URL, with all headers of the request but one. -/
theorem sent_call {settings : HttpClientSettings} {url : String} {supply : Forward.Supply}
    {line : Call.Line} {a : Call.Sent}
    (h : a ∈ (Forward.call settings url x supply line).2.sent) :
    a ∈ line.sent ∨ (a.url = url ∧ a.headers = x.request.headers.without ["host"]) := by
  obtain ⟨last, -, hcall⟩ := Forward.call_eq settings url x supply line
  rw [hcall] at h
  rcases List.mem_append.1 h with hold | hnew
  · exact Or.inl hold
  · obtain ⟨n, -, rfl⟩ := List.mem_map.1 hnew
    exact Or.inr ⟨rfl, rfl⟩

/-- What is on the line was there before or is an attempt for this request. -/
theorem sent_forward {settings : HttpClientSettings} {a : Call.Sent}
    (h : a ∈ ((forward settings).run moment s x).state.line.sent) :
    a ∈ s.line.sent ∨
      (x.context.target = some a.url ∧ a.headers = x.request.headers.without ["host"]) := by
  simp only [forward] at h
  split at h
  · exact Or.inl h
  · next url htarget =>
      have hcall : a ∈ s.line.sent ∨
          ∃ supply, a ∈ (Forward.call settings url x supply s.line).2.sent := by
        split at h
        · exact Or.inl h
        · next supply _ => split at h <;> exact Or.inr ⟨supply, h⟩
      rcases hcall with hold | ⟨supply, hnew⟩
      · exact Or.inl hold
      · refine (sent_call hnew).imp id ?_
        rintro ⟨hurl, hheaders⟩
        exact ⟨by rw [hurl, htarget], hheaders⟩

end Gateway

end Gatehouse
