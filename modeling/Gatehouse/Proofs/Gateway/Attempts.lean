import Gatehouse.Proofs.Gateway.Changes
import Gatehouse.Proofs.Stages.Turns

/-!
# Attempts

What a gateway with none but the built-in stages (`Stock`) sends out for a request. All attempts
are made by one stage, and the request has come to it past the stages before it (`Way`):

    arrival ──before──▶ web_client ──after──▶ end

`exists_way_of_sent` finds that way for every attempt. On the way the configuration and the request
stay what they were, and a way can be taken apart at the turn of any stage that is behind
(`Way.exists_turn`): what the stage owns was untouched until its turn and is untouched since.

The first thing to learn from this is about headers. An attempt has all fields of the request but
`host`, so **headers that concern one connection only are sent on, exactly if the request has any**
(`sent_clean_iff`).
-/

namespace Gatehouse.Gateway

open Chain Stages

/-! ## Gateways with none but the built-in stages -/

/-- An action that registers no further stage. -/
def Action.KeepsStages : Action → Prop
  | .register _ => False
  | _ => True

/-- A gateway with none but the built-in stages, set up in one way: as it was built, and after
everything that has happened to it since. -/
inductive Stock (u : Setup) : Gateway → Prop
  | built {b : Blueprint} {g : Gateway} (h : build b = .ok g) (hregistry : b.registry.names = [])
      (hextra : b.extra = [])
      (hu : u = .ofSettings g.settings
        (b.verifier.getD (.credentials Sign.defaultMaxDelay))) : Stock u g
  | after {g : Gateway} {a : Action} (h : Stock u g) (ha : a.KeepsStages) : Stock u (g.step a)

theorem registered_configure (g : Gateway) (e : Feed.Event) :
    (g.configure e).lineup.registered = g.lineup.registered := by
  unfold configure
  simp only
  split <;> rfl

theorem registered_follow (g : Gateway) (cs : List Change) :
    (g.follow cs).lineup.registered = g.lineup.registered := by
  induction cs generalizing g with
  | nil => rfl
  | cons c cs ih =>
      have hstep : (g.step c.toAction).lineup.registered = g.lineup.registered := by
        cases c with
        | event e => exact registered_configure g e
        | report url healthy => rfl
      exact (ih _).trans hstep

/-- The registered stages are the built-in ones. -/
theorem Stock.registered {u : Setup} {g : Gateway} (h : Stock u g) :
    g.lineup.registered = u.stages := by
  induction h with
  | @built b g h hregistry hextra hu =>
      obtain ⟨providers, -, h⟩ := exists_of_bind h
      obtain ⟨settings, -, h⟩ := exists_of_bind h
      obtain ⟨made, hmade, h⟩ := exists_of_bind h
      obtain rfl := Except.ok.inj h
      have hnone : made = [] := by
        rw [hregistry] at hmade
        exact (Except.ok.inj hmade).symm
      rw [deliver_eq_follow, settings_follow] at hu
      rw [deliver_eq_follow, registered_follow, hu, hnone, hextra]
      simp
  | @after g a _ ha ih =>
      cases a with
      | configure e => exact (registered_configure g e).trans ih
      | report url healthy => exact ih
      | register st => exact ha.elim
      | handle moment r => exact ih

theorem Stock.follow {u : Setup} {g : Gateway} (h : Stock u g) (cs : List Change) :
    Stock u (g.follow cs) := by
  induction cs generalizing g with
  | nil => exact h
  | cons c cs ih =>
      have hstep : Stock u (g.step c.toAction) := h.after (by cases c <;> exact trivial)
      exact ih hstep

variable {u : Setup} {g : Gateway} {moment : Moment} {r : Http.Request}

/-- What is active was registered, and what was registered are the built-in stages. -/
theorem Stock.mem_stages (h : Stock u g) {st : Stage State} (hst : st ∈ g.lineup.active) :
    st ∈ u.stages := by
  rw [← h.registered]
  exact g.lineup.mem_registered_of_mem_active hst

theorem Stock.nodup_names (h : Stock u g) : g.lineup.names.Nodup := by
  apply Lineup.nodup_names
  rw [h.registered]
  exact nodup_names_stages u

/-- A gateway without settings. -/
def unset : Gateway := ((build .bare).toOption).get (by rfl)

/-- What a gateway without settings is set up with. -/
def unsetSetup : Setup := .ofSettings unset.settings (.credentials Sign.defaultMaxDelay)

theorem stock_unset (cs : List Change) : Stock unsetSetup (unset.follow cs) := by
  have hbuilt : Stock unsetSetup unset := .built (b := .bare) rfl rfl rfl rfl
  exact hbuilt.follow cs

/-! ## On the way -/

/-- The state in which a gateway receives a request. -/
def arrival (g : Gateway) : State := { g.state with line := g.state.line.renew }

/-- A request has come past the stages `before`, and the stages `after` are still to come. -/
structure Way (g : Gateway) (moment : Moment) (r : Http.Request)
    (before after : List (Stage State)) (s : State) (x : Exchange) : Prop where
  active : g.lineup.active = before ++ after
  passes : Passes moment before g.arrival (.ofRequest r) s x

/-- What a request is taken for: what classifying finds, if it was classified. -/
def identityAfter (g : Gateway) (r : Http.Request) (passed : List String) : Identity :=
  if "global" ∈ passed then identityOf g.state.catalog.services r
  else (Context.ofPath r.path).identity

namespace Way

variable {before after : List (Stage State)} {s : State} {x : Exchange}

/-- The stages that were passed and those to come are the active ones in order. -/
theorem names_eq (h : Way g moment r before after s x) :
    g.lineup.names = before.map Stage.name ++ after.map Stage.name := by
  unfold Lineup.names
  rw [h.active, List.map_append]

/-- No stage is both behind and ahead. -/
theorem not_mem_after (h : Way g moment r before after s x) (hg : Stock u g) {n : String}
    (hn : n ∈ before.map Stage.name) : n ∉ after.map Stage.name := by
  have hnodup := hg.nodup_names
  rw [h.names_eq] at hnodup
  exact fun hafter => (List.nodup_append.1 hnodup).2.2 n hn n hafter rfl

/-- The stages behind are those that precede the next one in the line-up. -/
theorem mem_before_iff {st : Stage State} (h : Way g moment r before (st :: after) s x)
    (hg : Stock u g) (n : String) :
    n ∈ before.map Stage.name ↔ Precedes g.lineup.names n st.name := by
  have hnodup := hg.nodup_names
  rw [h.names_eq, List.map_cons] at hnodup ⊢
  exact (precedes_iff hnodup).symm

theorem mem_stages (h : Way g moment r before after s x) (hg : Stock u g) {st : Stage State}
    (hst : st ∈ before ++ after) : st ∈ u.stages := by
  rw [← h.active] at hst
  exact hg.mem_stages hst

/-- Behind some stages everything is as it was on arrival but for what these stages touch. -/
theorem leaves_start (h : Way g moment r before after s x) (hg : Stock u g) :
    Leaves (before.map Stage.name) g.arrival (.ofRequest r) s x :=
  leaves_of_passes (fun _ hst => h.mem_stages hg (List.mem_append_left after hst)) h.passes

/-- What is still to come leaves alone what it does not touch. -/
theorem leaves_end (h : Way g moment r before after s x) (hg : Stock u g) :
    Leaves (after.map Stage.name) s x (g.handle moment r).state
      (g.handle moment r).exchange := by
  obtain ⟨hstate, hexchange⟩ := run_append_of_passes h.passes after
  rw [← h.active] at hstate hexchange
  show Leaves _ s x (run moment g.lineup.active g.arrival (.ofRequest r)).state
    (run moment g.lineup.active g.arrival (.ofRequest r)).exchange
  rw [hstate, hexchange]
  exact leaves_of_run (fun _ hst => h.mem_stages hg (List.mem_append_right before hst)) moment s x

/-- The request falls under what it fell under at first. -/
theorem resolve_eq (h : Way g moment r before after s x) (hg : Stock u g) (stage : String) :
    u.resolve s stage (.ofRequest x.request) = u.resolve g.state stage (.ofRequest r) := by
  rw [(h.leaves_start hg).request]
  unfold Setup.resolve
  rw [(h.leaves_start hg).catalog]
  rfl

/-- The candidates of a selector are those it had at first. -/
theorem candidates_eq (h : Way g moment r before after s x) (hg : Stock u g)
    (selector : String) : s.pool.candidates selector = g.state.pool.candidates selector :=
  Balance.Pool.candidates_congr (h.leaves_start hg).lists selector

/-- The next stage is not behind. -/
theorem next_not_mem {st : Stage State} (h : Way g moment r before (st :: after) s x)
    (hg : Stock u g) : st.name ∉ before.map Stage.name :=
  fun hmem => h.not_mem_after hg hmem List.mem_cons_self

/-- **The turn of a stage** that is behind. Since then there were only other stages, neither this
one nor those before it, and they have left alone what is not theirs. -/
theorem exists_turn (h : Way g moment r before after s x) (hg : Stock u g) {st : Stage State}
    (hst : st ∈ u.stages) (hmem : st.name ∈ before.map Stage.name) :
    ∃ left right s₁ x₁ s₂ x₂, Way g moment r left (st :: right) s₁ x₁ ∧
      (∀ n ∈ left.map Stage.name, n ∈ before.map Stage.name) ∧ Advances moment st s₁ x₁ s₂ x₂ ∧
      ∃ others, Leaves others s₂ x₂ s x ∧ st.name ∉ others ∧
        ∀ n ∈ left.map Stage.name, n ∉ others := by
  obtain ⟨st', hst', hname⟩ := List.mem_map.1 hmem
  have hbefore : ∀ st ∈ before, st ∈ u.stages :=
    fun _ hst => h.mem_stages hg (List.mem_append_left after hst)
  obtain rfl : st' = st := eq_of_name (hbefore st' hst') hst hname
  obtain ⟨left, right, s₁, x₁, s₂, x₂, rfl, hleft, hturn, hright⟩ := h.passes.exists_turn hst'
  have hway : Way g moment r left (st' :: (right ++ after)) s₁ x₁ :=
    ⟨by rw [h.active, List.append_assoc, List.cons_append], hleft⟩
  have hnodup := hg.nodup_names
  rw [hway.names_eq, List.map_cons, List.map_append] at hnodup
  obtain ⟨-, hahead, hapart⟩ := List.nodup_append.1 hnodup
  refine ⟨left, right ++ after, s₁, x₁, s₂, x₂, hway, ?_, hturn, right.map Stage.name, ?_, ?_, ?_⟩
  · intro n hn
    rw [List.map_append]
    exact List.mem_append_left _ hn
  · exact leaves_of_passes (fun st hst => hbefore st (by simp [hst])) hright
  · intro hmem
    exact (List.nodup_cons.1 hahead).1 (List.mem_append_left _ hmem)
  · intro n hn hmem
    exact hapart n hn n (List.mem_cons_of_mem _ (List.mem_append_left _ hmem)) rfl

/-- What a request is taken for follows from whether it was classified. -/
theorem identity_eq (h : Way g moment r before after s x) (hg : Stock u g) :
    x.context.identity = identityAfter g r (before.map Stage.name) := by
  by_cases hmem : "global" ∈ before.map Stage.name
  · have hclassify : classify ∈ u.stages := by simp [Setup.stages]
    obtain ⟨left, right, s₁, x₁, s₂, x₂, hway, -, hturn, others, hleaves, hother, -⟩ :=
      h.exists_turn hg hclassify hmem
    rw [identityAfter, if_pos hmem, hleaves.identity hother]
    cases hturn with
    | skipped hskip => cases hskip
    | proceeded _ _ =>
        rw [identity_classify, (hway.leaves_start hg).catalog, (hway.leaves_start hg).request]
        rfl
  · rw [identityAfter, if_neg hmem]
    exact (h.leaves_start hg).identity hmem

/-- The kind of a request is known as soon as it has been classified, and not before. -/
theorem rpc_eq (h : Way g moment r before after s x) (hg : Stock u g) :
    x.context.rpc = (identityAfter g r (before.map Stage.name)).rpc :=
  congrArg Identity.rpc (h.identity_eq hg)

end Way

/-! ## Attempts -/

/-- **Every attempt** is made by the one stage that makes calls, for a request that came to it as a
plain one, and for the URL that was put together on the way there. -/
theorem exists_way_of_sent (h : Stock u g) {a : Call.Sent}
    (ha : a ∈ (g.handle moment r).state.line.sent) :
    ∃ before after s x, Way g moment r before (forward u.client :: after) s x ∧
      x.context.rpc.isPlainHttp = true ∧ x.context.target = some a.url ∧
      a.headers = x.request.headers.without ["host"] := by
  have hnew : ¬ a ∈ g.arrival.line.sent := List.not_mem_nil
  obtain ⟨before, st, after, s, x, hactive, hpasses, hskip, hbefore, hafter⟩ :=
    exists_passes_of_run (P := fun (s : State) _ => a ∈ s.line.sent) hnew ha
  have hst : st ∈ u.stages := h.mem_stages (by rw [hactive]; simp)
  have hname : st.name = "web_client" := by
    apply Classical.byContradiction
    intro hne
    have hline := (leaves_of_mem hst moment s x).line
      fun hmem => hne (List.mem_singleton.1 hmem).symm
    rw [hline] at hafter
    exact hbefore hafter
  obtain rfl : st = forward u.client := eq_of_name hst (by simp [Setup.stages]) hname
  have hplain : x.context.rpc.isPlainHttp = true := by simpa [forward] using hskip
  obtain ⟨htarget, hheaders⟩ := (sent_forward hafter).resolve_left hbefore
  exact ⟨before, after, s, x, ⟨hactive, hpasses⟩, hplain, htarget, hheaders⟩

/-! ## Headers -/

/-- An attempt has all fields of the request but one. -/
theorem headers_of_sent (h : Stock u g) {a : Call.Sent}
    (ha : a ∈ (g.handle moment r).state.line.sent) :
    a.headers = r.headers.without ["host"] := by
  obtain ⟨before, after, s, x, hway, -, -, hheaders⟩ := exists_way_of_sent h ha
  rw [hheaders, (hway.leaves_start h).request]
  rfl

/-- **Headers that concern one connection only** do not go out, exactly if no attempt is made or
the request has none of them. -/
theorem sent_clean_iff (h : Stock u g) (moment : Moment) (r : Http.Request) :
    (∀ a ∈ (g.handle moment r).state.line.sent, ∀ f ∈ a.headers.fields,
        f.1 ∉ Answer.hopByHop) ↔
      (g.handle moment r).state.line.sent = [] ∨ ∀ f ∈ r.headers.fields, f.1 ∉ Answer.hopByHop := by
  -- `host` is none of them, so nothing of interest is taken out
  have hhost : ∀ n ∈ Answer.hopByHop, n ∉ ["host"] := by decide
  constructor
  · intro hclean
    by_cases hsent : (g.handle moment r).state.line.sent = []
    · exact Or.inl hsent
    · refine Or.inr fun f hf hhop => ?_
      obtain ⟨a, ha⟩ := List.exists_mem_of_ne_nil _ hsent
      refine hclean a ha f ?_ hhop
      rw [headers_of_sent h ha]
      exact Http.Headers.mem_without.2 ⟨hf, hhost f.1 hhop⟩
  · rintro (hnone | hrequest) a ha f hf
    · rw [hnone] at ha
      cases ha
    · rw [headers_of_sent h ha] at hf
      exact hrequest f (Http.Headers.mem_without.1 hf).1

/-- All requests are passed on to one backend. -/
def routed : List Change :=
  [.event (.put .selector (.obj [("enabled", .bool true), ("handle", .arr [.obj [("url", .str "a")]]),
      ("id", .str "s"), ("pluginName", .str "divide"), ("type", .str "full_flow")])),
    .event (.put .rule (.obj [("enabled", .bool true), ("id", .str "r"), ("selectorId", .str "s")]))]

/-- A request whose connection is to be closed. -/
def closing : Http.Request :=
  { Http.Request.ofTarget "GET" "/" with headers := .ofList [("connection", "close")] }

/-- The one attempt that is made carries the header on. -/
theorem headers_sent_closing :
    ((unset.follow routed).handle ⟨0, 0, 0⟩ closing).state.line.sent.map
      (fun a => a.headers.fields) = [[("connection", "close")]] := by
  rw [handle, Lineup.active_eq_filter _ (by decide +kernel)]
  decide +kernel

theorem sent_clean_iff_closing : Stock unsetSetup (unset.follow routed) ∧
    ¬ ∀ a ∈ ((unset.follow routed).handle ⟨0, 0, 0⟩ closing).state.line.sent,
      ∀ f ∈ a.headers.fields, f.1 ∉ Answer.hopByHop := by
  refine ⟨stock_unset routed, fun hclean => ?_⟩
  rcases (sent_clean_iff (stock_unset routed) ⟨0, 0, 0⟩ closing).1 hclean with hnone | hrequest
  · have hsent := headers_sent_closing
    rw [hnone] at hsent
    cases hsent
  · exact hrequest ("connection", "close") (by decide +kernel) (by decide)

/-- The gateway asks its backend to close the connection because the client asked it to. -/
theorem not_sent_clean :
    ¬ ∀ (u : Setup) (g : Gateway) (moment : Moment) (r : Http.Request), Stock u g →
      ∀ a ∈ (g.handle moment r).state.line.sent, ∀ f ∈ a.headers.fields,
        f.1 ∉ Answer.hopByHop := by
  intro hall
  have hmem : [("connection", "close")] ∈
      ((unset.follow routed).handle ⟨0, 0, 0⟩ closing).state.line.sent.map
        (fun a => a.headers.fields) := by
    rw [headers_sent_closing]
    exact List.mem_singleton_self _
  obtain ⟨a, ha, hfields⟩ := List.mem_map.1 hmem
  refine hall unsetSetup _ _ _ (stock_unset routed) a ha ("connection", "close") ?_ (by decide)
  rw [hfields]
  exact List.mem_singleton_self _

end Gatehouse.Gateway
