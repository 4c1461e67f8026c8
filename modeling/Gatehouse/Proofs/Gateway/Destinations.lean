import Gatehouse.Proofs.Gateway.Attempts

/-!
# Destinations

Where an attempt goes. Three stages put the URL together, each in its turn: one chooses the backend,
one may reshape the path, and one joins the domain of the backend, the path and the query.

    URL  =  domain of the backend  ++  what is asked of it

`url_of_sent` reads every attempt back in this way, and two things follow.

* **Attempts go only to backends that the request may get** (`sent_to_offered`). Whether a request
  is a plain one is known only where it has been classified.
* **Attempts stay on the host of the backend, exactly if** no substitution makes something of the
  path that would go on with the name of the host (`stays_on_host_iff`).
-/

namespace Gatehouse.Gateway

open Chain Stages

variable {u : Setup} {g : Gateway} {moment : Moment} {r : Http.Request}
  {before after : List (Stage State)} {s : State} {x : Exchange}

/-! ## The backend -/

/-- A request may get a backend if it falls under a rule and the backend is a healthy one of the
selector. -/
def Offers (u : Setup) (g : Gateway) (r : Http.Request) (b : Backend) : Prop :=
  ∃ selector rule, u.resolve g.state "divide" (.ofRequest r) = .matched selector rule ∧
    b ∈ g.state.pool.of selector.id ∧ b.healthy = true

/-- A domain on the way is that of the backend that was chosen. -/
theorem Way.offers_of_domain (h : Way g moment r before after s x) (hg : Stock u g)
    {domain : String} (hdomain : x.context.domain = some domain) :
    "divide" ∈ before.map Stage.name ∧
      ∃ b, Offers u g r b ∧ x.context.backend = some b ∧ b.domain = domain := by
  have hmem : "divide" ∈ before.map Stage.name := by
    apply Classical.byContradiction
    intro hno
    rw [(h.leaves_start hg).domain hno] at hdomain
    cases hdomain
  have hst : (Stages.balance u.scatter).toStage u.resolve ∈ u.stages := by simp [Setup.stages]
  obtain ⟨left, right, s₁, x₁, s₂, x₂, hway, -, hturn, others, hleaves, hother, -⟩ :=
    h.exists_turn hg hst hmem
  rw [hleaves.domain hother] at hdomain
  rw [hleaves.backend hother]
  refine ⟨hmem, ?_⟩
  rcases backend_of_advances hturn with ⟨-, rfl⟩ | ⟨selector, rule, b, hfound, hb, hbackend, hd⟩
  · -- nothing was chosen in the turn, and before it there was no domain
    rw [(hway.leaves_start hg).domain (hway.next_not_mem hg)] at hdomain
    cases hdomain
  · rw [hway.resolve_eq hg] at hfound
    rw [hway.candidates_eq hg] at hb
    obtain ⟨hof, hhealthy⟩ := Balance.Pool.mem_candidates_iff.1 hb
    rw [hd] at hdomain
    exact ⟨b, ⟨selector, rule, hfound, hof, hhealthy⟩, hbackend, Option.some.inj hdomain⟩

/-! ## The path -/

/-- A request that is a plain one later on asks for its own path already, whether or not it has
been classified yet. -/
theorem Way.realUrl_eq (h : Way g moment r before after s x) (hg : Stock u g)
    {later : List String} (hsub : ∀ n ∈ before.map Stage.name, n ∈ later)
    (hplain : (identityAfter g r later).rpc.isPlainHttp = true) :
    x.context.realUrl = r.path := by
  have hurl : x.context.realUrl = (identityAfter g r (before.map Stage.name)).realUrl :=
    congrArg Identity.realUrl (h.identity_eq hg)
  rw [hurl]
  by_cases hmem : "global" ∈ before.map Stage.name
  · rw [identityAfter, if_pos (hsub _ hmem)] at hplain
    rw [identityAfter, if_pos hmem]
    exact realUrl_identityOf hplain
  · rw [identityAfter, if_neg hmem]
    rfl

/-- The path of a plain request is reshaped by the rule it falls under. -/
theorem Way.reshaped_eq (h : Way g moment r before after s x) (hg : Stock u g)
    (hplain : (identityAfter g r (before.map Stage.name)).rpc.isPlainHttp = true) :
    x.context.reshaped =
      if "rewrite" ∈ before.map Stage.name then
        reshapedBy (u.resolve g.state "rewrite" (.ofRequest r)) r.path
      else none := by
  by_cases hmem : "rewrite" ∈ before.map Stage.name
  · have hst : reshape.toStage u.resolve ∈ u.stages := by simp [Setup.stages]
    obtain ⟨left, right, s₁, x₁, s₂, x₂, hway, hsub, hturn, others, hleaves, hother, -⟩ :=
      h.exists_turn hg hst hmem
    rw [if_pos hmem, hleaves.reshaped hother, reshaped_of_advances hturn, hway.resolve_eq hg,
      hway.realUrl_eq hg hsub hplain, (hway.leaves_start hg).reshaped (hway.next_not_mem hg)]
    exact Option.or_none
  · rw [if_neg hmem]
    exact (h.leaves_start hg).reshaped hmem

/-! ## The URL -/

/-- What the substitution for a request makes of its path, if it comes before the URL is put
together. Something blank does not count. -/
def reshaping (u : Setup) (g : Gateway) (r : Http.Request) : Option String :=
  if Precedes g.lineup.names "rewrite" "uri" then
    (reshapedBy (u.resolve g.state "rewrite" (.ofRequest r)) r.path).filter
      fun path => !Text.isBlankText path
  else none

/-- What a backend is asked for. -/
def asked (u : Setup) (g : Gateway) (r : Http.Request) : String :=
  (reshaping u g r).getD r.path ++ Target.queryPart r.query

/-- A URL on the way is on the domain of the backend that was chosen. -/
theorem Way.offers_of_target (h : Way g moment r before after s x) (hg : Stock u g) {url : String}
    (htarget : x.context.target = some url) :
    "divide" ∈ before.map Stage.name ∧
      ∃ b, Offers u g r b ∧ x.context.backend = some b ∧
        url = Text.dropTrailing '/' b.domain ++ asked u g r := by
  -- nothing else sets the URL
  have hmem : "uri" ∈ before.map Stage.name := by
    apply Classical.byContradiction
    intro hno
    rw [(h.leaves_start hg).target hno] at htarget
    cases htarget
  have hst : Stages.target ∈ u.stages := by simp [Setup.stages]
  obtain ⟨left, right, s₁, x₁, s₂, x₂, hway, hsub, hturn, others, hleaves, hother, hothers⟩ :=
    h.exists_turn hg hst hmem
  rw [hleaves.target hother] at htarget
  rcases target_of_advances hturn htarget with hold | ⟨hplain, domain, hdomain, hurl⟩
  · rw [(hway.leaves_start hg).target (hway.next_not_mem hg)] at hold
    cases hold
  obtain ⟨hdivide, b, hb, hbackend, rfl⟩ := hway.offers_of_domain hg hdomain
  refine ⟨hsub _ hdivide, b, hb, ?_, ?_⟩
  · -- the backend was chosen before the turn, and not once more since
    rw [hleaves.backend (hothers "divide" hdivide),
      (leaves_of_advances hst hturn).backend (by simp [Stages.target])]
    exact hbackend
  · have hpath : Target.path x₁.context = (reshaping u g r).getD r.path := by
      have hiff : "rewrite" ∈ left.map Stage.name ↔ Precedes g.lineup.names "rewrite" "uri" :=
        hway.mem_before_iff hg "rewrite"
      rw [hway.rpc_eq hg] at hplain
      rw [Target.path, hway.realUrl_eq hg (fun _ hn => hn) hplain, hway.reshaped_eq hg hplain,
        reshaping]
      simp only [hiff]
      split <;> rfl
    rw [hurl, Target.url, hpath, (hway.leaves_start hg).request, asked, String.append_assoc]
    rfl

/-- **The URL of every attempt** is the domain of the backend that was chosen, followed by what is
asked of it. -/
theorem url_of_sent (h : Stock u g) {a : Call.Sent}
    (ha : a ∈ (g.handle moment r).state.line.sent) :
    ∃ b, Offers u g r b ∧ (g.handle moment r).exchange.context.backend = some b ∧
      a.url = Text.dropTrailing '/' b.domain ++ asked u g r := by
  obtain ⟨before, after, s, x, hway, -, htarget, -⟩ := exists_way_of_sent h ha
  obtain ⟨hdivide, b, hb, hbackend, hurl⟩ := hway.offers_of_target h htarget
  refine ⟨b, hb, ?_, hurl⟩
  rw [(hway.leaves_end h).backend (hway.not_mem_after h hdivide), hbackend]

/-- Attempts are made for plain requests, as far as requests are classified before. -/
theorem plain_of_sent (h : Stock u g) (hclassified : Precedes g.lineup.names "global" "web_client")
    {a : Call.Sent} (ha : a ∈ (g.handle moment r).state.line.sent) :
    (Classify.kindOf g.state.catalog.services r).1 = .http := by
  obtain ⟨before, after, s, x, hway, hplain, -, -⟩ := exists_way_of_sent h ha
  have hmem : "global" ∈ before.map Stage.name := (hway.mem_before_iff h "global").2 hclassified
  rw [hway.rpc_eq h, identityAfter, if_pos hmem, rpc_identityOf] at hplain
  simpa [Rpc.isPlainHttp] using hplain

/-! ## No attempt without a backend -/

/-- **Attempts go only to backends that the request may get**, so none is made where it falls under
no rule, where no backend is healthy, or where backends are not chosen at all. None is made for a
request that is not plain HTTP, if requests are classified before. -/
theorem sent_to_offered (h : Stock u g) (moment : Moment) (r : Http.Request) :
    (∀ a ∈ (g.handle moment r).state.line.sent, ∃ b rest, Offers u g r b ∧
      a.url = Text.dropTrailing '/' b.domain ++ rest) ∧
    ((∀ selector rule, u.resolve g.state "divide" (.ofRequest r) ≠ .matched selector rule) →
      (g.handle moment r).state.line.sent = []) ∧
    (∀ selector rule, u.resolve g.state "divide" (.ofRequest r) = .matched selector rule →
      (∀ b ∈ g.state.pool.of selector.id, b.healthy = false) →
      (g.handle moment r).state.line.sent = []) ∧
    ("divide" ∉ g.lineup.names → (g.handle moment r).state.line.sent = []) ∧
    (Precedes g.lineup.names "global" "web_client" →
      (Classify.kindOf g.state.catalog.services r).1 ≠ .http →
      (g.handle moment r).state.line.sent = []) := by
  refine ⟨?_, ?_, ?_, ?_, ?_⟩
  · intro a ha
    obtain ⟨b, hb, -, hurl⟩ := url_of_sent h ha
    exact ⟨b, asked u g r, hb, hurl⟩
  · intro hnone
    apply List.eq_nil_iff_forall_not_mem.2
    intro a ha
    obtain ⟨b, ⟨selector, rule, hfound, -⟩, -⟩ := url_of_sent h ha
    exact hnone selector rule hfound
  · intro selector rule hfound hsick
    apply List.eq_nil_iff_forall_not_mem.2
    intro a ha
    obtain ⟨b, ⟨selector', rule', hfound', hb, hhealthy⟩, -⟩ := url_of_sent h ha
    obtain ⟨rfl, -⟩ := Match.Resolution.matched.inj (hfound.symm.trans hfound')
    rw [hsick b hb] at hhealthy
    cases hhealthy
  · intro hno
    apply List.eq_nil_iff_forall_not_mem.2
    intro a ha
    obtain ⟨before, after, s, x, hway, -, htarget, -⟩ := exists_way_of_sent h ha
    obtain ⟨hdivide, -⟩ := hway.offers_of_target h htarget
    apply hno
    rw [hway.names_eq]
    exact List.mem_append_left _ hdivide
  · intro hclassified hkind
    apply List.eq_nil_iff_forall_not_mem.2
    intro a ha
    exact hkind (plain_of_sent h hclassified ha)

theorem sent_to_offered_closing : Stock unsetSetup (unset.follow routed) ∧
    ((unset.follow routed).handle ⟨0, 0, 0⟩ closing).state.line.sent ≠ [] ∧
    ∀ a ∈ ((unset.follow routed).handle ⟨0, 0, 0⟩ closing).state.line.sent,
      ∃ b rest, Offers unsetSetup (unset.follow routed) closing b ∧
        a.url = Text.dropTrailing '/' b.domain ++ rest := by
  refine ⟨stock_unset routed, ?_, (sent_to_offered (stock_unset routed) ⟨0, 0, 0⟩ closing).1⟩
  intro hnone
  have hsent := headers_sent_closing
  rw [hnone] at hsent
  cases hsent

/-- All requests are passed on to one backend, and none is classified. -/
def unclassified : List Change :=
  routed ++ [.event (.put .plugin (.obj [("enabled", .bool false), ("name", .str "global")]))]

/-- A request that is not plain HTTP. -/
def remote : Http.Request :=
  { Http.Request.ofTarget "GET" "/" with headers := .ofList [("rpc_type", "dubbo")] }

/-- Without being classified, a request is passed on even if it is not plain HTTP. -/
theorem not_plain_of_sent :
    ¬ ∀ (u : Setup) (g : Gateway) (moment : Moment) (r : Http.Request), Stock u g →
      (Classify.kindOf g.state.catalog.services r).1 ≠ .http →
      (g.handle moment r).state.line.sent = [] := by
  intro hall
  have hurls : ((unset.follow unclassified).handle ⟨0, 0, 0⟩ remote).state.line.sent.map
      (fun a => a.url) = ["http://a/"] := by
    rw [handle, Lineup.active_eq_filter _ (by decide +kernel)]
    decide +kernel
  have hnone := hall unsetSetup _ ⟨0, 0, 0⟩ remote (stock_unset unclassified) (by decide +kernel)
  rw [hnone] at hurls
  cases hurls

/-! ## The host -/

/-- A text that may follow the name of a host without being read as part of it. -/
def EndsHost (rest : String) : Prop := ∀ c ∈ rest.toList.head?, c = '/' ∨ c = '?'

/-- What follows a text that is not empty does not matter. -/
theorem endsHost_append_iff {text : String} (h : text.toList ≠ []) (rest : String) :
    EndsHost (text ++ rest) ↔ EndsHost text := by
  unfold EndsHost
  rw [String.toList_append]
  cases htext : text.toList with
  | nil => exact absurd htext h
  | cons c cs => exact Iff.rfl

/-- What is asked for ends the name of the host, if what a substitution makes of the path does. -/
theorem endsHost_asked_iff (hpath : r.path.toList.head? = some '/') :
    EndsHost (asked u g r) ↔ ∀ path, reshaping u g r = some path → EndsHost path := by
  unfold asked
  cases hreshaping : reshaping u g r with
  | none =>
      have hslash : EndsHost r.path := by
        intro c hc
        rw [hpath] at hc
        exact Or.inl (Option.some.inj hc).symm
      have hne : r.path.toList ≠ [] := by
        intro hnil
        rw [hnil] at hpath
        cases hpath
      rw [Option.getD_none, endsHost_append_iff hne]
      constructor
      · intro _ path hsome
        cases hsome
      · exact fun _ => hslash
  | some path =>
      have hne : path.toList ≠ [] := by
        -- an empty path would have been a blank one
        intro hnil
        unfold reshaping at hreshaping
        split at hreshaping
        · obtain ⟨-, hblank⟩ := Option.filter_eq_some_iff.1 hreshaping
          simp [Text.isBlankText, hnil] at hblank
        · cases hreshaping
      rw [Option.getD_some, endsHost_append_iff hne]
      constructor
      · intro hends path' hsome
        cases hsome
        exact hends
      · exact fun hall => hall path rfl

/-- **Attempts stay on the host of the backend**, exactly if there are none or no substitution makes
something of the path that goes on with the name of the host. -/
theorem stays_on_host_iff (h : Stock u g) (moment : Moment)
    (hpath : r.path.toList.head? = some '/') :
    (∀ a ∈ (g.handle moment r).state.line.sent, ∃ b rest,
      (g.handle moment r).exchange.context.backend = some b ∧
      a.url = Text.dropTrailing '/' b.domain ++ rest ∧ EndsHost rest) ↔
    (g.handle moment r).state.line.sent = [] ∨
      ∀ path, reshaping u g r = some path → EndsHost path := by
  rw [← endsHost_asked_iff hpath]
  constructor
  · intro hall
    by_cases hsent : (g.handle moment r).state.line.sent = []
    · exact Or.inl hsent
    · obtain ⟨a, ha⟩ := List.exists_mem_of_ne_nil _ hsent
      obtain ⟨b, -, hbackend, hurl⟩ := url_of_sent h ha
      obtain ⟨b', rest, hbackend', hurl', hends⟩ := hall a ha
      obtain rfl : b = b' := Option.some.inj (hbackend.symm.trans hbackend')
      have hrest : asked u g r = rest := by
        have hlists := congrArg String.toList (hurl.symm.trans hurl')
        rw [String.toList_append, String.toList_append] at hlists
        exact String.toList_inj.1 (List.append_cancel_left hlists)
      rw [hrest]
      exact Or.inr hends
  · rintro (hnone | hends) a ha
    · rw [hnone] at ha
      cases ha
    · obtain ⟨b, -, hbackend, hurl⟩ := url_of_sent h ha
      exact ⟨b, asked u g r, hbackend, hurl, hends⟩

/-- All requests are passed on to one backend, without the first part of their path. -/
def shortened : List Change :=
  routed ++
    [.event (.put .selector (.obj [("enabled", .bool true), ("id", .str "p"),
      ("pluginName", .str "rewrite"), ("type", .str "full_flow")])),
    .event (.put .rule (.obj [("enabled", .bool true),
      ("handle", .obj [("regex", .str "^/api"), ("replace", .str "")]), ("id", .str "q"),
      ("selectorId", .str "p")]))]

/-- A request for a path that goes on with another host. -/
def steering : Http.Request := Http.Request.ofTarget "GET" "/api@b/x"

/-- The rewritten path has made the address of the backend a user and the rest a host. -/
theorem urls_sent_steering :
    ((unset.follow shortened).handle ⟨0, 0, 0⟩ steering).state.line.sent.map
      (fun a => a.url) = ["http://a@b/x"] := by
  rw [handle, Lineup.active_eq_filter _ (by decide +kernel)]
  decide +kernel

theorem reshaping_steering :
    reshaping unsetSetup (unset.follow shortened) steering = some "@b/x" := by
  have hprecedes : Precedes (unset.follow shortened).lineup.names "rewrite" "uri" := by
    rw [Lineup.names, Lineup.active_eq_filter _ (by decide +kernel)]
    decide +kernel
  rw [reshaping, if_pos hprecedes]
  decide +kernel

theorem stays_on_host_iff_steering : Stock unsetSetup (unset.follow shortened) ∧
    steering.path.toList.head? = some '/' ∧
    ¬ ∀ a ∈ ((unset.follow shortened).handle ⟨0, 0, 0⟩ steering).state.line.sent, ∃ b rest,
      ((unset.follow shortened).handle ⟨0, 0, 0⟩ steering).exchange.context.backend = some b ∧
      a.url = Text.dropTrailing '/' b.domain ++ rest ∧ EndsHost rest := by
  have hpath : steering.path.toList.head? = some '/' := by decide +kernel
  refine ⟨stock_unset shortened, hpath, fun hall => ?_⟩
  rcases (stays_on_host_iff (stock_unset shortened) ⟨0, 0, 0⟩ hpath).1 hall with hnone | hends
  · have hurls := urls_sent_steering
    rw [hnone] at hurls
    cases hurls
  · have hat := hends "@b/x" reshaping_steering '@' (by decide +kernel)
    exact absurd hat (by decide)

/-- The gateway asks another host than that of the backend. -/
theorem not_stays_on_host :
    ¬ ∀ (u : Setup) (g : Gateway) (moment : Moment) (r : Http.Request), Stock u g →
      r.path.toList.head? = some '/' →
      ∀ a ∈ (g.handle moment r).state.line.sent, ∃ b rest,
        (g.handle moment r).exchange.context.backend = some b ∧
        a.url = Text.dropTrailing '/' b.domain ++ rest ∧ EndsHost rest := by
  intro hall
  have hmem : "http://a@b/x" ∈
      ((unset.follow shortened).handle ⟨0, 0, 0⟩ steering).state.line.sent.map
        (fun a => a.url) := by
    rw [urls_sent_steering]
    exact List.mem_singleton_self _
  obtain ⟨a, ha, hurl⟩ := List.mem_map.1 hmem
  obtain ⟨b, rest, hbackend, hsplit, hends⟩ := hall unsetSetup _ ⟨0, 0, 0⟩ steering
    (stock_unset shortened) (by decide +kernel) a ha
  have hdomain : Text.dropTrailing '/' b.domain = "http://a" := by
    have hchosen : ((unset.follow shortened).handle ⟨0, 0, 0⟩ steering).exchange.context.backend.map
        (fun b => Text.dropTrailing '/' b.domain) = some "http://a" := by
      rw [handle, Lineup.active_eq_filter _ (by decide +kernel)]
      decide +kernel
    rw [hbackend] at hchosen
    exact Option.some.inj hchosen
  have hrest : rest.toList = ['@', 'b', '/', 'x'] := by
    rw [hurl, hdomain] at hsplit
    have hlists : "http://a".toList ++ ['@', 'b', '/', 'x'] = "http://a".toList ++ rest.toList := by
      rw [← String.toList_append, ← hsplit]
      rfl
    exact (List.append_cancel_left hlists).symm
  have hat := hends '@' (by rw [hrest]; rfl)
  exact absurd hat (by decide)

end Gatehouse.Gateway
