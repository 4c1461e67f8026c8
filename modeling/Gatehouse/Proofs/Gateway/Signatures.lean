import Gatehouse.Proofs.Gateway.Attempts

/-!
# Signatures

What a request has to bring where signatures are asked for. `Admitted` says it in full, and the
verifier of credentials agrees to nothing else (`verify_iff`). With it, and with the way that every
attempt has come, **no request under a rule for signatures reaches a backend without being
admitted** (`admitted_of_sent`), whatever other stages do before or after the verifier.

A request brings its key, its signature and its time only once it has been classified. If that is
yet to happen when the verifier looks, the request is refused.
-/

namespace Gatehouse

namespace Stages.Sign

/-! ## What a request has to bring -/

/-- A request brings a key, a signature and a time that are good. -/
structure Admitted (credentials : Table Credential) (maxDelay now : Nat) (c : Context) : Prop where
  /-- The key is registered and enabled, and it may be restricted to some paths. -/
  key : ∃ key a, c.appKey = some key ∧ Text.isBlankText key = false ∧
    credentials.get? key = some a ∧ a.enabled = true ∧
    (a.restricted = true →
      ∃ p ∈ a.paths, (Match.Operator.compile "match" p).isMatch c.path = true)
  signature : ∃ text, c.sign = some text ∧ Text.isBlankText text = false
  /-- The time is near the present one, earlier or later. -/
  timestamp : ∃ text sent, c.timestamp = some text ∧ Text.isBlankText text = false ∧
    Text.plusDecimal? 0xFFFFFFFFFFFFFFFF (Text.trim text.toList) = some sent ∧
    now ≤ sent + maxDelay ∧ sent ≤ now + maxDelay

theorem present?_eq_some_iff {text : Option String} {t : String} :
    present? text = some t ↔ text = some t ∧ Text.isBlankText t = false := by
  unfold present?
  rw [Option.filter_eq_some_iff, Bool.not_eq_true']

/-- Two times are near each other exactly if neither is too far ahead. -/
theorem distance_le_iff {a b limit : Nat} :
    ¬ limit < distance a b ↔ a ≤ b + limit ∧ b ≤ a + limit := by
  unfold distance
  omega

/-- Credentials that are not restricted allow any path. -/
theorem allows_iff {a : Credential} {path : String} :
    allows a path = true ↔ (a.restricted = true →
      ∃ p ∈ a.paths, (Match.Operator.compile "match" p).isMatch path = true) := by
  unfold allows
  rw [Bool.or_eq_true, Bool.not_eq_true', List.any_eq_true]
  cases a.restricted with
  | false => simp
  | true => simp

/-- A check goes well only step by step. -/
theorem check_eq_ok {credentials : Table Credential} {maxDelay now : Nat} {c : Context}
    (h : check credentials maxDelay now c = .ok ()) :
    ∃ key text timestamp sent a, present? c.appKey = some key ∧ present? c.sign = some text ∧
      present? c.timestamp = some timestamp ∧ time? timestamp = some sent ∧
      ¬ maxDelay < distance now sent ∧
      (credentials.get? key).filter Credential.enabled = some a ∧ allows a c.path = true := by
  unfold check at h
  split at h
  · next key text timestamp hkey hsign htimestamp =>
      split at h
      · cases h
      · next sent hsent =>
          split at h
          · cases h
          · next hnear =>
              split at h
              · cases h
              · next a ha =>
                  split at h
                  · next hallows =>
                      exact ⟨key, text, timestamp, sent, a, hkey, hsign, htimestamp, hsent, hnear,
                        ha, hallows⟩
                  · cases h
  · cases h

/-- **The verifier of credentials** has no objection exactly to what is admitted. -/
theorem verify_iff {maxDelay now : Nat} {catalog : Catalog} {c : Context} :
    (Verifier.credentials maxDelay).verify catalog now c = .ok () ↔
      Admitted catalog.credentials maxDelay now c := by
  show check catalog.credentials maxDelay now c = .ok () ↔ _
  constructor
  · intro h
    obtain ⟨key, text, timestamp, sent, a, hkey, hsign, htimestamp, hsent, hnear, ha, hallows⟩ :=
      check_eq_ok h
    obtain ⟨hkey, hkeyBlank⟩ := present?_eq_some_iff.1 hkey
    obtain ⟨htimestamp, htimeBlank⟩ := present?_eq_some_iff.1 htimestamp
    obtain ⟨hregistered, henabled⟩ := Option.filter_eq_some_iff.1 ha
    exact {
      key := ⟨key, a, hkey, hkeyBlank, hregistered, henabled, allows_iff.1 hallows⟩
      signature := ⟨text, present?_eq_some_iff.1 hsign⟩
      timestamp := ⟨timestamp, sent, htimestamp, htimeBlank, hsent, distance_le_iff.1 hnear⟩ }
  · rintro ⟨⟨key, a, hkey, hkeyBlank, hregistered, henabled, hpaths⟩, ⟨text, hsign⟩,
      ⟨timestamp, sent, htimestamp, htimeBlank, hsent, hnear⟩⟩
    have hkey : present? c.appKey = some key := present?_eq_some_iff.2 ⟨hkey, hkeyBlank⟩
    have hsign : present? c.sign = some text := present?_eq_some_iff.2 hsign
    have htimestamp : present? c.timestamp = some timestamp :=
      present?_eq_some_iff.2 ⟨htimestamp, htimeBlank⟩
    have hsent : time? timestamp = some sent := hsent
    have ha : (catalog.credentials.get? key).filter Credential.enabled = some a :=
      Option.filter_eq_some_iff.2 ⟨hregistered, henabled⟩
    have hallows : allows a c.path = true := allows_iff.2 hpaths
    -- all checks pass in the order in which they are made
    unfold check
    simp only [hkey, hsign, htimestamp, hsent, if_neg (distance_le_iff.2 hnear), ha, hallows,
      if_true]

end Stages.Sign

namespace Gateway

open Chain Stages Stages.Sign

variable {u : Setup} {g : Gateway} {moment : Moment} {r : Http.Request}

/-! ## The gate -/

/-- Every attempt for a request under a rule was agreed to by the verifier, on the way. -/
theorem exists_verified_of_sent (h : Stock u g)
    (hbefore : Precedes g.lineup.names "sign" "web_client") {selector : Selector} {rule : Rule}
    (hfound : u.resolve g.state "sign" (.ofRequest r) = .matched selector rule) {a : Call.Sent}
    (ha : a ∈ (g.handle moment r).state.line.sent) :
    ∃ left right s x,
      Way g moment r left ((Stages.sign u.verifier).toStage u.resolve :: right) s x ∧
      u.verifier.verify g.state.catalog moment.epochMs x.context = .ok () := by
  obtain ⟨before, after, s, x, hway, -, -, -⟩ := exists_way_of_sent h ha
  have hst : (Stages.sign u.verifier).toStage u.resolve ∈ u.stages := by simp [Setup.stages]
  have hmem : "sign" ∈ before.map Stage.name := (hway.mem_before_iff h "sign").2 hbefore
  obtain ⟨left, right, s₁, x₁, s₂, x₂, hsign, -, hturn, -⟩ := hway.exists_turn h hst hmem
  rw [← hsign.resolve_eq h] at hfound
  have hverify := verify_of_advances hturn hfound
  rw [(hsign.leaves_start h).catalog] at hverify
  exact ⟨left, right, s₁, x₁, hsign, hverify⟩

/-- A request that brings a key has been classified, and it stays what it was found to be. -/
theorem Way.identity_end {before after : List (Stage State)} {s : State} {x : Exchange}
    (h : Way g moment r before after s x) (hg : Stock u g) (hkey : x.context.appKey ≠ none) :
    x.context.identity = identityOf g.state.catalog.services r ∧
      (g.handle moment r).exchange.context.identity = x.context.identity := by
  have hidentity := h.identity_eq hg
  have hmem : "global" ∈ before.map Stage.name := by
    apply Classical.byContradiction
    intro hno
    rw [identityAfter, if_neg hno] at hidentity
    exact hkey (congrArg Identity.appKey hidentity)
  rw [identityAfter, if_pos hmem] at hidentity
  exact ⟨hidentity, (h.leaves_end hg).identity (h.not_mem_after hg hmem)⟩

/-- **No request under a rule for signatures reaches a backend without being admitted**, where the
verifier of credentials stands before the call. -/
theorem admitted_of_sent (h : Stock u g) {maxDelay : Nat}
    (hverifier : u.verifier = .credentials maxDelay)
    (hbefore : Precedes g.lineup.names "sign" "web_client") {selector : Selector} {rule : Rule}
    (hfound : u.resolve g.state "sign" (.ofRequest r) = .matched selector rule)
    (moment : Moment) :
    ((g.handle moment r).state.line.sent ≠ [] →
      (g.handle moment r).exchange.context.path = r.path ∧
      Admitted g.state.catalog.credentials maxDelay moment.epochMs
        (g.handle moment r).exchange.context) ∧
    ∀ catalog now c, u.verifier.verify catalog now c = .ok () ↔
      Admitted catalog.credentials maxDelay now c := by
  refine ⟨?_, fun catalog now c => by rw [hverifier]; exact verify_iff⟩
  intro hsent
  obtain ⟨a, ha⟩ := List.exists_mem_of_ne_nil _ hsent
  obtain ⟨left, right, s, x, hway, hverify⟩ := exists_verified_of_sent h hbefore hfound ha
  rw [hverifier] at hverify
  obtain ⟨key, -, hkey, -⟩ := (verify_iff.1 hverify).key
  obtain ⟨hidentity, hend⟩ := hway.identity_end h (by rw [hkey]; simp)
  constructor
  · calc (g.handle moment r).exchange.context.path
        = (identityOf g.state.catalog.services r).path :=
          congrArg Identity.path (hend.trans hidentity)
      _ = r.path := path_identityOf _ _
  · rw [← verify_congr hend] at hverify
    exact verify_iff.1 hverify

/-- All requests are passed on to one backend, those with one key and for some paths only. -/
def guarded : List Change :=
  routed ++
    [.event (.put .selector (.obj [("enabled", .bool true), ("id", .str "p"),
      ("pluginName", .str "sign"), ("type", .str "full_flow")])),
    .event (.put .rule (.obj [("enabled", .bool true), ("id", .str "q"), ("selectorId", .str "p")])),
    .event (.put .appAuth (.obj [("appKey", .str "k"), ("enabled", .bool true),
      ("open", .bool true), ("paths", .arr [.str "/a/**"])]))]

/-- The selector that all requests fall under. -/
def guardSelector : Selector :=
  { (default : Selector) with id := "p", stage := "sign", scope := .fullFlow, enabled := true }

/-- The rule that all requests fall under. -/
def guardRule : Rule := { (default : Rule) with id := "q", selectorId := "p", enabled := true }

/-- A request with a key, a signature and a time. -/
def signed : Http.Request :=
  { Http.Request.ofTarget "GET" "/a/b" with
    headers := .ofList [("appKey", "k"), ("sign", "x"), ("timestamp", "0")] }

theorem admitted_of_sent_signed :
    Stock unsetSetup (unset.follow guarded) ∧
    unsetSetup.verifier = .credentials defaultMaxDelay ∧
    Precedes (unset.follow guarded).lineup.names "sign" "web_client" ∧
    unsetSetup.resolve (unset.follow guarded).state "sign" (.ofRequest signed) =
      .matched guardSelector guardRule ∧
    Admitted (unset.follow guarded).state.catalog.credentials defaultMaxDelay 0
      ((unset.follow guarded).handle ⟨0, 0, 0⟩ signed).exchange.context := by
  have hbefore : Precedes (unset.follow guarded).lineup.names "sign" "web_client" := by
    rw [Lineup.names, Lineup.active_eq_filter _ (by decide +kernel)]
    decide +kernel
  have hfound : unsetSetup.resolve (unset.follow guarded).state "sign" (.ofRequest signed) =
      .matched guardSelector guardRule := by decide +kernel
  have hurls : ((unset.follow guarded).handle ⟨0, 0, 0⟩ signed).state.line.sent.map
      (fun a => a.url) = ["http://a/a/b"] := by
    rw [handle, Lineup.active_eq_filter _ (by decide +kernel)]
    decide +kernel
  have hsent : ((unset.follow guarded).handle ⟨0, 0, 0⟩ signed).state.line.sent ≠ [] := by
    intro hnone
    rw [hnone] at hurls
    cases hurls
  have hstock := stock_unset guarded
  obtain ⟨-, hadmitted⟩ := (admitted_of_sent hstock rfl hbefore hfound ⟨0, 0, 0⟩).1 hsent
  exact ⟨hstock, rfl, hbefore, hfound, hadmitted⟩

end Gateway

end Gatehouse
