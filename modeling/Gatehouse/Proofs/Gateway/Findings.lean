import Gatehouse.Proofs.Chain.Account
import Gatehouse.Proofs.Gateway.Attempts
import Gatehouse.Proofs.Match.Resolution

/-!
# What the stages have found

A context has room for two ids, one of a selector and one of a rule. Every scoped stage enters what
it finds, and a stage that finds a selector without a rule enters the selector alone. The rule of an
earlier stage then stays beside it:

    rate_limiter   finds s with r        s   r
    rewrite        finds t, no rule      t   r
    divide         finds v with w        v   w

A chain is a list of links here, so that one can tell the scoped stages from others, and `findings`
is what its scoped stages find on the way, each with the catalogue that it has looked at. As long as
nobody else writes them, **each id is that of the last finding of its kind** (`ids_behind`). The two
belong together, at any point of the chain, exactly if the last selector was found with a rule or no
rule was found at all (`paired_iff`). All built-in stages leave the ids alone once they are entered
(`discreet_of_mem_builtIn`), and among those the pair can be wrong (`not_paired`).
-/

namespace Gatehouse

namespace Match.Resolution

def selector? : Resolution → Option Selector
  | noSelector => none
  | noRule s => some s
  | matched s _ => some s

def rule? : Resolution → Option Rule
  | matched _ r => some r
  | noSelector | noRule _ => none

/-- No rule is found but with a selector. -/
theorem rule?_of_selector? {found : Resolution} (h : found.selector? = none) : found.rule? = none := by
  cases found with
  | noSelector => rfl
  | noRule s => cases h
  | matched s r => cases h

theorem rule?_eq_some_iff {found : Resolution} {r : Rule} :
    found.rule? = some r ↔ ∃ s, found = .matched s r := by
  cases found <;> simp [rule?]

end Match.Resolution

/-- The ids of the selector and of the rule. -/
def Context.ids (c : Context) : Option String × Option String := (c.selectorId, c.ruleId)

namespace Gateway

open Chain Stages

/-! ## Chains -/

/-- A link of a chain: a stage that acts under its rules, or any other stage. -/
inductive Link where
  | ruled (sc : Scoped State)
  | free (st : Stage State)

namespace Link

/-- The stage that a link stands for. -/
def toStage (u : Setup) : Link → Stage State
  | ruled sc => sc.toStage u.resolve
  | free st => st

/-- A link does not write the ids itself. Those that were entered for it stay. -/
def Discreet : Link → Prop
  | ruled sc => ∀ moment s x selector rule,
      (sc.matched moment s x selector rule).exchange.context.ids = x.context.ids
  | free st => ∀ moment s x, (st.run moment s x).exchange.context.ids = x.context.ids

end Link

def builtIn (u : Setup) : List Link :=
  [.free classify, .ruled (sign u.verifier), .ruled throttle, .ruled reshape,
    .ruled (balance u.scatter), .free Stages.target, .free (forward u.client), .free answer]

/-- They stand for the stages that a gateway is built with. -/
example (u : Setup) : (builtIn u).map (Link.toStage u) = u.stages := rfl

theorem ids_decorate (kind : Rpc) (service : Option Service) (c : Context) :
    (Classify.decorate kind service c).ids = c.ids := by
  cases kind <;> cases service <;> rfl

/-- **The built-in stages leave the ids alone**, whatever their verdict. -/
theorem discreet_of_mem_builtIn {u : Setup} {l : Link} (h : l ∈ builtIn u) : l.Discreet := by
  simp only [builtIn, List.mem_cons, List.not_mem_nil, or_false] at h
  rcases h with rfl | rfl | rfl | rfl | rfl | rfl | rfl | rfl
  · intro moment s x
    exact ids_decorate _ _ _
  · intro moment s x selector rule
    simp only [sign]
    split <;> rfl
  · intro moment s x selector rule
    simp only [throttle]
    split <;> rfl
  · intro moment s x selector rule
    simp only [reshape]
    split
    · rfl
    · split <;> rfl
  · intro moment s x selector rule
    simp only [balance]
    split
    · rfl
    · split <;> rfl
  · intro moment s x
    simp only [Stages.target]
    split <;> rfl
  · intro moment s x
    simp only [forward]
    split
    · rfl
    · split
      · rfl
      · split <;> rfl
  · intro moment s x
    simp only [answer]
    split <;> rfl

/-! ## Findings -/

/-- What a stage has found, and in which catalogue. -/
structure Finding where
  stage : String
  catalog : Catalog
  resolution : Match.Resolution

/-- What a link finds in its turn. Only scoped stages look for anything. -/
def Link.finding? (u : Setup) (p : State × Exchange) : Link → Option Finding
  | ruled sc =>
    if sc.skips p.2 then none
    else some ⟨sc.name, p.1.catalog, u.resolve p.1 sc.name (.ofRequest p.2.request)⟩
  | free _ => none

/-- What the links of a chain find, each behind the one before it. -/
def findings (u : Setup) (moment : Moment) : List Link → State × Exchange → List Finding
  | [], _ => []
  | l :: links, p =>
    (l.finding? u p).toList ++ findings u moment links (turn moment p (l.toStage u))

def behind (u : Setup) (moment : Moment) (links : List Link) (p : State × Exchange) :
    State × Exchange :=
  (links.map (Link.toStage u)).foldl (turn moment) p

/-- A part of what was found last, findings without that part apart. -/
def latest? (part : Match.Resolution → Option α) (found : List Finding) : Option α :=
  found.reverse.findSome? fun f => part f.resolution

/-- The ids that findings leave, each without regard to the other. -/
def idsLeft (found : List Finding) : Option String × Option String :=
  ((latest? (·.selector?) found).map Selector.id, (latest? (·.rule?) found).map Rule.id)

/-- The latest finding of the second part counts, and that of the first part only without it. -/
theorem latest?_append (part : Match.Resolution → Option α) (first second : List Finding) :
    latest? part (first ++ second) = (latest? part second).or (latest? part first) := by
  rw [latest?, List.reverse_append, List.findSome?_append]
  rfl

theorem latest?_eq_none_iff {part : Match.Resolution → Option α} {found : List Finding} :
    latest? part found = none ↔ ∀ f ∈ found, part f.resolution = none := by
  rw [latest?, List.findSome?_eq_none_iff]
  simp only [List.mem_reverse]

variable {u : Setup} {moment : Moment} {p : State × Exchange}

/-- What is found is there to be found. -/
theorem mem_of_mem_findings {links : List Link} {f : Finding} (hf : f ∈ findings u moment links p)
    {s : Selector} {r : Rule} (hmatched : f.resolution = .matched s r) :
    s ∈ f.catalog.selectorsOf f.stage ∧ r ∈ f.catalog.rulesOf s := by
  induction links generalizing p with
  | nil => cases hf
  | cons l links ih =>
      rcases List.mem_append.1 hf with hnow | hlater
      · cases l with
        | free st => cases hnow
        | ruled sc =>
            simp only [Link.finding?] at hnow
            split at hnow
            · cases hnow
            · obtain rfl := List.mem_singleton.1 hnow
              obtain ⟨before, after, htakers, hrule, -⟩ :=
                (Catalog.resolve_eq_matched_iff _ _ _ _ s r).1 hmatched
              have htaker : s ∈ p.1.catalog.takers sc.name (.ofRequest p.2.request) := by
                rw [htakers]
                simp
              exact ⟨(List.mem_filter.1 htaker).1, List.mem_of_find?_eq_some hrule⟩
      · exact ih hlater

/-- The ids behind a scoped stage or another one: what was found is entered over what was there. -/
theorem ids_turn {l : Link} (h : l.Discreet) (u : Setup) (moment : Moment)
    (p : State × Exchange) :
    (turn moment p (l.toStage u)).2.context.ids =
      ((idsLeft (l.finding? u p).toList).1.or p.2.context.selectorId,
        (idsLeft (l.finding? u p).toList).2.or p.2.context.ruleId) := by
  obtain ⟨s, x⟩ := p
  cases hskip : (l.toStage u).skips x with
  | true =>
      have hnone : l.finding? u (s, x) = none := by
        cases l with
        | free st => rfl
        | ruled sc => exact if_pos hskip
      rw [turn_of_skips hskip, hnone]
      rfl
  | false =>
      rw [turn_of_not_skips hskip]
      cases l with
      | free st => exact h moment s x
      | ruled sc =>
          have hfinding : (Link.ruled sc).finding? u (s, x) =
              some ⟨sc.name, s.catalog, u.resolve s sc.name (.ofRequest x.request)⟩ :=
            if_neg (by simpa [Link.toStage, Scoped.toStage] using hskip)
          rw [hfinding, Link.toStage, run_toStage]
          cases hfound : u.resolve s sc.name (.ofRequest x.request) with
          | noSelector => rfl
          | noRule selector => rfl
          | matched selector rule => exact h moment s _ selector rule

/-- **Each id is that of the last finding of its kind**, or else the one that was there before. -/
theorem ids_behind {links : List Link} (h : ∀ l ∈ links, l.Discreet) (p : State × Exchange) :
    (behind u moment links p).2.context.ids =
      ((idsLeft (findings u moment links p)).1.or p.2.context.selectorId,
        (idsLeft (findings u moment links p)).2.or p.2.context.ruleId) := by
  induction links generalizing p with
  | nil => rfl
  | cons l links ih =>
      have hturn := ids_turn (h l List.mem_cons_self) u moment p
      have hlinks := ih (fun l' hl' => h l' (List.mem_cons_of_mem l hl'))
        (turn moment p (l.toStage u))
      obtain ⟨hselector, hrule⟩ := Prod.mk.inj hturn
      rw [hselector, hrule] at hlinks
      rw [findings, idsLeft, latest?_append, latest?_append, Option.map_or, Option.map_or,
        Option.or_assoc, Option.or_assoc]
      exact hlinks

/-! ## Pairs -/

/-- The last finding with a selector. -/
def lastSelected? (found : List Finding) : Option Finding :=
  found.reverse.find? fun f => f.resolution.selector?.isSome

/-- Where a context has two ids, they are those of a selector and of one of its rules, which were
found together, and no selector was found since. -/
def Paired (found : List Finding) (c : Context) : Prop :=
  ∀ i j, c.selectorId = some i → c.ruleId = some j → ∃ f s r,
    lastSelected? found = some f ∧ f.resolution = .matched s r ∧
      s ∈ f.catalog.selectorsOf f.stage ∧ r ∈ f.catalog.rulesOf s ∧ s.id = i ∧ r.id = j

/-- The last selector was found without a rule, and an earlier one with a rule. -/
def Stale (found : List Finding) : Prop :=
  (∃ f ∈ lastSelected? found, f.resolution.rule? = none) ∧ ∃ g ∈ found, g.resolution.rule? ≠ none

variable {found : List Finding} {f : Finding}

instance : Decidable (Stale found) := inferInstanceAs (Decidable (_ ∧ _))

theorem mem_of_lastSelected? (h : lastSelected? found = some f) : f ∈ found :=
  List.mem_reverse.1 (List.mem_of_find?_eq_some h)

/-- A last selection is one of a selector. -/
theorem exists_selector_of_lastSelected? (h : lastSelected? found = some f) :
    ∃ s, f.resolution.selector? = some s := by
  have hsome := List.find?_some h
  exact Option.isSome_iff_exists.1 hsome

/-- No rule id is left exactly if no rule was found. -/
theorem idsLeft_snd_eq_none_iff :
    (idsLeft found).2 = none ↔ ∀ g ∈ found, g.resolution.rule? = none := by
  simp only [idsLeft, Option.map_eq_none_iff, latest?_eq_none_iff]

/-- Whatever part the last finding with a selector has, it is the latest one. -/
theorem latest?_of_lastSelected? {part : Match.Resolution → Option α} {a : α}
    (hpart : ∀ {found}, found.selector? = none → part found = none)
    (h : lastSelected? found = some f) (ha : part f.resolution = some a) :
    latest? part found = some a := by
  obtain ⟨-, later, earlier, hfound, hlater⟩ := List.find?_eq_some_iff_append.1 h
  have hnone : later.findSome? (fun g => part g.resolution) = none := by
    apply List.findSome?_eq_none_iff.2
    intro g hg
    exact hpart (by simpa using hlater g hg)
  rw [latest?, hfound, List.findSome?_append, hnone, Option.none_or, List.findSome?_cons, ha]

/-- Nothing is left where no selector was found. -/
theorem idsLeft_snd_of_lastSelected? (h : lastSelected? found = none) :
    (idsLeft found).2 = none := by
  apply idsLeft_snd_eq_none_iff.2
  intro g hg
  have hnone := List.find?_eq_none.1 h g (List.mem_reverse.2 hg)
  exact Match.Resolution.rule?_of_selector? (by simpa using hnone)

/-- After a full match both ids are those of the match. -/
theorem idsLeft_of_matched {s : Selector} {r : Rule} (h : lastSelected? found = some f)
    (hmatched : f.resolution = .matched s r) : idsLeft found = (some s.id, some r.id) := by
  have hs : latest? (·.selector?) found = some s :=
    latest?_of_lastSelected? id h (by rw [hmatched]; rfl)
  have hr : latest? (·.rule?) found = some r :=
    latest?_of_lastSelected? Match.Resolution.rule?_of_selector? h (by rw [hmatched]; rfl)
  rw [idsLeft, hs, hr]
  rfl

/-- A rule id that is not stale was left by the last finding with a selector. -/
theorem exists_matched_of_not_stale (h : ¬ Stale found) {j : String}
    (hj : (idsLeft found).2 = some j) :
    ∃ f s r, lastSelected? found = some f ∧ f.resolution = .matched s r := by
  have hsome : ¬ ∀ g ∈ found, g.resolution.rule? = none := by
    rw [← idsLeft_snd_eq_none_iff, hj]
    simp
  cases hlast : lastSelected? found with
  | none =>
      rw [idsLeft_snd_of_lastSelected? hlast] at hj
      cases hj
  | some f =>
      cases hrule : f.resolution.rule? with
      | none =>
          apply absurd _ h
          exact ⟨⟨f, hlast, hrule⟩, by simpa using hsome⟩
      | some r =>
          obtain ⟨s, hmatched⟩ := Match.Resolution.rule?_eq_some_iff.1 hrule
          exact ⟨f, s, r, rfl, hmatched⟩

/-- The ids that sound findings leave are a pair, unless they are stale. -/
theorem paired_iff_of_ids {c : Context}
    (hsound : ∀ f ∈ found, ∀ s r, f.resolution = .matched s r →
      s ∈ f.catalog.selectorsOf f.stage ∧ r ∈ f.catalog.rulesOf s)
    (hids : c.ids = idsLeft found) : Paired found c ↔ ¬ Stale found := by
  have hselector : c.selectorId = (idsLeft found).1 := congrArg Prod.fst hids
  have hrule : c.ruleId = (idsLeft found).2 := congrArg Prod.snd hids
  constructor
  · intro hpaired hstale
    obtain ⟨⟨f, hlast, hnone⟩, g, hg, hsome⟩ := hstale
    -- there are two ids, so the last selector should have been found with a rule
    obtain ⟨t, ht⟩ := exists_selector_of_lastSelected? hlast
    have hfst : c.selectorId = some t.id := by
      rw [hselector, idsLeft, latest?_of_lastSelected? id hlast ht]
      rfl
    cases hsnd : c.ruleId with
    | none => exact hsome (idsLeft_snd_eq_none_iff.1 (hrule.symm.trans hsnd) g hg)
    | some j =>
        obtain ⟨f', s, r, hlast', hmatched, -⟩ := hpaired t.id j hfst hsnd
        obtain rfl := Option.some.inj (hlast.symm.trans hlast')
        rw [hmatched] at hnone
        cases hnone
  · intro hfresh i j hi hj
    obtain ⟨f, s, r, hlast, hmatched⟩ := exists_matched_of_not_stale hfresh (hrule.symm.trans hj)
    obtain ⟨hs, hr⟩ := hsound f (mem_of_lastSelected? hlast) s r hmatched
    have hleft := idsLeft_of_matched hlast hmatched
    rw [hselector, hleft] at hi
    rw [hrule, hleft] at hj
    exact ⟨f, s, r, hlast, hmatched, hs, hr, Option.some.inj hi, Option.some.inj hj⟩

/-- **The pair of ids.** At any point of any chain whose links do not write the ids themselves, the
ids in the context belong together exactly if they are not stale. The end of a run is such a point. -/
theorem paired_iff {links : List Link} (h : ∀ l ∈ links, l.Discreet) (u : Setup)
    (moment : Moment) (s : State) (r : Http.Request) :
    (∀ front, front <+: links →
      (Paired (findings u moment front (s, .ofRequest r))
          (behind u moment front (s, .ofRequest r)).2.context ↔
        ¬ Stale (findings u moment front (s, .ofRequest r)))) ∧
    ∃ front, front <+: links ∧ (run moment (links.map (Link.toStage u)) s (.ofRequest r)).exchange =
      (behind u moment front (s, .ofRequest r)).2 := by
  constructor
  · intro front hfront
    have hdiscreet : ∀ l ∈ front, l.Discreet := fun l hl => h l (hfront.subset hl)
    apply paired_iff_of_ids
    · intro f hf t q hmatched
      exact mem_of_mem_findings hf hmatched
    · -- a request that has just arrived has no ids
      rw [ids_behind hdiscreet]
      simp [Exchange.ofRequest, Context.ofPath]
  · obtain ⟨n, hn⟩ := exists_take_of_run moment (links.map (Link.toStage u)) s (.ofRequest r)
    refine ⟨links.take n, List.take_prefix n links, ?_⟩
    rw [behind, List.map_take, ← hn]

/-- All requests fall under a rule of one stage, and under a selector without rules of a later
one. -/
def ruleless : List Change :=
  [.event (.put .selector (.obj [("enabled", .bool true), ("id", .str "s"),
      ("pluginName", .str "rate_limiter"), ("type", .str "full_flow")])),
    .event (.put .rule (.obj [("enabled", .bool true), ("id", .str "r"),
      ("selectorId", .str "s")])),
    .event (.put .selector (.obj [("enabled", .bool true), ("id", .str "t"),
      ("pluginName", .str "rewrite"), ("type", .str "full_flow")]))]

theorem paired_iff_ruleless :
    (∀ l ∈ builtIn unsetSetup, l.Discreet) ∧
    Paired
      (findings unsetSetup ⟨0, 0, 0⟩ ((builtIn unsetSetup).take 3)
        ((unset.follow ruleless).state, .ofRequest (.ofTarget "GET" "/")))
      (behind unsetSetup ⟨0, 0, 0⟩ ((builtIn unsetSetup).take 3)
        ((unset.follow ruleless).state, .ofRequest (.ofTarget "GET" "/"))).2.context := by
  have hdiscreet : ∀ l ∈ builtIn unsetSetup, l.Discreet := fun _ h => discreet_of_mem_builtIn h
  have hpoints := (paired_iff hdiscreet unsetSetup ⟨0, 0, 0⟩ (unset.follow ruleless).state
    (.ofTarget "GET" "/")).1
  exact ⟨hdiscreet, (hpoints _ (List.take_prefix 3 _)).2 (by decide +kernel)⟩

/-- Among the built-in stages, a rule can be left beside the selector of another stage. -/
theorem not_paired :
    ¬ ∀ (u : Setup) (moment : Moment) (s : State) (r : Http.Request) (front : List Link),
      front <+: builtIn u →
      Paired (findings u moment front (s, .ofRequest r))
        (behind u moment front (s, .ofRequest r)).2.context := by
  intro hall
  have hpaired := hall unsetSetup ⟨0, 0, 0⟩ (unset.follow ruleless).state (.ofTarget "GET" "/")
    ((builtIn unsetSetup).take 4) (List.take_prefix 4 _)
  have hids : (behind unsetSetup ⟨0, 0, 0⟩ ((builtIn unsetSetup).take 4)
      ((unset.follow ruleless).state, .ofRequest (.ofTarget "GET" "/"))).2.context.ids =
      (some "t", some "r") := by decide +kernel
  have hnone : (lastSelected? (findings unsetSetup ⟨0, 0, 0⟩ ((builtIn unsetSetup).take 4)
      ((unset.follow ruleless).state, .ofRequest (.ofTarget "GET" "/")))).bind
      (fun f => f.resolution.rule?) = none := by decide +kernel
  obtain ⟨hselector, hrule⟩ := Prod.mk.inj hids
  obtain ⟨f, s, r, hlast, hmatched, -⟩ := hpaired "t" "r" hselector hrule
  rw [hlast, Option.bind_some, hmatched] at hnone
  cases hnone

end Gateway

end Gatehouse
