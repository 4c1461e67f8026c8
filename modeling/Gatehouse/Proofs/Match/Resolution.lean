import Gatehouse.Catalog.Basic

/-!
# What a request falls under

The resolver goes through the selectors of a stage one by one. What it finds can be said without
going anywhere: let the **takers** be the selectors of the stage that take the request, in order,
and let each have its first rule that takes it, if there is one.

    takers     s₁        s₂        s₃        s₄
    rule       none      none      r₃        …
    policy     s₁ and s₂ give way            first match: s₁ decides, `noRule s₁`
               one of them does not          continued:   `matched s₃ r₃`, or else `noRule s₁`

Under both policies the resolver ends in the first taker with a rule if all takers before it give
way (`resolveAmong_eq_matched_iff`); they never do where the first match counts. Otherwise it ends
without a rule in the very first taker. The whole account is `resolve_account`.
-/

namespace Gatehouse

/-! ## Taking a request -/

namespace Match

/-- What it means that a request satisfies conditions. -/
def Mode.Satisfied (m : Mode) (cs : List Condition) (a : Http.Attributes) : Prop :=
  match m with
  | .all => ∀ c ∈ cs, c.holds a = true
  | .any => ∃ c ∈ cs, c.holds a = true

theorem Mode.holds_iff {m : Mode} {cs : List Condition} {a : Http.Attributes} :
    m.holds cs a = true ↔ m.Satisfied cs a := by
  cases m with
  | all => exact List.all_eq_true
  | any => exact List.any_eq_true

instance (m : Mode) (cs : List Condition) (a : Http.Attributes) : Decidable (m.Satisfied cs a) :=
  decidable_of_iff _ Mode.holds_iff

end Match

/-- A selector takes a request if it is enabled and either takes every request, or the request
satisfies its conditions. -/
def Selector.Takes (s : Selector) (a : Http.Attributes) : Prop :=
  s.enabled = true ∧ (s.scope = .fullFlow ∨ s.mode.Satisfied s.conditions a)

/-- A rule takes a request if it is enabled and the request satisfies its conditions. -/
def Rule.Takes (r : Rule) (a : Http.Attributes) : Prop :=
  r.enabled = true ∧ r.mode.Satisfied r.conditions a

instance (s : Selector) (a : Http.Attributes) : Decidable (s.Takes a) :=
  inferInstanceAs (Decidable (_ ∧ _))

instance (r : Rule) (a : Http.Attributes) : Decidable (r.Takes a) :=
  inferInstanceAs (Decidable (_ ∧ _))

theorem Selector.accepts_iff {s : Selector} {a : Http.Attributes} :
    s.accepts a = true ↔ s.Takes a := by
  rw [accepts, Bool.and_eq_true, Takes]
  cases s.scope with
  | fullFlow => simp
  | custom => simp [Match.Mode.holds_iff]

theorem Rule.accepts_iff {r : Rule} {a : Http.Attributes} : r.accepts a = true ↔ r.Takes a := by
  rw [accepts, Bool.and_eq_true, Match.Mode.holds_iff, Takes]

/-- The selectors of a stage that take a request, in order. -/
def Catalog.takers (c : Catalog) (stage : String) (a : Http.Attributes) : List Selector :=
  (c.selectorsOf stage).filter fun s => s.Takes a

/-- The first rule of a selector that takes a request. -/
def Catalog.rule? (c : Catalog) (a : Http.Attributes) (s : Selector) : Option Rule :=
  (c.rulesOf s).find? fun r => r.Takes a

theorem Catalog.takers_eq (c : Catalog) (stage : String) (a : Http.Attributes) :
    c.takers stage a = (c.selectorsOf stage).filter (·.accepts a) :=
  List.filter_congr fun _ _ => by rw [Bool.eq_iff_iff, decide_eq_true_iff, Selector.accepts_iff]

theorem Catalog.rule?_eq (c : Catalog) (a : Http.Attributes) (s : Selector) :
    c.rule? a s = Match.firstRule? (c.rulesOf s) a := by
  have hfun : (fun r : Rule => decide (r.Takes a)) = (·.accepts a) := by
    funext r
    rw [Bool.eq_iff_iff, decide_eq_true_iff, Rule.accepts_iff]
  rw [rule?, hfun, Match.firstRule?]

/-! ## Going through the takers -/

namespace Match

/-- What a selector makes of the rule that is found for it. -/
def Resolution.ofRule (s : Selector) : Option Rule → Resolution
  | some r => .matched s r
  | none => .noRule s

/-- Whether a selector without a rule gives way to the next one. -/
def Fallthrough.Yields (policy : Fallthrough) (s : Selector) : Prop :=
  policy = .continued ∧ s.continued = true

/-- A list of selectors ends in one of them and its rule: no selector before it has a rule, and all
of them give way. -/
def EndsIn (policy : Fallthrough) (rule? : Selector → Option Rule) (selectors : List Selector)
    (s : Selector) (r : Rule) : Prop :=
  ∃ before after, selectors = before ++ s :: after ∧ rule? s = some r ∧
    ∀ t ∈ before, rule? t = none ∧ policy.Yields t

variable {policy : Fallthrough} {rule? : Selector → Option Rule} {s t : Selector} {r q : Rule}
  {selectors : List Selector}

theorem not_endsIn_nil : ¬ EndsIn policy rule? [] s r := by
  rintro ⟨before, after, hnil, -⟩
  cases before <;> cases hnil

theorem endsIn_cons_of_some (h : rule? t = some q) :
    EndsIn policy rule? (t :: selectors) s r ↔ t = s ∧ q = r := by
  constructor
  · rintro ⟨before, after, hlist, hrule, hbefore⟩
    cases before with
    | nil =>
        obtain ⟨rfl, -⟩ := List.cons.inj hlist
        exact ⟨rfl, Option.some.inj (h.symm.trans hrule)⟩
    | cons u before =>
        obtain ⟨rfl, -⟩ := List.cons.inj hlist
        rw [(hbefore t List.mem_cons_self).1] at h
        cases h
  · rintro ⟨rfl, rfl⟩
    exact ⟨[], selectors, rfl, h, List.forall_mem_nil _⟩

/-- A selector without a matching rule is passed over if the policy lets it give way. -/
theorem endsIn_cons_of_none (h : rule? t = none) :
    EndsIn policy rule? (t :: selectors) s r ↔
      policy.Yields t ∧ EndsIn policy rule? selectors s r := by
  constructor
  · rintro ⟨before, after, hlist, hrule, hbefore⟩
    cases before with
    | nil =>
        obtain ⟨rfl, -⟩ := List.cons.inj hlist
        rw [h] at hrule
        cases hrule
    | cons u before =>
        obtain ⟨rfl, htail⟩ := List.cons.inj hlist
        obtain ⟨⟨-, hyields⟩, hbefore⟩ := List.forall_mem_cons.1 hbefore
        exact ⟨hyields, before, after, htail, hrule, hbefore⟩
  · rintro ⟨hyields, before, after, rfl, hrule, hbefore⟩
    exact ⟨t :: before, after, rfl, hrule, List.forall_mem_cons.2 ⟨⟨h, hyields⟩, hbefore⟩⟩

/-- Where the first match counts no selector gives way, so what ends the search there ends it under
the other policy as well. -/
theorem EndsIn.continued (h : EndsIn .firstMatch rule? selectors s r) :
    EndsIn .continued rule? selectors s r := by
  obtain ⟨before, after, hlist, hrule, hbefore⟩ := h
  exact ⟨before, after, hlist, hrule, fun t ht => nomatch (hbefore t ht).2.1⟩

variable {rulesOf : Selector → List Rule} {a : Http.Attributes} {missed : Option Selector}

/-- A selector with a rule ends the search. -/
theorem resolveAmong_cons_of_some (h : firstRule? (rulesOf t) a = some q) :
    resolveAmong policy rulesOf a missed (t :: selectors) = .matched t q := by
  rw [resolveAmong, h]

/-- A selector without a rule that gives way is remembered if it is the first one. -/
theorem resolveAmong_cons_of_yields (h : firstRule? (rulesOf t) a = none)
    (hyields : policy.Yields t) :
    resolveAmong policy rulesOf a missed (t :: selectors) =
      resolveAmong policy rulesOf a (some (missed.getD t)) selectors := by
  obtain ⟨rfl, hcontinued⟩ := hyields
  rw [resolveAmong, h]
  simp [hcontinued]

/-- A selector without a rule that does not give way ends the search. -/
theorem resolveAmong_cons_of_not_yields (h : firstRule? (rulesOf t) a = none)
    (hyields : ¬ policy.Yields t) :
    resolveAmong policy rulesOf a missed (t :: selectors) = .noRule (missed.getD t) := by
  have hends : policy = .firstMatch ∨ (!t.continued) = true := by
    cases policy with
    | firstMatch => exact Or.inl rfl
    | continued => exact Or.inr (by simpa [Fallthrough.Yields] using hyields)
  rw [resolveAmong, h]
  exact if_pos hends

/-- **The search finds** a selector and its rule exactly if the selectors end in them. -/
theorem resolveAmong_eq_matched_iff : resolveAmong policy rulesOf a missed selectors =
    .matched s r ↔ EndsIn policy (fun s => firstRule? (rulesOf s) a) selectors s r := by
  -- whatever was missed before: a match does not depend on it
  induction selectors generalizing missed with
  | nil => cases missed <;> simp [resolveAmong, not_endsIn_nil]
  | cons t selectors ih =>
      cases hrule : firstRule? (rulesOf t) a with
      | some q =>
          rw [resolveAmong_cons_of_some hrule, endsIn_cons_of_some hrule, Resolution.matched.injEq]
      | none =>
          rw [endsIn_cons_of_none hrule]
          by_cases hyields : policy.Yields t
          · rw [resolveAmong_cons_of_yields hrule hyields, ih, and_iff_right hyields]
          · simp [resolveAmong_cons_of_not_yields hrule hyields, hyields]

/-- **The search misses** in the selector that it met first, if there was one. -/
theorem resolveAmong_of_not_matched
    (h : ∀ s r, resolveAmong policy rulesOf a missed selectors ≠ .matched s r) :
    resolveAmong policy rulesOf a missed selectors =
      (missed.or selectors.head?).elim .noSelector .noRule := by
  induction selectors generalizing missed with
  | nil => cases missed <;> rfl
  | cons t selectors ih =>
      have hfirst : missed.or (t :: selectors).head? = some (missed.getD t) := by
        cases missed <;> rfl
      rw [hfirst]
      cases hrule : firstRule? (rulesOf t) a with
      | some q => exact absurd (resolveAmong_cons_of_some hrule) (h t q)
      | none =>
          by_cases hyields : policy.Yields t
          · rw [resolveAmong_cons_of_yields hrule hyields] at h ⊢
            exact ih h
          · exact resolveAmong_cons_of_not_yields hrule hyields

end Match

/-! ## The account -/

namespace Catalog

open Match

variable (c : Catalog) (stage : String) (a : Http.Attributes)

/-- A request is matched exactly if the walk through the selectors ends in the rule. -/
theorem resolve_eq_matched_iff (policy : Fallthrough) (s : Selector) (r : Rule) :
    c.resolve policy stage a = .matched s r ↔
      EndsIn policy (c.rule? a) (c.takers stage a) s r := by
  rw [resolve, Match.resolve, resolveAmong_eq_matched_iff, takers_eq, funext (c.rule?_eq a)]

/-- A request that is not matched is reported by the first selector that took it. -/
theorem resolve_of_not_matched {policy : Fallthrough}
    (h : ∀ s r, c.resolve policy stage a ≠ .matched s r) :
    c.resolve policy stage a = (c.takers stage a).head?.elim .noSelector .noRule := by
  rw [takers_eq]
  exact resolveAmong_of_not_matched h

theorem resolve_eq_noRule_iff (policy : Fallthrough) (s : Selector) :
    c.resolve policy stage a = .noRule s ↔ (c.takers stage a).head? = some s ∧
      ∀ t r, ¬ EndsIn policy (c.rule? a) (c.takers stage a) t r := by
  simp only [← resolve_eq_matched_iff]
  constructor
  · intro h
    have hmissed : ∀ t r, c.resolve policy stage a ≠ .matched t r := by simp [h]
    refine ⟨?_, hmissed⟩
    rw [resolve_of_not_matched c stage a hmissed] at h
    cases htakers : (c.takers stage a).head? with
    | none => simp [htakers] at h
    | some t => simpa [htakers] using h
  · rintro ⟨hhead, hmissed⟩
    rw [resolve_of_not_matched c stage a hmissed, hhead]
    rfl

theorem resolve_eq_noSelector_iff (policy : Fallthrough) :
    c.resolve policy stage a = .noSelector ↔ c.takers stage a = [] := by
  constructor
  · intro h
    have hmissed : ∀ t r, c.resolve policy stage a ≠ .matched t r := by simp [h]
    rw [resolve_of_not_matched c stage a hmissed] at h
    cases htakers : c.takers stage a with
    | nil => rfl
    | cons t rest => simp [htakers] at h
  · intro h
    have hmissed : ∀ t r, c.resolve policy stage a ≠ .matched t r := by
      intro t r hmatched
      rw [resolve_eq_matched_iff, h] at hmatched
      exact not_endsIn_nil hmatched
    rw [resolve_of_not_matched c stage a hmissed, h]
    rfl

/-- Where the first match counts, the first taker decides. -/
theorem resolve_firstMatch : c.resolve .firstMatch stage a =
    (c.takers stage a).head?.elim .noSelector fun s => .ofRule s (c.rule? a s) := by
  rw [resolve, Match.resolve, ← takers_eq]
  cases c.takers stage a with
  | nil => rfl
  | cons s rest =>
      show _ = Resolution.ofRule s (c.rule? a s)
      rw [rule?_eq]
      cases hrule : firstRule? (c.rulesOf s) a with
      | some r => exact resolveAmong_cons_of_some hrule
      | none => exact resolveAmong_cons_of_not_yields hrule fun hyields => nomatch hyields.1

/-- **What a request falls under**: nothing exactly if no selector of the stage takes it; where the
first match counts, the first taker with its rule or without one, as if selector and rule were
looked up one after the other; under the other policy, the first taker with a rule if all before it
give way, and else the very first taker without a rule. What is matched under the stricter policy is
matched under the other. -/
theorem resolve_account :
    (∀ policy, c.resolve policy stage a = .noSelector ↔ c.takers stage a = []) ∧
    (c.resolve .firstMatch stage a =
      (c.takers stage a).head?.elim .noSelector fun s => .ofRule s (c.rule? a s)) ∧
    (c.resolve .firstMatch stage a = (firstSelector? (c.selectorsOf stage) a).elim .noSelector
      fun s => .ofRule s (firstRule? (c.rulesOf s) a)) ∧
    (∀ s r, c.resolve .continued stage a = .matched s r ↔ ∃ before after,
      c.takers stage a = before ++ s :: after ∧ c.rule? a s = some r ∧
        ∀ t ∈ before, c.rule? a t = none ∧ t.continued = true) ∧
    (∀ s, c.resolve .continued stage a = .noRule s ↔ (c.takers stage a).head? = some s ∧
      ∀ t r, c.resolve .continued stage a ≠ .matched t r) ∧
    (∀ s r, c.resolve .firstMatch stage a = .matched s r →
      c.resolve .continued stage a = .matched s r) := by
  refine ⟨resolve_eq_noSelector_iff c stage a, resolve_firstMatch c stage a, ?_, ?_, ?_, ?_⟩
  · rw [resolve_firstMatch, takers_eq, List.head?_filter, firstSelector?]
    simp only [rule?_eq]
  · intro s r
    simp [resolve_eq_matched_iff, EndsIn, Fallthrough.Yields]
  · intro s
    simp only [resolve_eq_noRule_iff, ne_eq, resolve_eq_matched_iff]
  · intro s r h
    rw [resolve_eq_matched_iff] at h ⊢
    exact h.continued

end Catalog

end Gatehouse
