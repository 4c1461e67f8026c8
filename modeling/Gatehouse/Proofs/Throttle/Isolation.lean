import Gatehouse.Proofs.Throttle.Exact
import Gatehouse.Stages.Throttle

/-!
# Rules and each other's buckets

Requests of a rule are admitted or not, and rules are written and go. What is asked here is whether
another rule could ever notice, that is, whether the verdicts on its requests would be the same if
all that happens to the first rule were left out of a run:

    api      api:v2     api      api:v2                      api:v2     api:v2
    admit    admit      429      admit      without api:     admit      admit

The rules share a table of buckets. **They are isolated from each other exactly if neither id is the
other one followed by a colon** and whatever else (`isolated_iff`), and then no bucket is for both.

They share the times at which full buckets are swept as well, since a request of any rule may be the
one that comes when it is time. In exact numbers this is not seen (`SameToSee`). In doubles a sweep
rounds what the other buckets have gained by then, and this can be seen
(`verdicts_differ_at_a_sweep`); so there the verdicts are the same in runs in which no request of the
first rule does the sweeping (`SameElsewhere`).
-/

namespace Gatehouse.Throttle

open Chain Gateway Stages
open Number (Counting)

variable {α : Type} [Counting α]

/-! ## Runs of the stage -/

/-- What happens to the stage: a request falls under one of its rules, or it hears of a rule. -/
inductive Use where
  | request (moment : Moment) (x : Exchange) (selector : Selector) (rule : Rule)
  | written (rule : Rule)
  | gone (rule : Rule)

namespace Use

def rule : Use → Rule
  | request _ _ _ rule => rule
  | written rule => rule
  | gone rule => rule

def after (s : State α) : Use → State α
  | request moment x selector rule => (throttle.matched moment s x selector rule).state
  | written rule => s.tell ⟨throttleStage, .rulePut rule⟩
  | gone rule => s.tell ⟨throttleStage, .ruleGone rule⟩

def verdict? (s : State α) : Use → Option Verdict
  | request moment x selector rule => some (throttle.matched moment s x selector rule).verdict
  | _ => none

def time (t : Nat) : Use → Nat
  | request moment _ _ _ => moment.elapsedNs
  | _ => t

/-- Whether it is time to sweep full buckets when a request comes. -/
def sweeps (s : State α) : Use → Bool
  | request moment _ _ _ => decide (Buckets.sweepAfter ≤ moment.elapsedNs - s.buckets.swept)
  | _ => false

end Use

def verdicts (id : String) : State α → List Use → List Verdict
  | _, [] => []
  | s, u :: uses =>
    (if u.rule.id = id then (u.verdict? s).toList else []) ++ verdicts id (u.after s) uses

/-- From a time on, the clock does not go back. -/
def Timely : Nat → List Use → Prop
  | _, [] => True
  | t, u :: uses => t ≤ u.time t ∧ Timely (u.time t) uses

/-- No request of a rule does the sweeping. -/
def SweptByOthers (id : String) : State α → List Use → Prop
  | _, [] => True
  | s, u :: uses =>
    (u.rule.id = id → u.sweeps s = false) ∧ SweptByOthers id (u.after s) uses

instance decidableSweptByOthers (id : String) :
    ∀ (s : State α) (uses : List Use), Decidable (SweptByOthers id s uses)
  | _, [] => inferInstanceAs (Decidable True)
  | s, u :: uses =>
    have := decidableSweptByOthers id (u.after s) uses
    inferInstanceAs (Decidable (_ ∧ _))

/-- How the stage puts whether a request is admitted. -/
def admission : Except ConfigFault Bool → Verdict
  | .ok true => .proceed
  | .ok false => .respond tooMany
  | .error f => .fail f.toFault

section Uses

variable (moment : Moment) (s : State α) (x : Exchange) (selector : Selector) (rule : Rule)

theorem buckets_of_matched : (throttle.matched moment s x selector rule).state.buckets =
    (s.buckets.grant rule x.client moment.elapsedNs).2 := by
  simp only [throttle]
  split <;> rfl

theorem verdict_of_matched : (throttle.matched moment s x selector rule).verdict =
    admission (s.buckets.grant rule x.client moment.elapsedNs).1 := by
  simp only [throttle]
  split <;> next hgrant => simp only [hgrant, admission, conclude]

end Uses

/-- Whether a rule is written or gone, its buckets are dropped. -/
theorem buckets_of_told (s : State α) {u : Use} {rule : Rule}
    (h : u = .written rule ∨ u = .gone rule) : (u.after s).buckets = s.buckets.drop rule.id := by
  rcases h with rfl | rfl <;> rfl

/-! ## Leaving a rule out -/

/-- A relation between two sets of buckets, at a time, that is kept whether or not something happens
to a rule on the left. `Fits id t bs now` says that at `now` a request of the rule `id` may come. -/
structure Ignores (r : String) (Fits : String → Nat → Buckets α → Nat → Prop)
    (R : Nat → Buckets α → Buckets α → Prop) : Prop where
  /-- Nothing happens, but time goes by. -/
  idle : ∀ {id t bs bs' now}, R t bs bs' → Fits id t bs now → R now bs bs'
  /-- The rule takes a token on one side. -/
  take_left : ∀ {t bs bs' now name}, R t bs bs' → Fits r t bs now →
    Buckets.belongsTo name r = true → ∀ l, R now (bs.take name l now).2 bs'
  /-- Another rule takes a token on both sides. -/
  take : ∀ {id t bs bs' now}, R t bs bs' → Fits id t bs now → ∀ name l,
    R now (bs.take name l now).2 (bs'.take name l now).2
  /-- On both sides there is a token, or there is none. -/
  fst_take : ∀ {id t bs bs' now name}, R t bs bs' → Fits id t bs now →
    Buckets.belongsTo name r = false → ∀ l, (bs.take name l now).1 = (bs'.take name l now).1
  drop_left : ∀ {t bs bs'}, R t bs bs' → R t (bs.drop r) bs'
  drop : ∀ {t bs bs'}, R t bs bs' → ∀ id, R t (bs.drop id) (bs'.drop id)

/-- At each point of a run its next request may come. -/
def Along (Fits : String → Nat → Buckets α → Nat → Prop) : Nat → State α → List Use → Prop
  | _, _, [] => True
  | t, s, u :: uses =>
    (∀ moment x selector rule, u = .request moment x selector rule →
      Fits rule.id t s.buckets moment.elapsedNs) ∧ Along Fits (u.time t) (u.after s) uses

namespace Ignores

variable {r q : String} {Fits : String → Nat → Buckets α → Nat → Prop}
variable {R : Nat → Buckets α → Buckets α → Prop} {t : Nat} {s s' : State α} {u : Use}

/-- Something happens to the rule on one side. -/
theorem alone (h : Ignores r Fits R) (hR : R t s.buckets s'.buckets)
    (hu : ∀ moment x selector rule, u = .request moment x selector rule →
      Fits rule.id t s.buckets moment.elapsedNs) (hr : u.rule.id = r) :
    R (u.time t) (u.after s).buckets s'.buckets := by
  subst hr
  cases u with
  | request moment x selector rule =>
      have hfits := hu moment x selector rule rfl
      rw [Use.after, buckets_of_matched, Buckets.grant]
      split
      · exact h.idle hR hfits
      · next l _ => exact h.take_left hR hfits (Buckets.belongsTo_bucketName l rule.id x.client) l
  | written rule =>
      rw [buckets_of_told s (Or.inl rfl)]
      exact h.drop_left hR
  | gone rule =>
      rw [buckets_of_told s (Or.inr rfl)]
      exact h.drop_left hR

/-- Something happens to another rule on both sides. -/
theorem together (h : Ignores r Fits R) (hR : R t s.buckets s'.buckets)
    (hu : ∀ moment x selector rule, u = .request moment x selector rule →
      Fits rule.id t s.buckets moment.elapsedNs) :
    R (u.time t) (u.after s).buckets (u.after s').buckets := by
  cases u with
  | request moment x selector rule =>
      have hfits := hu moment x selector rule rfl
      rw [Use.after, Use.after, buckets_of_matched, buckets_of_matched, Buckets.grant,
        Buckets.grant]
      split
      · exact h.idle hR hfits
      · next l _ => exact h.take hR hfits (l.bucketName rule.id x.client) l
  | written rule =>
      rw [buckets_of_told s (Or.inl rfl), buckets_of_told s' (Or.inl rfl)]
      exact h.drop hR rule.id
  | gone rule =>
      rw [buckets_of_told s (Or.inr rfl), buckets_of_told s' (Or.inr rfl)]
      exact h.drop hR rule.id

/-- The stage says the same on both sides. -/
theorem verdict?_eq (h : Ignores r Fits R) (hR : R t s.buckets s'.buckets)
    (hu : ∀ moment x selector rule, u = .request moment x selector rule →
      Fits rule.id t s.buckets moment.elapsedNs)
    (hnames : ∀ (l : Limit) client, Buckets.belongsTo (l.bucketName u.rule.id client) r = false) :
    u.verdict? s = u.verdict? s' := by
  cases u with
  | request moment x selector rule =>
      have hfits := hu moment x selector rule rfl
      have hgrant : (s.buckets.grant rule x.client moment.elapsedNs).1 =
          (s'.buckets.grant rule x.client moment.elapsedNs).1 := by
        unfold Buckets.grant
        split
        · rfl
        · next l _ => exact congrArg Except.ok (h.fst_take hR hfits (hnames l x.client) l)
      rw [Use.verdict?, Use.verdict?, verdict_of_matched, verdict_of_matched, hgrant]
  | written rule => rfl
  | gone rule => rfl

/-- **What happens to the rule can be left out** of a run without any difference to another rule. -/
theorem verdicts_filter (h : Ignores r Fits R) (hne : r ≠ q)
    (hnames : ∀ (l : Limit) client, Buckets.belongsTo (l.bucketName q client) r = false)
    (uses : List Use) : ∀ {t s s'}, R t s.buckets s'.buckets → Along Fits t s uses →
      verdicts q s uses = verdicts q s' (uses.filter fun u => u.rule.id != r) := by
  induction uses with
  | nil =>
      intro t s s' _ _
      rfl
  | cons u uses ih =>
      intro t s s' hR ⟨hu, huses⟩
      by_cases hr : u.rule.id = r
      · have hq : u.rule.id ≠ q := hr ▸ hne
        rw [List.filter_cons_of_neg (by simp [hr]), verdicts, if_neg hq, List.nil_append]
        exact ih (h.alone hR hu hr) huses
      · rw [List.filter_cons_of_pos (by simp [hr]), verdicts, verdicts,
          ih (h.together hR hu) huses]
        split_ifs with hq
        · rw [h.verdict?_eq hR hu (hq ▸ hnames)]
        · rfl

end Ignores

/-- A run in time never asks for the past. -/
theorem along_of_timely {uses : List Use} {t : Nat} (h : Timely t uses) :
    ∀ s : State α, Along (fun _ t _ now => t ≤ now) t s uses := by
  induction uses generalizing t with
  | nil => exact fun _ => trivial
  | cons u uses ih =>
      intro s
      refine ⟨?_, ih h.2 (u.after s)⟩
      rintro moment x selector rule rfl
      exact h.1

/-- In such a run no use of the rule itself sweeps. -/
theorem along_of_sweptByOthers {r : String} {uses : List Use} {s : State α}
    (h : SweptByOthers r s uses) :
    ∀ t, Along (fun id _ bs now => id = r → now - bs.swept < Buckets.sweepAfter) t s uses := by
  induction uses generalizing s with
  | nil => exact fun _ => trivial
  | cons u uses ih =>
      intro t
      refine ⟨?_, ih h.2 (u.time t)⟩
      rintro moment x selector rule rfl hr
      simpa [Use.sweeps] using h.1 hr

namespace Buckets

/-! ## In any numbers: the same buckets elsewhere -/

/-- Two sets of buckets are the same, but for the buckets of a rule. -/
structure SameElsewhere (r : String) (bs bs' : Buckets α) : Prop where
  swept : bs.swept = bs'.swept
  get? : ∀ name, belongsTo name r = false → bs.table.get? name = bs'.table.get? name

namespace SameElsewhere

variable {r : String} {bs bs' : Buckets α}

theorem sweepIfDue (h : SameElsewhere r bs bs') (now : Nat) :
    SameElsewhere r (bs.sweepIfDue now) (bs'.sweepIfDue now) := by
  unfold Buckets.sweepIfDue
  rw [← h.swept]
  split_ifs
  · exact h
  · refine ⟨rfl, fun name hname => ?_⟩
    rw [get?_sweep, get?_sweep, h.get? name hname]

/-- Where nothing is swept, a token that the rule takes is seen nowhere else. -/
theorem take_left (h : SameElsewhere r bs bs') {now : Nat} (hdue : now - bs.swept < sweepAfter)
    {name : String} (hname : belongsTo name r = true) (l : Limit) :
    SameElsewhere r (bs.take name l now).2 bs' := by
  have hnot : bs.sweepIfDue now = bs := if_pos hdue
  have hswept : (bs.take name l now).2.swept = (bs.sweepIfDue now).swept := rfl
  refine ⟨by rw [hswept, hnot, h.swept], fun other hother => ?_⟩
  rw [get?_take_of_belongsTo hname hother, hnot, h.get? other hother]

theorem take (h : SameElsewhere r bs bs') (name : String) (l : Limit) (now : Nat) :
    SameElsewhere r (bs.take name l now).2 (bs'.take name l now).2 := by
  have hswept := h.sweepIfDue now
  refine ⟨hswept.swept, fun other hother => ?_⟩
  rw [get?_take, get?_take, hswept.get? other hother]
  split_ifs with hname
  · rw [view_congr (hswept.get? name (hname ▸ hother))]
  · rfl

/-- Buckets elsewhere are not told apart as long as the rule does not sweep. -/
theorem ignores (r : String) : Ignores r
    (fun id _ (bs : Buckets α) now => id = r → now - bs.swept < sweepAfter)
    (fun _ => SameElsewhere r) where
  idle h _ := h
  take_left h hfits hname l := h.take_left (hfits rfl) hname l
  take h _ name l := h.take name l _
  fst_take h _ hname l := by
    rw [fst_take, fst_take, view_congr ((h.sweepIfDue _).get? _ hname)]
  drop_left h := ⟨h.swept, fun name hname => (get?_drop_of_not hname).trans (h.get? name hname)⟩
  drop h id := ⟨h.swept, fun name hname => by rw [get?_drop, get?_drop, h.get? name hname]⟩

end SameElsewhere

/-! ## In exact numbers: the same to see -/

/-- From a time on, two sets of buckets look the same, but for the buckets of a rule. -/
structure SameToSee (r : String) (t : Nat) (bs bs' : Buckets Rat) : Prop where
  left : bs.Sound t
  right : bs'.Sound t
  view : ∀ name, belongsTo name r = false → ∀ l now, t ≤ now →
    bs.view name l now = bs'.view name l now

namespace SameToSee

variable {r name : String} {bs bs' : Buckets Rat} {t t' : Nat}

/-- Buckets that are sound look like themselves. -/
theorem refl (r : String) (h : bs.Sound t) : SameToSee r t bs bs :=
  ⟨h, h, fun _ _ _ _ _ => rfl⟩

theorem mono (h : SameToSee r t bs bs') (ht : t ≤ t') : SameToSee r t' bs bs' :=
  ⟨h.left.mono ht, h.right.mono ht,
    fun name hname l now hnow => h.view name hname l now (le_trans ht hnow)⟩

theorem sweepIfDue (h : SameToSee r t bs bs') (ht : t ≤ t') :
    SameToSee r t' (bs.sweepIfDue t') (bs'.sweepIfDue t') where
  left := h.left.sweepIfDue ht
  right := h.right.sweepIfDue ht
  view name hname l now hnow := by
    rw [view_sweepIfDue h.left ht hnow, view_sweepIfDue h.right ht hnow]
    exact h.view name hname l now (le_trans ht hnow)

/-- The rule takes a token on one side. -/
theorem take_left (h : SameToSee r t bs bs') (ht : t ≤ t') (hname : belongsTo name r = true)
    (l : Limit) : SameToSee r t' (bs.take name l t').2 bs' where
  left := h.left.take ht name l
  right := h.right.mono ht
  view other hother k now hnow := by
    rw [view_congr (get?_take_of_belongsTo hname hother l t'), view_sweepIfDue h.left ht hnow]
    exact h.view other hother k now (le_trans ht hnow)

/-- Another rule takes a token on both sides. -/
theorem take (h : SameToSee r t bs bs') (ht : t ≤ t') (name : String) (l : Limit) :
    SameToSee r t' (bs.take name l t').2 (bs'.take name l t').2 where
  left := h.left.take ht name l
  right := h.right.take ht name l
  view other hother k now hnow := by
    have hswept := h.sweepIfDue ht
    by_cases hname : other = name
    · have hget : (bs.take name l t').2.table.get? other =
          (bs'.take name l t').2.table.get? other := by
        rw [get?_take, get?_take, if_pos hname, if_pos hname,
          hswept.view name (hname ▸ hother) l t' (le_refl t')]
      exact view_congr hget k now
    · have hleft : (bs.take name l t').2.table.get? other =
          (bs.sweepIfDue t').table.get? other := by rw [get?_take, if_neg hname]
      have hright : (bs'.take name l t').2.table.get? other =
          (bs'.sweepIfDue t').table.get? other := by rw [get?_take, if_neg hname]
      rw [view_congr hleft, view_congr hright]
      exact hswept.view other hother k now hnow

/-- The buckets of another rule are dropped on both sides. -/
theorem drop (h : SameToSee r t bs bs') (rule : String) :
    SameToSee r t (bs.drop rule) (bs'.drop rule) where
  left := h.left.drop rule
  right := h.right.drop rule
  view name hname l now hnow := by
    cases hrule : belongsTo name rule with
    | true =>
        have hget : (bs.drop rule).table.get? name = (bs'.drop rule).table.get? name := by
          rw [get?_drop, get?_drop, if_pos hrule, if_pos hrule]
        exact view_congr hget l now
    | false =>
        rw [view_congr (get?_drop_of_not hrule), view_congr (get?_drop_of_not hrule)]
        exact h.view name hname l now hnow

/-- Whether some buckets are swept and when, they are not told apart by what there is to see. -/
theorem ignores (r : String) : Ignores r (fun _ t _ now => t ≤ now) (SameToSee r) where
  idle h ht := h.mono ht
  take_left h ht hname l := h.take_left ht hname l
  take h ht name l := h.take ht name l
  fst_take h ht hname l := by
    rw [fst_take, fst_take, (h.sweepIfDue ht).view _ hname l _ (le_refl _)]
  drop_left h := ⟨h.left.drop r, h.right, fun name hname l now hnow =>
    (view_congr (get?_drop_of_not hname) l now).trans (h.view name hname l now hnow)⟩
  drop h := h.drop

end SameToSee

end Buckets

/-! ## Isolation -/

open Buckets

/-- What another rule has to do with a rule: nothing. -/
structure Isolated (r q : String) : Prop where
  /-- No bucket is for requests of both, whoever sends them. -/
  buckets : ∀ (l l' : Limit) client client', l.bucketName r client ≠ l'.bucketName q client'
  /-- When the one is written or gone, the buckets of the other stay. -/
  kept : ∀ (s : State) (rule : Rule), rule.id = r → ∀ u : Use, u = .written rule ∨ u = .gone rule →
    ∀ (l : Limit) client, (u.after s).buckets.table.get? (l.bucketName q client) =
      s.buckets.table.get? (l.bucketName q client)
  /-- The other's requests are admitted or not as if there were no first rule, in any run in which
  it does not do the sweeping, -/
  verdicts : ∀ (s : State) (uses : List Use), SweptByOthers r s uses →
    verdicts q s uses = verdicts q s (uses.filter fun u => u.rule.id != r)
  /-- and in any run whatever, if tokens are counted in exact numbers. -/
  exactly : ∀ (t : Nat) (s : State Rat) (uses : List Use), s.buckets = .empty t → Timely t uses →
    Throttle.verdicts q s uses = Throttle.verdicts q s (uses.filter fun u => u.rule.id != r)

/-- Rules whose ids do not extend each other share neither buckets nor drops. -/
theorem Isolated.of_not_extends {r q : String} (hne : r ≠ q) (hq : ¬ Extends q r)
    (hr : ¬ Extends r q) : Isolated r q where
  buckets l l' client client' hname := by
    have hbelongs := belongsTo_bucketName l r client
    rw [hname, belongsTo_bucketName_eq_false hne hq hr] at hbelongs
    cases hbelongs
  kept s rule hrule u hu l client := by
    rw [buckets_of_told s hu, hrule]
    exact get?_drop_of_not (belongsTo_bucketName_eq_false hne hq hr l client)
  verdicts s uses hswept := by
    have hsame : SameElsewhere r s.buckets s.buckets := ⟨rfl, fun _ _ => rfl⟩
    exact (SameElsewhere.ignores r).verdicts_filter hne (belongsTo_bucketName_eq_false hne hq hr)
      uses hsame (along_of_sweptByOthers hswept 0)
  exactly t s uses hempty htimely := by
    have hsound : s.buckets.Sound t := hempty ▸ Sound.empty t
    exact (SameToSee.ignores r).verdicts_filter hne (belongsTo_bucketName_eq_false hne hq hr)
      uses (SameToSee.refl r hsound) (along_of_timely htimely s)

/-- **Rules are isolated exactly if neither id is the other with a colon and more behind it.** -/
theorem isolated_iff {r q : String} (hne : r ≠ q) :
    Isolated r q ↔ ¬ Extends q r ∧ ¬ Extends r q := by
  constructor
  · intro h
    constructor
    · rintro ⟨rest, rfl⟩
      -- a client named like the rest shares the bucket of all clients of the longer rule
      exact h.buckets { Limit.default with sharing := .client } .default rest "" rfl
    · rintro ⟨rest, rfl⟩
      exact h.buckets .default { Limit.default with sharing := .client } "" rest rfl
  · rintro ⟨hq, hr⟩
    exact .of_not_extends hne hq hr

/-- The rules of two versions are isolated from each other, but not from the rule of all. -/
theorem isolated_iff_versions : "api:v1" ≠ "api:v2" ∧ Isolated "api:v1" "api:v2" ∧
    "api" ≠ "api:v1" ∧ ¬ Isolated "api" "api:v1" := by
  have hne : "api:v1" ≠ "api:v2" := by decide
  have hshort : "api" ≠ "api:v1" := by decide
  refine ⟨hne, (isolated_iff hne).2 ⟨?_, ?_⟩, hshort, fun h => ((isolated_iff hshort).1 h).1 ?_⟩
  · exact not_extends_of_belongsTo (by decide)
  · exact not_extends_of_belongsTo (by decide)
  · exact ⟨"v1", rfl⟩

/-- A rule that admits one request, and no more until it has gained a token. -/
def onceAt (rate id : String) : Rule where
  id := id
  selectorId := "s"
  stage := throttleStage
  name := ""
  mode := .all
  sort := 0
  enabled := true
  conditions := []
  handle := some ("\x7b\"burstCapacity\":1,\"replenishRate\":" ++ rate ++ "\x7d")

/-- A rule that admits one request and no more. -/
def once (id : String) : Rule := onceAt "0" id

/-- Two requests of a rule, and in between a rule is written whose id is the first part of its. -/
def betweenRequests : List Use :=
  let request := .request ⟨0, 0, 0⟩ default default (once "api:v1")
  [request, .written (once "api"), request]

def admits : Verdict → Bool
  | .proceed => true
  | _ => false

/-- The second request is admitted because the other rule was written. -/
theorem not_isolated : ¬ ∀ r q : String, r ≠ q → Isolated r q := by
  intro h
  have hverdicts := (h "api" "api:v1" (by decide)).verdicts
    (.initial [] (.ofAnswers fun _ => default) 0) betweenRequests
    (by decide +kernel)
  have hadmits := congrArg (List.map admits) hverdicts
  revert hadmits
  decide +kernel

/-- A rule that gains a token in 36 seconds. Another rule has a request in between, after 30 seconds,
when it is time to sweep. -/
def aroundSweep : List Use :=
  let request (seconds : Nat) (rule : Rule) : Use :=
    .request ⟨0, seconds * Number.nanosPerSecond, 0⟩ default default rule
  let slow := onceAt "0.027777777777777776" "slow"
  [request 0 slow, request 30 (once "other"), request 36 slow]

/-- **In doubles a sweep can be seen.** In two parts the rule gains 0.8333333333333333 and
0.16666666666666666, of which the sum is 0.9999999999999999, and its second request is not admitted. -/
theorem verdicts_differ_at_a_sweep : ¬ Extends "slow" "other" ∧ ¬ Extends "other" "slow" ∧
    let s : State := .initial [] (.ofAnswers fun _ => default) 0
    (verdicts "slow" s aroundSweep).map admits = [true, false] ∧
      (verdicts "slow" s (aroundSweep.filter fun u => u.rule.id != "other")).map admits =
        [true, true] := by
  refine ⟨?_, ?_, ?_, ?_⟩
  · exact not_extends_of_belongsTo (by decide)
  · exact not_extends_of_belongsTo (by decide)
  · decide +kernel
  · decide +kernel

end Gatehouse.Throttle
