import Gatehouse.Proofs.Throttle.Isolation
import Mathlib.Data.List.DropRight
import Mathlib.Data.Rat.Floor

/-!
# What a bucket admits while the clock stands still

Without time nothing is gained, so a bucket gives away what it was full of: as many tokens as there
are whole ones in its capacity, counted in exact numbers. With a capacity of 2.5 and three requests in the same bucket,

    tokens      2.5        1.5        0.5        0.5
    request          ✓          ✓          429
                                                       rule written: 2.5

A bucket is full when it is made, and it is made anew when its rule is written or gone or when a
request comes with another limit (`Use.renews`). Which requests have drawn from it since then is
read off the history alone (`drawn`), and the bucket is told by their number (`Counted`), whatever
else happens: requests in other buckets, at other times or with handles that cannot be read, and
sweeps. So **a request is admitted exactly if fewer have drawn than there are whole tokens**
(`verdict_of_drawn`).
-/

namespace Gatehouse.Throttle

open Chain Gateway Stages
open Number (Counting)

variable {α : Type} [Counting α]

/-! ## Limits -/

namespace Limit

/-- Limits for which the same buckets are good. -/
def Like (l k : Limit) : Prop :=
  atLeastZero l.rate.toRat = atLeastZero k.rate.toRat ∧
    atLeastZero l.capacity.toRat = atLeastZero k.capacity.toRat

instance (l k : Limit) : Decidable (l.Like k) := inferInstanceAs (Decidable (_ ∧ _))

variable {l k : Limit}

theorem Like.allows_eq (h : l.Like k) (b : Bucket Rat) : l.allows b = k.allows b := by
  rw [Bool.eq_iff_iff, allows_iff, allows_iff, h.1, h.2]

theorem Like.bucket_eq (h : l.Like k) (now : Nat) :
    (l.bucket now : Bucket Rat) = k.bucket now := by
  rw [l.bucket_eq, k.bucket_eq, h.1, h.2]

theorem allows_bucket (l : Limit) (now : Nat) : l.allows (l.bucket now : Bucket Rat) = true :=
  allows_iff.2 ⟨rfl, rfl⟩

/-- A bucket is good for two limits only if they are alike. -/
theorem like_of_allows {b : Bucket Rat} (hl : l.allows b = true) (hk : k.allows b = true) :
    l.Like k := by
  rw [allows_iff] at hl hk
  exact ⟨hl.1.symm.trans hk.1, hl.2.symm.trans hk.2⟩

/-- How many whole tokens a full bucket holds. -/
def quota (l : Limit) : Nat := ⌊max l.capacity.toRat 0⌋₊

theorem atLeastZero_eq_max (x : Rat) : atLeastZero x = max x 0 := by
  unfold atLeastZero
  split_ifs with h
  · exact (max_eq_left h).symm
  · exact (max_eq_right (not_le.1 h).le).symm

theorem quota_le (l : Limit) : (l.quota : Rat) ≤ atLeastZero l.capacity.toRat := by
  rw [atLeastZero_eq_max]
  exact Nat.floor_le (le_max_right _ _)

theorem lt_quota_add_one (l : Limit) : atLeastZero l.capacity.toRat < l.quota + 1 := by
  rw [atLeastZero_eq_max]
  exact Nat.lt_floor_add_one _

/-- A bucket that was full and has given away tokens for some requests. -/
def left (l : Limit) (requests now : Nat) : Bucket Rat :=
  { l.bucket now with
    tokens := atLeastZero l.capacity.toRat - (min requests l.quota : Nat) }

theorem left_zero (l : Limit) (now : Nat) : l.left 0 now = l.bucket now := by
  rw [left, l.bucket_eq, Nat.zero_min, Nat.cast_zero, sub_zero]

/-- A token is left exactly as long as the quota is not used up. -/
theorem one_le_left (l : Limit) (requests now : Nat) :
    1 ≤ (l.left requests now).tokens ↔ requests < l.quota := by
  have hle := l.quota_le
  have hlt := l.lt_quota_add_one
  show 1 ≤ atLeastZero l.capacity.toRat - (min requests l.quota : Nat) ↔ _
  constructor
  · intro h
    by_contra hge
    rw [min_eq_right (not_lt.1 hge)] at h
    linarith
  · intro h
    have hnext : ((requests + 1 : Nat) : Rat) ≤ l.quota := Nat.cast_le.2 h
    rw [min_eq_left h.le]
    push_cast at hnext
    linarith

/-- A request takes a token as long as there is a whole one, and counts in any case. -/
theorem draw_left (l : Limit) (requests now : Nat) :
    (l.left requests now).draw = (decide (requests < l.quota), l.left (requests + 1) now) := by
  have hone := l.one_le_left requests now
  unfold Bucket.draw
  by_cases h : requests < l.quota
  · rw [if_pos (hone.2 h), decide_eq_true h]
    have hrest : atLeastZero l.capacity.toRat - (min requests l.quota : Nat) - 1 =
        atLeastZero l.capacity.toRat - (min (requests + 1) l.quota : Nat) := by
      rw [min_eq_left h.le, min_eq_left (Nat.succ_le_of_lt h)]
      push_cast
      ring
    simp only [left, Prod.mk.injEq, true_and, Bucket.mk.injEq, and_true]
    exact hrest
  · rw [if_neg (hone.not.2 h), decide_eq_false h]
    have hge : l.quota ≤ requests := not_lt.1 h
    simp only [left]
    rw [min_eq_right hge, min_eq_right (le_trans hge (Nat.le_succ requests))]

/-- Nothing is gained while the clock stands still. -/
theorem refill_left (l : Limit) (requests now : Nat) :
    (l.left requests now).refill now = l.left requests now := by
  apply Bucket.refill_seen
  show atLeastZero l.capacity.toRat - (min requests l.quota : Nat) ≤ atLeastZero l.capacity.toRat
  exact sub_le_self _ (Nat.cast_nonneg _)

end Limit

/-! ## Buckets as they are seen -/

theorem Limit.allows_draw (l : Limit) (b : Bucket Rat) : l.allows b.draw.2 = l.allows b := by
  unfold Bucket.draw
  split_ifs <;> rfl

namespace Buckets

variable {bs : Buckets Rat} {name : String} {l k : Limit} {now : Nat}

/-- What is seen is good for the limit that it is seen with. -/
theorem allows_view (bs : Buckets Rat) (name : String) (l : Limit) (now : Nat) :
    l.allows (bs.view name l now) = true := by
  show l.allows (bs.bucketFor name l now) = true
  unfold bucketFor
  split
  · split_ifs with h
    · exact h
    · exact l.allows_bucket now
  · exact l.allows_bucket now

theorem view_like (h : l.Like k) (bs : Buckets Rat) (name : String) (now : Nat) :
    bs.view name l now = bs.view name k now := by
  simp only [view, bucketFor, h.allows_eq, h.bucket_eq]

theorem view_of_none (h : bs.table.get? name = none) : bs.view name l now = l.bucket now := by
  simp only [view, bucketFor, h, l.refill_bucket]

/-- A bucket of another limit counts as none. -/
theorem view_of_not_allows {b : Bucket Rat} (h : bs.table.get? name = some b)
    (hb : l.allows b = false) : bs.view name l now = l.bucket now := by
  simp only [view, bucketFor, h, hb, Bool.false_eq_true, if_false, l.refill_bucket]

theorem view_of_allows {b : Bucket Rat} (h : bs.table.get? name = some b)
    (hb : l.allows b = true) : bs.view name l now = b.refill now := by
  simp only [view, bucketFor, h, hb, if_true]

/-- What is left in a bucket is good for the limit of the request that drew from it. -/
theorem exists_get?_take (bs : Buckets Rat) (name : String) (l : Limit) (now : Nat) :
    ∃ b, (bs.take name l now).2.table.get? name = some b ∧
      b = ((bs.sweepIfDue now).view name l now).draw.2 ∧ l.allows b = true := by
  refine ⟨_, (get?_take ..).trans (if_pos rfl), rfl, ?_⟩
  rw [Limit.allows_draw]
  exact allows_view _ name l now

end Buckets

/-! ## Histories -/

namespace Use

/-- The bucket that a request draws from, and the limit of its rule; nothing if the handle of the
rule cannot be read. -/
def draws? : Use → Option (String × Limit)
  | request _ x _ rule =>
    match parseHandle Limit.decode .default rule.handle with
    | .ok l => some (l.bucketName rule.id x.client, l)
    | .error _ => none
  | _ => none

/-- Whether a request draws from the bucket of a name. -/
def draws (name : String) (u : Use) : Bool := u.draws?.any fun d => d.1 == name

/-- Whether the bucket of a name is made anew for a limit: its rule is written or gone, or a
request draws from it with another limit. -/
def renews (name : String) (l : Limit) : Use → Bool
  | u@(request ..) => u.draws?.any fun d => d.1 == name && !decide (l.Like d.2)
  | written rule | gone rule => Buckets.belongsTo name rule.id

variable {name other : String} {l k : Limit} {u : Use}

/-- A use that draws is a request of a rule with a readable limit. -/
theorem exists_of_draws? (h : u.draws? = some (name, l)) : ∃ moment x selector rule,
    u = request moment x selector rule ∧
      parseHandle Limit.decode .default rule.handle = .ok l ∧
      l.bucketName rule.id x.client = name := by
  cases u with
  | request moment x selector rule =>
      rw [draws?] at h
      split at h
      · next k hlimit =>
          obtain ⟨rfl, rfl⟩ := Prod.mk.inj (Option.some.inj h)
          exact ⟨moment, x, selector, rule, rfl, hlimit, rfl⟩
      · cases h
  | written | gone => cases h

theorem draws_of_draws? (h : u.draws? = some (other, k)) : u.draws name = (other == name) := by
  rw [draws, h]
  rfl

theorem renews_of_draws? (h : u.draws? = some (other, k)) :
    u.renews name l = (other == name && !decide (l.Like k)) := by
  obtain ⟨moment, x, selector, rule, rfl, -⟩ := exists_of_draws? h
  rw [renews, h, Option.any_some]

/-- Only requests draw, and they have a time of their own. -/
theorem time_of_draws? (h : u.draws? = some (other, k)) (t t' : Nat) : u.time t = u.time t' := by
  obtain ⟨moment, x, selector, rule, rfl, -⟩ := exists_of_draws? h
  rfl

end Use

/-- The requests that have drawn from the bucket of a name since it was made anew for a limit. -/
def drawn (name : String) (l : Limit) (history : List Use) : List Use :=
  (history.rtakeWhile fun u => !u.renews name l).filter fun u => u.draws name

/-- The clock reads this time at all requests. -/
def Still (now : Nat) (uses : List Use) : Prop := ∀ u ∈ uses, u.time now = now

instance (now : Nat) (uses : List Use) : Decidable (Still now uses) :=
  inferInstanceAs (Decidable (∀ u ∈ uses, u.time now = now))

def afterAll (s : State α) (uses : List Use) : State α := uses.foldl Use.after s

def timeAfter (t : Nat) (uses : List Use) : Nat := uses.foldl (fun t u => u.time t) t

section Histories

variable {name : String} {l k : Limit} {history : List Use} {u : Use} {t : Nat}

theorem drawn_of_renews (h : u.renews name l = true) : drawn name l (history ++ [u]) = [] := by
  rw [drawn, List.rtakeWhile_concat_neg _ _ _ (by simp [h])]
  rfl

/-- A use that does not renew the bucket is counted, if it draws from it. -/
theorem drawn_of_not_renews (h : u.renews name l = false) :
    drawn name l (history ++ [u]) = drawn name l history ++ if u.draws name then [u] else [] := by
  rw [drawn, List.rtakeWhile_concat_pos _ _ _ (by simp [h]), List.filter_append, drawn]
  cases hdraws : u.draws name <;> simp [hdraws]

theorem timely_append {uses later : List Use} : Timely t (uses ++ later) ↔
    Timely t uses ∧ Timely (timeAfter t uses) later := by
  induction uses generalizing t with
  | nil => simp [Timely, timeAfter]
  | cons u uses ih =>
      show _ ∧ Timely (u.time t) (uses ++ later) ↔ (_ ∧ Timely (u.time t) uses) ∧ _
      rw [ih, and_assoc]
      rfl

end Histories

/-! ## Counting -/

theorem grant_of_error {bs : Buckets α} {rule : Rule} {client : String} {now : Nat} {e : ConfigFault}
    (h : parseHandle Limit.decode .default rule.handle = .error e) :
    bs.grant rule client now = (.error e, bs) := by
  rw [Buckets.grant, h]

theorem grant_of_ok {bs : Buckets α} {rule : Rule} {client : String} {now : Nat} {l : Limit}
    (h : parseHandle Limit.decode .default rule.handle = .ok l) :
    bs.grant rule client now = (.ok (bs.take (l.bucketName rule.id client) l now).1,
      (bs.take (l.bucketName rule.id client) l now).2) := by
  rw [Buckets.grant, h]

/-- The bucket of a name is told by the number of requests that have drawn from it, at any later
time at which all of them have. -/
structure Counted (name : String) (l : Limit) (history : List Use) (t : Nat) (bs : Buckets Rat) :
    Prop where
  sound : bs.Sound t
  view : ∀ now, t ≤ now → Still now (drawn name l history) →
    bs.view name l now = l.left (drawn name l history).length now

namespace Counted

variable {name other : String} {l k : Limit} {history : List Use} {u : Use} {t now : Nat}
variable {bs : Buckets Rat} {s : State Rat}

/-- A bucket that is not there has not been drawn from. -/
theorem start (hsound : bs.Sound t) (hnone : bs.table.get? name = none) :
    Counted name l [] t bs where
  sound := hsound
  view now _ _ := by
    rw [Buckets.view_of_none hnone]
    exact (l.left_zero now).symm

/-- Nothing happens to the bucket. -/
theorem keep {bs' : Buckets Rat} {t' : Nat} (h : Counted name l history t bs) (ht : t ≤ t')
    (hsound : bs'.Sound t') (hview : ∀ now, t' ≤ now → bs'.view name l now = bs.view name l now)
    (hrenews : u.renews name l = false) (hdraws : u.draws name = false) :
    Counted name l (history ++ [u]) t' bs' where
  sound := hsound
  view now hnow hstill := by
    rw [drawn_of_not_renews hrenews, hdraws] at hstill ⊢
    simp only [Bool.false_eq_true, if_false, List.append_nil] at hstill ⊢
    rw [hview now hnow]
    exact h.view now (le_trans ht hnow) hstill

/-- The bucket is made anew. -/
theorem renew {bs' : Buckets Rat} {t' : Nat} (hsound : bs'.Sound t')
    (hview : ∀ now, t' ≤ now → bs'.view name l now = l.bucket now)
    (hrenews : u.renews name l = true) : Counted name l (history ++ [u]) t' bs' where
  sound := hsound
  view now hnow _ := by
    rw [drawn_of_renews hrenews, hview now hnow]
    exact (l.left_zero now).symm

/-- A rule is written or gone. -/
theorem told (h : Counted name l history t s.buckets) {rule : Rule}
    (hu : u = .written rule ∨ u = .gone rule) :
    Counted name l (history ++ [u]) t (u.after s).buckets := by
  have hrenews : u.renews name l = Buckets.belongsTo name rule.id := by
    rcases hu with rfl | rfl <;> rfl
  have hdraws : u.draws name = false := by
    rcases hu with rfl | rfl <;> rfl
  rw [buckets_of_told s hu]
  cases hbelongs : Buckets.belongsTo name rule.id with
  | true =>
      refine renew (h.sound.drop rule.id) (fun now _ => ?_) (hrenews.trans hbelongs)
      apply Buckets.view_of_none
      rw [Buckets.get?_drop, if_pos hbelongs]
  | false =>
      refine h.keep (le_refl t) (h.sound.drop rule.id) (fun now _ => ?_)
        (hrenews.trans hbelongs) hdraws
      exact Buckets.view_congr (Buckets.get?_drop_of_not hbelongs) l now

/-- A request draws from another bucket. -/
theorem take_other (h : Counted name l history t bs) (ht : t ≤ u.time t)
    (hu : u.draws? = some (other, k)) (hname : name ≠ other) :
    Counted name l (history ++ [u]) (u.time t) (bs.take other k (u.time t)).2 := by
  have hne : (other == name) = false := beq_eq_false_iff_ne.2 hname.symm
  have hrenews : u.renews name l = false := by rw [Use.renews_of_draws? hu, hne, Bool.false_and]
  have hdraws : u.draws name = false := (Use.draws_of_draws? hu).trans hne
  refine h.keep ht (h.sound.take ht other k) (fun now hnow => ?_) hrenews hdraws
  have hget : (bs.take other k (u.time t)).2.table.get? name =
      (bs.sweepIfDue (u.time t)).table.get? name := by
    rw [Buckets.get?_take, if_neg hname]
  rw [Buckets.view_congr hget, Buckets.view_sweepIfDue h.sound ht hnow]

/-- A request with another limit makes the bucket anew. -/
theorem take_unlike (h : Counted name l history t bs) (ht : t ≤ u.time t)
    (hu : u.draws? = some (name, k)) (hlike : ¬ l.Like k) :
    Counted name l (history ++ [u]) (u.time t) (bs.take name k (u.time t)).2 := by
  have hrenews : u.renews name l = true := by simp [Use.renews_of_draws? hu, hlike]
  refine renew (h.sound.take ht name k) (fun now _ => ?_) hrenews
  obtain ⟨b, hget, -, hallows⟩ := bs.exists_get?_take name k (u.time t)
  refine Buckets.view_of_not_allows hget ?_
  rw [Bool.eq_false_iff]
  intro hl
  exact hlike (Limit.like_of_allows hl hallows)

/-- A request with a limit like this one counts. -/
theorem take_like (h : Counted name l history t bs) (ht : t ≤ u.time t)
    (hu : u.draws? = some (name, k)) (hlike : l.Like k) :
    Counted name l (history ++ [u]) (u.time t) (bs.take name k (u.time t)).2 := by
  have hrenews : u.renews name l = false := by simp [Use.renews_of_draws? hu, hlike]
  have hdraws : u.draws name = true := by simp [Use.draws_of_draws? hu]
  refine ⟨h.sound.take ht name k, fun now hnow hstill => ?_⟩
  rw [drawn_of_not_renews hrenews, if_pos hdraws] at hstill ⊢
  obtain ⟨hbefore, hown⟩ := List.forall_mem_append.1 hstill
  -- the request has drawn as well, so its time is the time of all of them
  obtain rfl : now = u.time t :=
    (hown u List.mem_cons_self).symm.trans (Use.time_of_draws? hu now t)
  obtain ⟨b, hget, hb, hallows⟩ := bs.exists_get?_take name k (u.time t)
  have hseen : (bs.sweepIfDue (u.time t)).view name k (u.time t) =
      l.left (drawn name l history).length (u.time t) := by
    rw [← Buckets.view_like hlike, Buckets.view_sweepIfDue h.sound ht (le_refl _)]
    exact h.view _ ht hbefore
  rw [hseen, Limit.draw_left] at hb
  rw [Buckets.view_of_allows hget (hlike.allows_eq b ▸ hallows), hb, Limit.refill_left,
    List.length_append, List.length_singleton]

/-- **Steps**: whatever happens, the requests that have drawn are counted. -/
theorem after (h : Counted name l history t s.buckets) (ht : t ≤ u.time t) :
    Counted name l (history ++ [u]) (u.time t) (u.after s).buckets := by
  cases u with
  | written rule => exact h.told (Or.inl rfl)
  | gone rule => exact h.told (Or.inr rfl)
  | request moment x selector rule =>
      rw [Use.after, buckets_of_matched]
      -- without a limit that can be read nothing is drawn
      cases hlimit : parseHandle Limit.decode .default rule.handle with
      | error e =>
          have hdraws : (Use.request moment x selector rule).draws? = none := by
            rw [Use.draws?, hlimit]
          rw [grant_of_error hlimit]
          refine h.keep ht (h.sound.mono ht) (fun _ _ => rfl) ?_ ?_
          · rw [Use.renews, hdraws, Option.any_none]
          · rw [Use.draws, hdraws, Option.any_none]
      | ok k =>
          have hdraws : (Use.request moment x selector rule).draws? =
              some (k.bucketName rule.id x.client, k) := by
            rw [Use.draws?, hlimit]
          rw [grant_of_ok hlimit]
          by_cases hname : name = k.bucketName rule.id x.client
          · subst hname
            by_cases hlike : l.Like k
            · exact h.take_like ht hdraws hlike
            · exact h.take_unlike ht hdraws hlike
          · exact h.take_other ht hdraws hname

/-- **Runs**: the requests that have drawn stay counted. -/
theorem afterAll (uses : List Use) : ∀ {history t s}, Counted name l history t s.buckets →
    Timely t uses →
      Counted name l (history ++ uses) (timeAfter t uses) (afterAll s uses).buckets := by
  induction uses with
  | nil =>
      intro history t s h _
      rw [List.append_nil]
      exact h
  | cons u uses ih =>
      intro history t s h ⟨ht, huses⟩
      have hrest := ih (h.after ht) huses
      rw [List.append_assoc] at hrest
      exact hrest

/-- A draw succeeds exactly as long as fewer were made than the quota allows. -/
theorem fst_take (h : Counted name l history t bs) (ht : t ≤ now)
    (hstill : Still now (drawn name l history)) :
    (bs.take name l now).1 = decide ((drawn name l history).length < l.quota) := by
  rw [Buckets.fst_take, Buckets.view_sweepIfDue h.sound ht (le_refl now), h.view now ht hstill,
    Limit.draw_left]

end Counted

/-! ## Quotas -/

theorem admission_decide (p : Prop) [Decidable p] :
    admission (.ok (decide p)) = if p then .proceed else .respond tooMany := by
  split_ifs with h
  · rw [decide_eq_true h]
    rfl
  · rw [decide_eq_false h]
    rfl

/-- **Quotas.** Of the requests that have drawn from a bucket since it was made, all at one time,
the first ones are admitted, as many as there are whole tokens in the capacity, and all others are
told that there were too many. What happens to other buckets makes no difference. -/
theorem verdict_of_drawn {t now : Nat} {s : State Rat} {before history : List Use} {u : Use}
    {name : String} {l : Limit} (hempty : s.buckets = .empty t)
    (htimely : Timely t (before ++ (history ++ [u]))) (hu : u.draws? = some (name, l))
    (hmade : (afterAll s before).buckets.table.get? name = none)
    (hstill : Still now (drawn name l history ++ [u])) :
    u.verdict? (afterAll s (before ++ history)) =
        some (if (drawn name l history).length < ⌊max l.capacity.toRat 0⌋₊ then .proceed
          else .respond tooMany) ∧
      tooMany.status = 429 := by
  obtain ⟨hfirst, hlater⟩ := timely_append.1 htimely
  obtain ⟨hhistory, hnow, -⟩ := timely_append.1 hlater
  obtain ⟨hdrawn, hown⟩ := List.forall_mem_append.1 hstill
  obtain ⟨moment, x, selector, rule, rfl, hlimit, rfl⟩ := Use.exists_of_draws? hu
  obtain rfl : moment.elapsedNs = now := hown _ List.mem_cons_self
  have hstart : Counted (l.bucketName rule.id x.client) l [] t s.buckets :=
    .start (hempty ▸ .empty t) (hempty ▸ rfl)
  have hmiddle : Counted (l.bucketName rule.id x.client) l [] (timeAfter t before)
      (afterAll s before).buckets := .start (hstart.afterAll before hfirst).sound hmade
  have hrun := hmiddle.afterAll history hhistory
  rw [List.nil_append, afterAll, afterAll, ← List.foldl_append, ← afterAll] at hrun
  replace hnow : timeAfter (timeAfter t before) history ≤ moment.elapsedNs := hnow
  have htaken := hrun.fst_take hnow hdrawn
  refine ⟨?_, rfl⟩
  rw [Use.verdict?, verdict_of_matched, grant_of_ok hlimit, htaken, admission_decide, Limit.quota]

/-- A rule that admits two requests and a half. -/
def burst : Rule := { once "api" with handle := some "\x7b\"burstCapacity\":2.5\x7d" }

/-- The third request in the bucket is too many, whatever has happened to other rules. -/
theorem verdict_of_drawn_burst :
    let s : State Rat := .initial [] (.ofAnswers fun _ => default) 0
    let request : Use := .request ⟨0, 0, 0⟩ default default burst
    let history : List Use := [request, .request ⟨0, 0, 0⟩ default default (once "web"),
      .written (once "api:v1"), request]
    let l : Limit := ⟨.ofNat 1, ⟨false, 5 * 2 ^ 50, -51⟩, .everyone⟩
    s.buckets = .empty 0 ∧ Timely 0 (history ++ [request]) ∧ request.draws? = some ("api", l) ∧
      (afterAll s []).buckets.table.get? "api" = none ∧
      Still 0 (drawn "api" l history ++ [request]) ∧
      request.verdict? (afterAll s history) = some (.respond tooMany) := by
  intro s request history l
  have htimely : Timely 0 ([] ++ (history ++ [request])) :=
    ⟨le_refl 0, le_refl 0, le_refl 0, le_refl 0, le_refl 0, trivial⟩
  have hdraws : request.draws? = some ("api", l) := by decide +kernel
  have hstill : Still 0 (drawn "api" l history ++ [request]) := by decide +kernel
  have hlength : (drawn "api" l history).length = 2 := by decide +kernel
  have hfloor : ⌊max l.capacity.toRat 0⌋₊ = 2 := by
    have hcapacity : l.capacity.toRat = 5 / 2 := by decide +kernel
    rw [hcapacity, Nat.floor_eq_iff (le_max_right _ _)]
    norm_num
  refine ⟨rfl, htimely, hdraws, rfl, hstill, ?_⟩
  have hempty : s.buckets = .empty 0 := rfl
  have hverdict := (verdict_of_drawn hempty htimely hdraws rfl hstill).1
  rw [hlength, hfloor] at hverdict
  exact hverdict

end Gatehouse.Throttle
