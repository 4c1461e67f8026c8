import Gatehouse.Proofs.Throttle.Buckets
import Mathlib.Algebra.Order.Field.Rat
import Mathlib.Tactic.Linarith
import Mathlib.Tactic.Ring

/-!
# Buckets in exact numbers

Tokens are gained all the time but added only when a bucket is looked at. If they are counted in
exact numbers it makes no difference when that is:

    looked at at       0 s             30 s            36 s
    tokens             0  ─────────────────────────▶   0 + 36 r
                       0  ────────▶  0 + 30 r  ────▶  (0 + 30 r) + 6 r

So **it is not seen when buckets are swept** (`view_sweep`): one that stays is the same to look at,
and one that is swept would be as full at the next request as the new one in its place. In doubles
both additions in the lower line are rounded, and the sums may differ.
-/

namespace Gatehouse.Throttle

/-! ## Refilling -/

theorem atLeastZero_nonneg (x : Rat) : 0 ≤ atLeastZero x := by
  unfold atLeastZero
  split_ifs with h
  · exact h
  · exact le_refl 0

theorem same_iff {x y : Rat} : same x y = true ↔ x = y := by
  rw [same, Bool.and_eq_true, decide_eq_true_iff, decide_eq_true_iff, le_antisymm_iff]

namespace Bucket

variable {b : Bucket Rat} {t now : Nat}

/-- The tokens that a bucket has gained by some time. -/
def gained (b : Bucket Rat) (now : Nat) : Rat :=
  mkRat (now - b.seen : Nat) Number.nanosPerSecond * b.rate

theorem refill_eq (b : Bucket Rat) (now : Nat) : b.refill now =
    ⟨b.rate, b.capacity, atMost b.capacity (b.tokens + b.gained now), now⟩ := rfl

theorem gained_nonneg (h : 0 ≤ b.rate) (now : Nat) : 0 ≤ b.gained now := by
  have htime : (0 : Rat) ≤ mkRat (now - b.seen : Nat) Number.nanosPerSecond :=
    Rat.mkRat_nonneg (Int.natCast_nonneg _) _
  exact mul_nonneg htime h

/-- What is gained until a later time is gained in two parts. -/
theorem gained_add (hseen : b.seen ≤ t) (hnow : t ≤ now) :
    b.gained now = b.gained t + (b.refill t).gained now := by
  have hparts : now - b.seen = (t - b.seen) + (now - t) := by omega
  have hsum : mkRat (now - b.seen : Nat) Number.nanosPerSecond =
      mkRat (t - b.seen : Nat) Number.nanosPerSecond +
        mkRat (now - t : Nat) Number.nanosPerSecond := by
    rw [hparts]
    simp only [Rat.mkRat_eq_div]
    push_cast
    ring
  show _ * b.rate = _ * b.rate + _ * b.rate
  rw [hsum, add_mul]
  rfl

/-- Above the bound nothing is kept, now or later. -/
theorem atMost_add {bound x y : Rat} (hy : 0 ≤ y) :
    atMost bound (atMost bound x + y) = atMost bound (x + y) := by
  unfold atMost
  split_ifs <;> linarith

/-- To look at a bucket in between does not change what there is to see later. -/
theorem refill_refill (hrate : 0 ≤ b.rate) (hseen : b.seen ≤ t) (hnow : t ≤ now) :
    (b.refill t).refill now = b.refill now := by
  have hlater : 0 ≤ (b.refill t).gained now := gained_nonneg (b := b.refill t) hrate now
  show (⟨b.rate, b.capacity, atMost b.capacity (atMost b.capacity (b.tokens + b.gained t) +
    (b.refill t).gained now), now⟩ : Bucket Rat) = b.refill now
  rw [atMost_add hlater, add_assoc, ← gained_add hseen hnow, refill_eq]

/-- With the clock standing still nothing is gained. -/
theorem refill_seen (h : b.tokens ≤ b.capacity) : b.refill b.seen = b := by
  have hgained : b.gained b.seen = 0 := by
    rw [gained, Nat.sub_self, Nat.cast_zero, Rat.zero_mkRat, zero_mul]
  rw [refill_eq, hgained, add_zero, atMost, if_pos h]

/-- A bucket that is full stays full. -/
theorem refill_of_full (hrate : 0 ≤ b.rate) (hfull : b.capacity ≤ b.tokens) (now : Nat) :
    b.refill now = ⟨b.rate, b.capacity, b.capacity, now⟩ := by
  have hgained := gained_nonneg hrate now
  have htokens : atMost b.capacity (b.tokens + b.gained now) = b.capacity := by
    unfold atMost
    split_ifs <;> linarith
  rw [refill_eq, htokens]

end Bucket

namespace Limit

/-- A bucket begins full. -/
theorem bucket_eq (l : Limit) (now : Nat) : l.bucket now = (⟨atLeastZero l.rate.toRat,
    atLeastZero l.capacity.toRat, atLeastZero l.capacity.toRat, now⟩ : Bucket Rat) := rfl

theorem refill_bucket (l : Limit) (now : Nat) :
    (l.bucket now : Bucket Rat).refill now = l.bucket now := by
  have hrate : 0 ≤ (l.bucket now : Bucket Rat).rate := atLeastZero_nonneg l.rate.toRat
  rw [Bucket.refill_of_full hrate (le_refl (l.bucket now).capacity)]
  rfl

theorem allows_iff {l : Limit} {b : Bucket Rat} : l.allows b = true ↔
    b.rate = atLeastZero l.rate.toRat ∧ b.capacity = atLeastZero l.capacity.toRat := by
  rw [allows, Bucket.isFor, Bool.and_eq_true, same_iff, same_iff]
  rfl

end Limit

/-! ## What a request sees -/

namespace Buckets

/-- All buckets were looked at by some time, and they gain tokens from then on. -/
def Sound (bs : Buckets Rat) (t : Nat) : Prop :=
  ∀ name b, bs.table.get? name = some b → b.seen ≤ t ∧ 0 ≤ b.rate

variable {bs : Buckets Rat} {t t' now : Nat}

theorem Sound.empty (t : Nat) : (Buckets.empty t).Sound t := by
  intro name b hb
  cases hb

theorem Sound.mono (h : bs.Sound t) (ht : t ≤ t') : bs.Sound t' := by
  intro name b hb
  exact ⟨le_trans (h name b hb).1 ht, (h name b hb).2⟩

theorem Sound.sweep (h : bs.Sound t) (t' : Nat) : (bs.sweep t').Sound t' := by
  intro name b hb
  rw [get?_sweep, Option.filter_eq_some_iff, Option.map_eq_some_iff] at hb
  obtain ⟨⟨old, hold, rfl⟩, -⟩ := hb
  exact ⟨le_refl t', (h name old hold).2⟩

theorem Sound.sweepIfDue (h : bs.Sound t) (ht : t ≤ t') : (bs.sweepIfDue t').Sound t' := by
  unfold Buckets.sweepIfDue
  split_ifs
  · exact h.mono ht
  · exact h.sweep t'

/-- **Sweeping is not seen.** A bucket that stays is the same to look at, and one that is swept
would be as full as the new one in its place. -/
theorem view_sweep (h : bs.Sound t) (ht : t ≤ t') (hnow : t' ≤ now) (name : String) (l : Limit) :
    (bs.sweep t').view name l now = bs.view name l now := by
  unfold view bucketFor
  rw [get?_sweep]
  cases hget : bs.table.get? name with
  | none => rfl
  | some b =>
      obtain ⟨hseen, hrate⟩ := h name b hget
      have hlater := Bucket.refill_refill hrate (le_trans hseen ht) hnow
      have hallows : l.allows (b.refill t') = l.allows b := rfl
      rw [Option.map_some]
      by_cases hfull : (b.refill t').isFull = true
      · rw [Option.filter_some_neg (by simp [hfull])]
        dsimp only
        -- a full bucket that is good for the limit is the new bucket
        split_ifs with hl
        · obtain ⟨hsame, hroom⟩ := Limit.allows_iff.1 hl
          have hcapacity : (b.refill t').capacity ≤ (b.refill t').tokens := by
            simpa [Bucket.isFull] using hfull
          rw [← hlater, Bucket.refill_of_full (b := b.refill t') hrate hcapacity,
            Limit.refill_bucket]
          show (⟨_, _, _, _⟩ : Bucket Rat) = ⟨b.rate, b.capacity, b.capacity, now⟩
          rw [hsame, hroom]
          rfl
        · rfl
      · rw [Option.filter_some_pos (by simp [hfull])]
        dsimp only
        rw [hallows]
        split_ifs
        · exact hlater
        · rfl

/-- Between two looks a sweep cannot be seen: exact tokens do not depend on when they are counted.
-/
theorem view_sweepIfDue (h : bs.Sound t) (ht : t ≤ t') (hnow : t' ≤ now) (name : String)
    (l : Limit) : (bs.sweepIfDue t').view name l now = bs.view name l now := by
  unfold sweepIfDue
  split_ifs
  · rfl
  · exact view_sweep h ht hnow name l

theorem Sound.view (h : bs.Sound t) (name : String) (l : Limit) (now : Nat) :
    (bs.view name l now).seen = now ∧ 0 ≤ (bs.view name l now).rate := by
  refine ⟨rfl, ?_⟩
  show 0 ≤ (bs.bucketFor name l now).rate
  unfold bucketFor
  split
  · next b hb =>
      split_ifs
      · exact (h name b hb).2
      · exact atLeastZero_nonneg _
  · exact atLeastZero_nonneg _

/-- A draw looks at its bucket now, so no bucket is ahead of the time. -/
theorem Sound.take (h : bs.Sound t) (ht : t ≤ now) (name : String) (l : Limit) :
    (bs.take name l now).2.Sound now := by
  have hswept := h.sweepIfDue ht
  intro other b hb
  rw [get?_take] at hb
  split_ifs at hb with hname
  · obtain rfl := Option.some.inj hb
    obtain ⟨hseen, hrate⟩ := Bucket.draw_keeps ((bs.sweepIfDue now).view name l now)
    rw [hseen, hrate]
    exact ⟨le_refl now, (hswept.view name l now).2⟩
  · exact hswept other b hb

theorem Sound.drop (h : bs.Sound t) (rule : String) : (bs.drop rule).Sound t := by
  intro name b hb
  rw [get?_drop] at hb
  split_ifs at hb
  exact h name b hb

end Buckets

end Gatehouse.Throttle
