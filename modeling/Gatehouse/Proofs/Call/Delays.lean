import Gatehouse.Settings.HttpClient
import Mathlib.Algebra.Group.Nat.Defs
import Mathlib.Order.MinMax

/-!
# The waits between attempts

A wait is computed with two bounds that have nothing to do with the policy, and cut by the longest
wait of the policy in the end:

    factor ^ retry           at most 2^32 - 1
    base * (that power)      at most the longest time there is
    the wait                 at most the longest wait of the policy

The second bound is never seen, for the longest wait is a time (`delayWithin_eq`). The first is seen
only where a power that large still leaves the product below the longest wait. So **the wait is the
exact power times the base, cut by the longest wait, wherever that is no more than 2^32 - 1 times
the base** (`delay_laws`).
-/

namespace Gatehouse.Call

/-! ## Bounded powers -/

theorem cappedPower_mono {factor : Nat} (h : 0 < factor) : Monotone (cappedPower factor) := by
  intro m n hmn
  rw [cappedPower_eq, cappedPower_eq]
  exact min_le_min_right maxMultiple (Nat.pow_le_pow_right h hmn)

/-- Where the largest multiple reaches the bound, greater ones need not be told from it. -/
theorem min_mul_cappedPower {base bound : Nat} (h : bound ≤ base * maxMultiple)
    (factor retry : Nat) :
    min (base * cappedPower factor retry) bound = min (base * factor ^ retry) bound := by
  rw [cappedPower_eq]
  show min (base * min (factor ^ retry) maxMultiple) bound = _
  rcases Nat.le_total (factor ^ retry) maxMultiple with hle | hge
  · rw [min_eq_left hle]
  · have hexact : bound ≤ base * factor ^ retry := h.trans (Nat.mul_le_mul_left base hge)
    rw [min_eq_right hge, min_eq_right h, min_eq_right hexact]

namespace RetryPolicy

/-! ## Waits -/

/-- No wait is shorter than an earlier one. -/
theorem delayWithin_mono (p : RetryPolicy) (most : Nat) : Monotone (p.delayWithin most) := by
  intro m n hmn
  have hpower : cappedPower (max p.factor 1) m ≤ cappedPower (max p.factor 1) n :=
    cappedPower_mono (le_max_right p.factor 1) hmn
  have hproduct := Nat.mul_le_mul_left p.base hpower
  exact min_le_min_right p.longest (min_le_min_right most hproduct)

theorem delayWithin_le (p : RetryPolicy) (most retry : Nat) :
    p.delayWithin most retry ≤ p.longest :=
  min_le_right _ _

/-- A product is never cut by the longest time there is before the longest wait cuts it. -/
theorem delayWithin_eq {p : RetryPolicy} {most : Nat} (h : p.longest ≤ most) (retry : Nat) :
    p.delayWithin most retry =
      min (p.base * cappedPower (max p.factor 1) retry) p.longest := by
  rw [delayWithin, min_assoc, min_eq_right h]

/-- Where neither bound is reached early, the wait is the power itself up to the longest wait. -/
theorem delayWithin_exact {p : RetryPolicy} {most : Nat} (h : p.longest ≤ most)
    (hbound : p.longest ≤ p.base * maxMultiple) (retry : Nat) :
    p.delayWithin most retry = min (p.base * max p.factor 1 ^ retry) p.longest := by
  rw [delayWithin_eq h, min_mul_cappedPower hbound]

/-- A configured policy starts with the configured base. -/
theorem delay_ofWaits_zero {base : Nat} (h : base ≤ longestTime) (longest : Nat) :
    (ofWaits base longest).delay 0 = base := by
  show min (min (base * cappedPower 2 0) longestTime) (max longest base) = base
  have hone : base * cappedPower 2 0 = base := Nat.mul_one base
  rw [hone, min_eq_left h, min_eq_left (le_max_right longest base)]

/-- **Waits** never become shorter from one retry to the next, nor longer than the longest one of
the policy. If that is no more than 2^32 - 1 times the base, each is exactly the base times the
factor to the power of the retry's number, or the longest one where that is more; a factor of zero
counts as one. All this holds in whatever unit times are counted, `most` being the longest time
there is in it. And the first wait of configured policies is the base that was configured. -/
theorem delay_laws :
    (∀ (p : RetryPolicy) (most : Nat), Monotone (p.delayWithin most) ∧
      (∀ retry, p.delayWithin most retry ≤ p.longest) ∧
      (p.longest ≤ most → p.longest ≤ p.base * (2 ^ 32 - 1) → ∀ retry,
        p.delayWithin most retry = min (p.base * max p.factor 1 ^ retry) p.longest)) ∧
    ∀ s : HttpClientSettings, s.backoffBase < 2 ^ 64 → s.retryPolicy.delay 0 = s.backoffBase := by
  refine ⟨fun p most => ⟨?_, ?_, fun hmost hbound => ?_⟩, fun s hs => ?_⟩
  · exact delayWithin_mono p most
  · exact delayWithin_le p most
  · exact delayWithin_exact hmost hbound
  · have hbase : s.backoffBase ≤ longestTime := by
      show s.backoffBase ≤ 0x10000000000000000 * 1000 - 1
      omega
    exact delay_ofWaits_zero hbase s.backoffMax

/-- Seconds counted in nanoseconds, with the greatest longest wait for which all waits are exact:
the power of retry 21 is cut, and so is the wait. -/
theorem delay_laws_seconds :
    let most := 2 ^ 64 * 1000000000 - 1
    let p : RetryPolicy := ⟨1000000000, 4294967295000000000, 3⟩
    p.longest ≤ most ∧ p.longest ≤ p.base * (2 ^ 32 - 1) ∧
      p.delayWithin most 20 = 3486784401000000000 ∧ p.delayWithin most 21 = p.longest ∧
      HttpClientSettings.default.backoffBase < 2 ^ 64 ∧
      HttpClientSettings.default.retryPolicy.delay 0 = 200 := by
  intro most p
  have hmost : p.longest ≤ most := by decide
  have hbound : p.longest ≤ p.base * (2 ^ 32 - 1) := by decide
  have hdefault : HttpClientSettings.default.backoffBase < 2 ^ 64 := by decide
  obtain ⟨hlaws, hfirst⟩ := delay_laws
  obtain ⟨-, -, hexact⟩ := hlaws p most
  refine ⟨hmost, hbound, ?_, ?_, hdefault, hfirst .default hdefault⟩
  · exact (hexact hmost hbound 20).trans (by decide)
  · exact (hexact hmost hbound 21).trans (by decide)

end RetryPolicy

end Gatehouse.Call
