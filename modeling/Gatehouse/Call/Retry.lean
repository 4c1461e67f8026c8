import Gatehouse.Fault

/-!
# Retrying calls

Only a call that failed while connecting is tried again, after a wait that grows with each retry:
the base wait times a power of the factor, up to a longest wait. Waits are in milliseconds. A power
or a product that is too large is taken for the largest one there is.
-/

namespace Gatehouse.Call

/-- How long to wait between attempts. -/
structure RetryPolicy where
  base : Nat
  longest : Nat
  factor : Nat
deriving DecidableEq, Repr, Inhabited

def maxMultiple : Nat := 0xFFFFFFFF

/-- A power, but no more than the largest multiple. -/
def cappedPower (base exponent : Nat) : Nat :=
  if base ≤ 1 then Nat.pow base (min exponent 1)
  -- from here on the power is too large, and need not be computed
  else if 32 ≤ exponent then maxMultiple
  else min (Nat.pow base exponent) maxMultiple

theorem cappedPower_eq (base exponent : Nat) :
    cappedPower base exponent = min (Nat.pow base exponent) maxMultiple := by
  unfold cappedPower
  split
  · next h =>
    rcases Nat.le_one_iff_eq_zero_or_eq_one.1 h with rfl | rfl
    · cases exponent with
      | zero => rfl
      | succ n => simp [Nat.pow_eq]
    · simp [Nat.pow_eq, maxMultiple]
  · next h =>
    split
    · next he =>
      have hp : Nat.pow 2 32 ≤ Nat.pow base exponent :=
        Nat.le_trans (Nat.pow_le_pow_right (by decide) he) (Nat.pow_le_pow_left (by omega) exponent)
      exact (Nat.min_eq_right (Nat.le_trans (by decide) hp)).symm
    · rfl

/-- The longest time there is, in whole milliseconds: as many seconds as 64 bits count. -/
def longestTime : Nat := 0x10000000000000000 * 1000 - 1

namespace RetryPolicy

def default : RetryPolicy := ⟨200, 20000, 2⟩

/-- The policy of configured waits; the longest is at least the base. -/
def ofWaits (base longest : Nat) : RetryPolicy :=
  { RetryPolicy.default with base := base, longest := max longest base }

/-- The wait before the retry of a number, counted from 0, where no time is longer than `most`. The
times may be counted in any unit. -/
def delayWithin (p : RetryPolicy) (most retry : Nat) : Nat :=
  min (min (p.base * cappedPower (max p.factor 1) retry) most) p.longest

/-- The wait before the retry of a number, counted from 0. -/
def delay (p : RetryPolicy) (retry : Nat) : Nat := p.delayWithin longestTime retry

end RetryPolicy

inductive AttemptFault where
  | connectTimeout (message : String)
  /-- No answer within a time, in nanoseconds. -/
  | timeout (ns : Nat)
  | client (message : String)
  | other (message : String)
deriving DecidableEq, Repr, Inhabited

inductive Attempt (α : Type) where
  | answered (x : α)
  | failed (f : AttemptFault)
  /-- The client broke down instead of reporting. -/
  | broken
deriving Repr, Inhabited

inductive Ending (α : Type) where
  | answered (x : α)
  | failed (f : Fault)
  | broken
deriving Repr, Inhabited

/-- Make attempts from number `current` on, with `budget` retries left. `attempt` makes the attempt
of a number and `wait` lets time pass. -/
def attemptFrom (policy : RetryPolicy) (attempt : Nat → σ → Attempt α × σ) (wait : Nat → σ → σ) :
    (budget current : Nat) → σ → Ending α × σ
  | budget, current, state =>
    match attempt current state with
    | (.answered x, state) => (.answered x, state)
    | (.broken, state) => (.broken, state)
    | (.failed (.timeout ns), state) => (.failed (.timeout ns), state)
    | (.failed (.client m), state) => (.failed (.client m), state)
    | (.failed (.other m), state) => (.failed (.other m), state)
    | (.failed (.connectTimeout m), state) =>
      match budget with
      | 0 => (.failed (.transient (current + 1) m), state)
      | budget + 1 =>
        attemptFrom policy attempt wait budget (current + 1) (wait (policy.delay current) state)

def withRetries (policy : RetryPolicy) (retries : Nat) (attempt : Nat → σ → Attempt α × σ)
    (wait : Nat → σ → σ) (state : σ) : Ending α × σ :=
  attemptFrom policy attempt wait retries 0 state

end Gatehouse.Call
