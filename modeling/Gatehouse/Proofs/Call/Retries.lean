import Gatehouse.Call.Retry
import Mathlib.Algebra.BigOperators.Group.Finset.Basic
import Mathlib.Data.ENat.Lattice

/-!
# Calls and their retries

A call is one attempt after the other with waits in between, and it is over with the first attempt
that did not fail while connecting, or else when its retries are used up:

    attempt 0 ──delay 0──▶ attempt 1 ──delay 1──▶ ... ──delay (last - 1)──▶ attempt last

`withRetries_eq` says so whatever attempts and waits do to the state they work on. With a record of
what is done in place of the state the whole course of a call is known (`call_account`): its
attempts are numbered from 0 on, **the last one is the first that settles the call or the one that
the retries allow**, each wait is the one of its retry, and the call ends as its last attempt did.
-/

namespace Gatehouse.Call

variable {α σ : Type}

/-! ## One attempt -/

/-- An attempt failed while connecting. -/
def Attempt.isConnectTimeout : Attempt α → Bool
  | .failed (.connectTimeout _) => true
  | _ => false

/-- How a call ends with its last attempt, given how many there were. -/
def Attempt.toEnding (attempts : Nat) : Attempt α → Ending α
  | .answered x => .answered x
  | .failed (.connectTimeout m) => .failed (.transient attempts m)
  | .failed (.timeout ns) => .failed (.timeout ns)
  | .failed (.client m) => .failed (.client m)
  | .failed (.other m) => .failed (.other m)
  | .broken => .broken

/-- How many attempts there were is only told of connections that could not be made. -/
theorem Attempt.toEnding_of_settled {a : Attempt α} (h : a.isConnectTimeout = false)
    (m n : Nat) : a.toEnding m = a.toEnding n := by
  cases a with
  | answered x => rfl
  | broken => rfl
  | failed f =>
      cases f with
      | connectTimeout m => cases h
      | timeout ns => rfl
      | client m => rfl
      | other m => rfl

/-- A call is answered only by an attempt that is. -/
theorem Attempt.eq_answered_of_toEnding {a : Attempt α} {n : Nat} {x : α}
    (h : a.toEnding n = .answered x) : a = .answered x := by
  cases a with
  | answered y =>
      cases h
      rfl
  | broken => cases h
  | failed f => cases f <;> cases h

section

variable {policy : RetryPolicy} {attempt : Nat → σ → Attempt α × σ} {wait : Nat → σ → σ}
  {budget current retries : Nat} {state : σ}

/-- **One attempt** and what comes after it. -/
theorem attemptFrom_eq : attemptFrom policy attempt wait budget current state =
    if (attempt current state).1.isConnectTimeout = true ∧ budget ≠ 0 then
      attemptFrom policy attempt wait (budget - 1) (current + 1)
        (wait (policy.delay current) (attempt current state).2)
    else ((attempt current state).1.toEnding (current + 1), (attempt current state).2) := by
  rw [attemptFrom.eq_def]
  simp only
  generalize attempt current state = made
  obtain ⟨a, next⟩ := made
  cases a with
  | answered x => rfl
  | broken => rfl
  | failed f =>
      cases f with
      | connectTimeout m => cases budget <;> rfl
      | timeout ns => rfl
      | client m => rfl
      | other m => rfl

/-! ## One after the other -/

/-- The state in which the attempt of a number is made, if the call comes to it. -/
def stateAt (policy : RetryPolicy) (attempt : Nat → σ → Attempt α × σ) (wait : Nat → σ → σ)
    (state : σ) : Nat → σ
  | 0 => state
  | n + 1 => wait (policy.delay n) (attempt n (stateAt policy attempt wait state n)).2

/-- Past attempts that failed while connecting a call has as many retries less. -/
theorem withRetries_eq_attemptFrom {n : Nat} (hn : n ≤ retries)
    (h : ∀ i < n, (attempt i (stateAt policy attempt wait state i)).1.isConnectTimeout = true) :
    withRetries policy retries attempt wait state =
      attemptFrom policy attempt wait (retries - n) n (stateAt policy attempt wait state n) := by
  induction n with
  | zero => rfl
  | succ n ih =>
      have hleft : retries - n ≠ 0 := by omega
      rw [ih (by omega) fun i hi => h i (by omega), attemptFrom_eq,
        if_pos ⟨h n (Nat.lt_succ_self n), hleft⟩]
      rfl

/-- The number of an attempt is that of the last one: all before it failed while connecting, and it
did not, or the retries are used up. -/
structure IsLast (retries : Nat) (timedOut : Nat → Bool) (last : Nat) : Prop where
  le : last ≤ retries
  before : ∀ i < last, timedOut i = true
  settles : last = retries ∨ timedOut last = false

/-- Each script has a last attempt, be it the one that ends the budget. -/
theorem exists_isLast (retries : Nat) (timedOut : Nat → Bool) :
    ∃ last, IsLast retries timedOut last := by
  have hends : ∃ n, n = retries ∨ timedOut n = false := ⟨retries, Or.inl rfl⟩
  refine ⟨Nat.find hends, Nat.find_min' hends (Or.inl rfl), fun i hi => ?_, Nat.find_spec hends⟩
  have hgoes := not_or.1 (Nat.find_min hends hi)
  exact Bool.eq_true_of_not_eq_false hgoes.2

/-- **A call ends with its last attempt**, in the state that all attempts and waits before it have
led to. -/
theorem withRetries_eq {last : Nat} (h : IsLast retries
      (fun i => (attempt i (stateAt policy attempt wait state i)).1.isConnectTimeout) last) :
    withRetries policy retries attempt wait state =
      ((attempt last (stateAt policy attempt wait state last)).1.toEnding (last + 1),
        (attempt last (stateAt policy attempt wait state last)).2) := by
  rw [withRetries_eq_attemptFrom h.le h.before, attemptFrom_eq, if_neg]
  rintro ⟨htimedOut, hleft⟩
  rcases h.settles with rfl | hsettled
  · exact hleft (Nat.sub_self last)
  · rw [hsettled] at htimedOut
    cases htimedOut

end

/-! ## On record -/

/-- What is done in a call. -/
inductive Deed where
  | attempt (number : Nat)
  | wait (ms : Nat)
deriving DecidableEq, Repr

def attempts (record : List Deed) : List Nat :=
  record.filterMap fun
    | .attempt n => some n
    | .wait _ => none

def waits (record : List Deed) : List Nat :=
  record.filterMap fun
    | .attempt _ => none
    | .wait ms => some ms

/-- A call whose attempts come out as was settled beforehand, with the record of what is done. -/
def recorded (policy : RetryPolicy) (retries : Nat) (outcomes : Nat → Attempt α) :
    Ending α × List Deed :=
  withRetries policy retries (fun n record => (outcomes n, record ++ [.attempt n]))
    (fun ms record => record ++ [.wait ms]) []

/-- Attempts up to a number, with the wait of each retry before it. -/
def course (policy : RetryPolicy) : (last : Nat) → List Deed
  | 0 => [.attempt 0]
  | n + 1 => course policy n ++ [.wait (policy.delay n), .attempt (n + 1)]

/-- A course makes its attempts one after the other, counted from zero. -/
theorem attempts_course (policy : RetryPolicy) (last : Nat) :
    attempts (course policy last) = List.range (last + 1) := by
  induction last with
  | zero => rfl
  | succ n ih =>
      rw [List.range_succ, ← ih, course, attempts, List.filterMap_append]
      rfl

/-- A course waits after each attempt but the last. -/
theorem waits_course (policy : RetryPolicy) (last : Nat) :
    waits (course policy last) = (List.range last).map policy.delay := by
  induction last with
  | zero => rfl
  | succ n ih =>
      rw [List.range_succ, List.map_append, ← ih, course, waits, List.filterMap_append]
      rfl

/-- The number of the first attempt that does not fail while connecting, infinite if there is
none. -/
noncomputable def firstSettled (outcomes : Nat → Attempt α) : ℕ∞ :=
  ⨅ n : { n : Nat // (outcomes n).isConnectTimeout = false }, ((n : Nat) : ℕ∞)

theorem firstSettled_le {outcomes : Nat → Attempt α} {n : Nat}
    (h : (outcomes n).isConnectTimeout = false) : firstSettled outcomes ≤ n :=
  iInf_le _ (⟨n, h⟩ : { n : Nat // (outcomes n).isConnectTimeout = false })

/-- The last attempt is the first that settles, or else the one that ends the budget. -/
theorem IsLast.eq_min {retries last : Nat} {outcomes : Nat → Attempt α}
    (h : IsLast retries (fun i => (outcomes i).isConnectTimeout) last) :
    (last : ℕ∞) = min (firstSettled outcomes) retries := by
  apply le_antisymm
  · apply le_min
    · apply le_iInf
      rintro ⟨n, hn⟩
      apply Nat.cast_le.2
      by_contra hlt
      have hbefore := h.before n (Nat.lt_of_not_le hlt)
      simp [hn] at hbefore
    · exact Nat.cast_le.2 h.le
  · rcases h.settles with rfl | hsettled
    · exact min_le_right _ _
    · exact (min_le_left _ _).trans (firstSettled_le hsettled)

/-- The attempt of a number adds to the record that the call has come to. -/
theorem record_at (policy : RetryPolicy) (outcomes : Nat → Attempt α) (n : Nat) :
    stateAt policy (fun n record => (outcomes n, record ++ [Deed.attempt n]))
      (fun ms record => record ++ [.wait ms]) [] n ++ [.attempt n] = course policy n := by
  induction n with
  | zero => rfl
  | succ n ih =>
      rw [course, ← ih, stateAt]
      simp

/-- **The course of a call.** Its last attempt is the first one that does not fail while connecting,
or the one that the retries allow if that comes first. All attempts up to it are made, numbered from
0 on, with the wait of each retry before it and no others. It ends with the answer of the last
attempt, with what that has failed of, or, if that failed while connecting as well, with the message
of that failure and the number of attempts, which stays below 2^32. -/
theorem call_account (policy : RetryPolicy) {retries : Nat} (hretries : retries < 2 ^ 32 - 1)
    (outcomes : Nat → Attempt α) :
    ∃ last : Nat, (last : ℕ∞) = min (firstSettled outcomes) retries ∧
      recorded policy retries outcomes =
        ((outcomes last).toEnding (retries + 1), course policy last) ∧
      attempts (course policy last) = List.range (last + 1) ∧
      waits (course policy last) = (List.range last).map policy.delay ∧
      (waits (course policy last)).sum = ∑ i ∈ Finset.range last, policy.delay i ∧
      last + 1 < 2 ^ 32 := by
  obtain ⟨last, hlast⟩ := exists_isLast retries fun i => (outcomes i).isConnectTimeout
  have hle := hlast.le
  refine ⟨last, hlast.eq_min, ?_, attempts_course policy last, waits_course policy last, ?_,
    by omega⟩
  · rw [recorded, withRetries_eq hlast, record_at]
    rcases hlast.settles with rfl | hsettled
    · rfl
    · rw [Attempt.toEnding_of_settled hsettled]
  · rw [waits_course]
    rfl

/-- Two attempts that fail while connecting, and then an answer. -/
def recovering : Nat → Attempt String
  | 0 | 1 => .failed (.connectTimeout "slow")
  | _ => .answered "done"

/-- With three retries two of them are made. -/
theorem call_account_recovering : 3 < 2 ^ 32 - 1 ∧
    min (firstSettled recovering) (3 : ℕ) = (2 : ℕ) ∧
    recorded ⟨20, 500, 2⟩ 3 recovering =
      (.answered "done", [.attempt 0, .wait 20, .attempt 1, .wait 40, .attempt 2]) := by
  have hretries : 3 < 2 ^ 32 - 1 := by decide
  obtain ⟨last, hlast, hrecorded, hattempts, -⟩ := call_account ⟨20, 500, 2⟩ hretries recovering
  have hcourse : course ⟨20, 500, 2⟩ last =
      [.attempt 0, .wait 20, .attempt 1, .wait 40, .attempt 2] :=
    (congrArg Prod.snd hrecorded).symm
  have hthree := congrArg List.length hattempts
  rw [hcourse, List.length_range] at hthree
  obtain rfl : last = 2 := (Nat.succ.inj hthree).symm
  exact ⟨hretries, hlast.symm, hrecorded⟩

end Gatehouse.Call
