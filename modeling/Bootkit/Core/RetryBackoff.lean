import Bootkit.Core.RetryLaws

/-! How long `retry.Do` waits after each failure, in the arithmetic of 64-bit durations. -/

namespace Bootkit

open Go

/-- What fits into a 64-bit integer is kept. -/
theorem wrap64_fits {value : Int} (nonneg : 0 ≤ value) (fits : value < 2 ^ 63) :
    wrap64 value = value := by
  -- A value in the range is its own representative.
  apply Int.bmod_eq_of_le
  · omega
  · omega

/-- What is too large for a 64-bit integer loses at least one whole turn. -/
theorem wrap64_overflow {value : Int} (large : 2 ^ 63 ≤ value) :
    wrap64 value ≤ value - 2 ^ 64 := by
  -- The result is below half a turn, so at least one turn was subtracted.
  have bound : wrap64 value < ((2 ^ 64 : Nat) + 1 : Int) / 2 := Int.bmod_lt (by decide)
  have turns : wrap64 value = value - ((2 ^ 64 : Nat) : Int) * value.bdiv (2 ^ 64) :=
    Int.bmod_eq_self_sub_mul_bdiv value (2 ^ 64)
  omega

/-- The backoff as a number without bound: the first one, doubled after each failure. -/
def exactBackoff (policy : RetryPolicy) (attempt : Nat) : Int :=
  policy.baseBackoff * 2 ^ attempt

/-- The duration that the timer is started with after a failed attempt. -/
def timerAfter (policy : RetryPolicy) (attempt jitter : Nat) : Int :=
  wrap64 (backoffAfter policy attempt + jitter)

/-- A duration is the exact backoff and up to half of the first one on top. -/
def MeantWait (policy : RetryPolicy) (attempt : Nat) (duration : Int) : Prop :=
  exactBackoff policy attempt ≤ duration ∧
    duration ≤ exactBackoff policy attempt + policy.baseBackoff / 2

/-- Shift, product, and sum wrap around as one number does. -/
theorem timerAfter_eq (policy : RetryPolicy) (attempt jitter : Nat) :
    timerAfter policy attempt jitter = wrap64 (exactBackoff policy attempt + jitter) := by
  -- Reducing an intermediate result changes nothing about the final remainder.
  unfold timerAfter backoffAfter exactBackoff wrap64
  rw [Int.bmod_add_bmod, ← Int.bmod_add_bmod, Int.mul_bmod_bmod, Int.bmod_add_bmod]

/-- A jitter is at most half of the first backoff. -/
theorem jitter_le {policy : RetryPolicy} {jitter : Nat} (base : 0 < policy.baseBackoff)
    (allowed : jitterAllowed policy jitter = true) :
    (jitter : Int) ≤ policy.baseBackoff / 2 := by
  -- A positive duration is halved alike by truncation and by rounding down.
  have half : policy.baseBackoff.tdiv 2 = policy.baseBackoff / 2 :=
    Int.tdiv_eq_ediv_of_nonneg (by omega)
  simp only [jitterAllowed, Bool.or_eq_true, beq_iff_eq, decide_eq_true_eq, half] at allowed
  omega

/-- The largest jitter that can be drawn. -/
def RetryPolicy.maxJitter (policy : RetryPolicy) : Nat :=
  (policy.baseBackoff.tdiv 2 - 1).toNat

/-- The largest jitter can be drawn. -/
theorem maxJitter_allowed (policy : RetryPolicy) :
    jitterAllowed policy policy.maxJitter = true := by
  -- The bound is the largest value that the random source returns.
  simp only [jitterAllowed, Bool.or_eq_true, beq_iff_eq, decide_eq_true_eq]
  unfold RetryPolicy.maxJitter
  omega

/-- No jitter that can be drawn is larger. -/
theorem le_maxJitter {policy : RetryPolicy} {jitter : Nat}
    (allowed : jitterAllowed policy jitter = true) : jitter ≤ policy.maxJitter := by
  -- Without a positive half there is no jitter, and otherwise it is below the half.
  simp only [jitterAllowed, Bool.or_eq_true, beq_iff_eq, decide_eq_true_eq] at allowed
  unfold RetryPolicy.maxJitter
  omega

/-- The exact backoff never shrinks. -/
theorem exactBackoff_mono {policy : RetryPolicy} (base : 0 < policy.baseBackoff)
    {earlier later : Nat} (order : earlier ≤ later) :
    exactBackoff policy earlier ≤ exactBackoff policy later := by
  -- The base is positive and the powers of two grow.
  unfold exactBackoff
  apply Int.mul_le_mul_of_nonneg_left _ (by omega)
  exact_mod_cast Nat.pow_le_pow_right (by decide) order

/-- The exact backoff is positive. -/
theorem exactBackoff_pos {policy : RetryPolicy} (base : 0 < policy.baseBackoff) (attempt : Nat) :
    0 < exactBackoff policy attempt := by
  -- The first backoff is positive, and no later one is smaller.
  have first : exactBackoff policy 0 ≤ exactBackoff policy attempt :=
    exactBackoff_mono base (Nat.zero_le attempt)
  simp only [exactBackoff, pow_zero, mul_one] at first ⊢
  omega

/-- A wait is as long as it is meant to be exactly when its exact length is a 64-bit integer. -/
theorem timer_meant_iff {policy : RetryPolicy} (base : 0 < policy.baseBackoff)
    (range : policy.baseBackoff < 2 ^ 63) {attempt jitter : Nat}
    (allowed : jitterAllowed policy jitter = true) :
    MeantWait policy attempt (timerAfter policy attempt jitter) ↔
      exactBackoff policy attempt + jitter < 2 ^ 63 := by
  have bounded := jitter_le base allowed
  have positive := exactBackoff_pos base attempt
  rw [timerAfter_eq]
  unfold MeantWait
  constructor
  · -- A sum that is too large comes out below the backoff, since the jitter is less than a turn.
    rintro ⟨lower, -⟩
    by_contra large
    have lost := wrap64_overflow (Int.not_lt.mp large)
    omega
  · intro fits
    rw [wrap64_fits (by omega) fits]
    omega

/-- The longest wait of a policy is a 64-bit integer, unless the policy never waits. -/
def RetryPolicy.Fits (policy : RetryPolicy) : Prop :=
  1 < policy.maxAttempts →
    exactBackoff policy (policy.maxAttempts - 2).toNat + policy.maxJitter < 2 ^ 63

/-- If the longest wait of a policy fits, then all of them do, and conversely. -/
theorem policy_fits_iff {policy : RetryPolicy} (base : 0 < policy.baseBackoff) :
    policy.Fits ↔ ∀ attempt jitter : Nat, (attempt : Int) + 1 < policy.maxAttempts →
      jitterAllowed policy jitter = true → exactBackoff policy attempt + jitter < 2 ^ 63 := by
  -- The last wait has the largest backoff, and it can draw the largest jitter.
  constructor
  · intro fits attempt jitter within allowed
    have longest := fits (by omega)
    have grown : exactBackoff policy attempt ≤
        exactBackoff policy (policy.maxAttempts - 2).toNat :=
      exactBackoff_mono base (by omega)
    have drawn := le_maxJitter allowed
    omega
  · intro all several
    exact all _ _ (by omega) (maxJitter_allowed policy)

/-- Starting the timer is the step from a failure to the select. -/
theorem sleep_step {policy : RetryPolicy} {s next : RetryState} {jitter : Nat}
    (taken : (retryMachine policy).step s (.own (.sleep jitter)) = some next) :
    ∃ attempt, s.phase = .backing attempt ∧ jitterAllowed policy jitter = true ∧
      next.phase = .sleeping attempt (s.now + timerAfter policy attempt jitter) := by
  -- The label belongs to one move only, which starts in one phase.
  obtain ⟨phase, moved, rfl⟩ := Option.map_eq_some_iff.mp taken
  have moved : RetryMove policy s.now s.ctx s.phase (.sleep jitter) phase := retryStep_move moved
  generalize before : s.phase = backing at moved
  cases moved with
  | sleep allowed => exact ⟨_, rfl, allowed, rfl⟩

/-- The timer that a call waits for was started after the failure of its last attempt. -/
def TimerStarted (policy : RetryPolicy) (ctx : Option Err) (labels : List RetryLabel)
    (s : RetryState) : Prop :=
  ∀ attempt wake, s.phase = .sleeping attempt wake → ∃ t jitter,
    (retryMachine policy).Took (RetryState.init ctx) labels (.own (.sleep jitter)) t ∧
      t.phase = .backing attempt ∧ jitterAllowed policy jitter = true ∧
      wake = t.now + timerAfter policy attempt jitter

/-- A step that leaves the phase alone leaves the timer alone. -/
theorem TimerStarted.keep {policy : RetryPolicy} {ctx : Option Err} {labels : List RetryLabel}
    {s next : RetryState} (started : TimerStarted policy ctx labels s) (label : RetryLabel)
    (same : next.phase = s.phase) : TimerStarted policy ctx (labels ++ [label]) next := by
  -- The timer that runs is the one that was started.
  intro attempt wake phase
  obtain ⟨t, jitter, took, rest⟩ := started attempt wake (same ▸ phase)
  exact ⟨t, jitter, took.extend label, rest⟩

/-- In every run, the timer that is waited for is that of the last failure. -/
theorem timerStarted_run {policy : RetryPolicy} {ctx : Option Err} {labels : List RetryLabel}
    {s : RetryState} (reached : (retryMachine policy).run (RetryState.init ctx) labels = some s) :
    TimerStarted policy ctx labels s := by
  -- Time and cancellation leave the phase alone, so only own steps are looked at.
  refine (retryMachine policy).run_history (TimerStarted policy ctx) ?_ ?_ labels s reached
  · intro attempt wake phase
    simp [RetryState.init] at phase
  · intro labels s label next reached started taken
    cases label with
    | tick d =>
      cases taken
      exact started.keep _ rfl
    | cancel cause =>
      cases taken
      exact started.keep _ rfl
    | own action =>
      obtain ⟨phase, moved, rfl⟩ := Option.map_eq_some_iff.mp taken
      have moved : RetryMove policy s.now s.ctx s.phase action phase := retryStep_move moved
      intro attempt wake sleeping
      obtain rfl : phase = .sleeping attempt wake := sleeping
      -- Only the start of a timer leads to the select.
      generalize before : s.phase = backing at moved
      cases moved with
      | sleep allowed =>
        exact ⟨s, _, Machine.Took.last reached _, before, allowed, rfl⟩

/--
After a failure the timer runs for the exact backoff and the jitter if that is a 64-bit integer.

Where the longest wait of a policy fits, no wait is shorter than it should be, and an attempt is
made only after the whole backoff has passed since the failure before it.
-/
theorem backoff_grows (policy : RetryPolicy) (base : 0 < policy.baseBackoff)
    (range : policy.baseBackoff < 2 ^ 63) :
    -- Each wait is in its interval exactly when it does not overflow.
    (∀ attempt jitter : Nat, (attempt : Int) < policy.maxAttempts - 1 →
      jitterAllowed policy jitter = true →
      (MeantWait policy attempt (timerAfter policy attempt jitter) ↔
        policy.baseBackoff * 2 ^ attempt + jitter < 2 ^ 63)) ∧
    -- All waits are in their intervals exactly when the longest one does not overflow.
    ((∀ attempt jitter : Nat, (attempt : Int) < policy.maxAttempts - 1 →
      jitterAllowed policy jitter = true →
      MeantWait policy attempt (timerAfter policy attempt jitter)) ↔ policy.Fits) ∧
    -- These are the durations that timers are started with.
    (∀ ctx labels s jitter next,
      (retryMachine policy).run (RetryState.init ctx) labels = some s →
      (retryMachine policy).step s (.own (.sleep jitter)) = some next →
      ∃ attempt : Nat, s.phase = .backing attempt ∧ (attempt : Int) < policy.maxAttempts - 1 ∧
        jitterAllowed policy jitter = true ∧
        next.phase = .sleeping attempt (s.now + timerAfter policy attempt jitter)) ∧
    -- Waits are positive and at least as long as every backoff before.
    (policy.Fits → ∀ attempt jitter : Nat, (attempt : Int) < policy.maxAttempts - 1 →
      jitterAllowed policy jitter = true → 0 < timerAfter policy attempt jitter ∧
        ∀ earlier ≤ attempt, exactBackoff policy earlier ≤ timerAfter policy attempt jitter) ∧
    -- No attempt follows a failure without delay.
    (policy.Fits → ∀ ctx labels s next attempt,
      (retryMachine policy).run (RetryState.init ctx) labels = some s →
      (retryMachine policy).step s (.own .wake) = some next → next.phase = .looping (attempt + 1) →
      ∃ t jitter, (retryMachine policy).Took (RetryState.init ctx) labels (.own (.sleep jitter)) t ∧
        t.phase = .backing attempt ∧ t.now + exactBackoff policy attempt ≤ s.now) := by
  -- Everything but the runs follows from the equivalence for a single wait.
  have each : ∀ attempt jitter : Nat, jitterAllowed policy jitter = true →
      (MeantWait policy attempt (timerAfter policy attempt jitter) ↔
        exactBackoff policy attempt + jitter < 2 ^ 63) :=
    fun _ _ allowed => timer_meant_iff base range allowed
  have meant : policy.Fits → ∀ attempt jitter : Nat, (attempt : Int) < policy.maxAttempts - 1 →
      jitterAllowed policy jitter = true →
      MeantWait policy attempt (timerAfter policy attempt jitter) := by
    intro fits attempt jitter within allowed
    exact (each attempt jitter allowed).mpr
      ((policy_fits_iff base).mp fits attempt jitter (by omega) allowed)
  refine ⟨fun attempt jitter _ allowed => each attempt jitter allowed, ⟨?_, meant⟩, ?_, ?_, ?_⟩
  · intro all
    apply (policy_fits_iff base).mpr
    intro attempt jitter within allowed
    exact (each attempt jitter allowed).mp (all attempt jitter (by omega) allowed)
  · intro ctx labels s jitter next reached taken
    obtain ⟨attempt, phase, allowed, sleeping⟩ := sleep_step taken
    have bounded := (retryHistory_run reached).bounded
    rw [phase] at bounded
    have within : (attempt : Int) + 1 < policy.maxAttempts := bounded
    exact ⟨attempt, phase, by omega, allowed, sleeping⟩
  · intro fits attempt jitter within allowed
    have lower := (meant fits attempt jitter within allowed).1
    refine ⟨Int.lt_of_lt_of_le (exactBackoff_pos base attempt) lower, ?_⟩
    intro earlier order
    exact Int.le_trans (exactBackoff_mono base order) lower
  · intro fits ctx labels s next attempt reached taken looping
    obtain ⟨phase, moved, rfl⟩ := Option.map_eq_some_iff.mp taken
    have moved : RetryMove policy s.now s.ctx s.phase .wake phase := retryStep_move moved
    have bounded := (retryHistory_run reached).bounded
    have started := timerStarted_run reached
    generalize before : s.phase = sleeping at moved
    cases moved with
    | @wake last wake due =>
      obtain rfl : last = attempt := by simpa using looping
      obtain ⟨t, jitter, took, backing, allowed, timer⟩ := started last wake before
      rw [before] at bounded
      have within : (last : Int) + 1 < policy.maxAttempts := bounded
      have lower := (meant fits last jitter (by omega) allowed).1
      exact ⟨t, jitter, took, backing, by omega⟩

/-- Three attempts and ten milliseconds fit, so no wait is shorter than ten milliseconds. -/
theorem backoff_grows_three : (0 : Int) < 10000000 ∧ (10000000 : Int) < 2 ^ 63 ∧
    RetryPolicy.Fits ⟨3, 10000000⟩ ∧
    MeantWait ⟨3, 10000000⟩ 1 (timerAfter ⟨3, 10000000⟩ 1 4999999) ∧
    ∀ attempt jitter : Nat, (attempt : Int) < 2 → jitterAllowed ⟨3, 10000000⟩ jitter = true →
      exactBackoff ⟨3, 10000000⟩ 0 ≤ timerAfter ⟨3, 10000000⟩ attempt jitter := by
  -- The largest wait of the policy fits, so that each bound of the law applies.
  have spec := backoff_grows ⟨3, 10000000⟩ (by decide) (by decide)
  have fits : RetryPolicy.Fits ⟨3, 10000000⟩ := by
    intro _
    decide +kernel
  refine ⟨by decide, by decide, fits, spec.2.1.mpr fits 1 4999999 (by decide) (by decide), ?_⟩
  intro attempt jitter within allowed
  exact (spec.2.2.2.1 fits attempt jitter within allowed).2 0 (Nat.zero_le attempt)

/-- Two attempts without any time between them. -/
def hastyRetry : List RetryLabel :=
  [.own .enter, .own .check, .own .call, .own (.answer (some (.new deadlineExceeded))),
    .own (.sleep 1), .own .wake, .own .check, .own .call]

/--
The longest duration there is makes the second attempt follow the first one at once.

A first backoff of ten milliseconds makes the wait negative after enough attempts, and nothing in
the end.
-/
theorem backoff_overflows :
    (∃ s, (retryMachine ⟨2, 2 ^ 63 - 1⟩).run (RetryState.init none) hastyRetry = some s ∧
      s.phase = .calling 1 ∧ s.now = 0 ∧ callsMade hastyRetry = 2) ∧
    jitterAllowed ⟨2, 2 ^ 63 - 1⟩ 1 = true ∧ timerAfter ⟨2, 2 ^ 63 - 1⟩ 0 1 < 0 ∧
    timerAfter ⟨100, 10000000⟩ 40 0 < 0 ∧ timerAfter ⟨100, 10000000⟩ 64 0 = 0 ∧
    ¬ MeantWait ⟨2, 2 ^ 63 - 1⟩ 0 (timerAfter ⟨2, 2 ^ 63 - 1⟩ 0 1) := by
  refine ⟨?_, by decide +kernel, by decide +kernel, by decide +kernel, by decide +kernel, ?_⟩
  · -- The timer of the overflowed wait fires at once.
    exact (retryMachine ⟨2, 2 ^ 63 - 1⟩).run_observe (RetryState.init none) hastyRetry
      (fun s => s.phase = .calling 1 ∧ s.now = 0 ∧ callsMade hastyRetry = 2) (by decide +kernel)
  · -- What was meant is positive, and what the timer got is negative.
    intro meant
    have negative : timerAfter ⟨2, 2 ^ 63 - 1⟩ 0 1 < exactBackoff ⟨2, 2 ^ 63 - 1⟩ 0 := by
      decide +kernel
    exact absurd meant.1 (Int.not_le.mpr negative)

end Bootkit
