import Mathlib.Algebra.GroupWithZero.Nat
import Mathlib.Algebra.Ring.Int.Defs
import Bootkit.Go.Errors
import Bootkit.Go.Machine

/-! The retry loop with exponential backoff that adapters connect with. -/

namespace Bootkit

open Go

/-- How often `retry.Do` calls its function, and how long its backoff is at first. -/
structure RetryPolicy where
  maxAttempts : Int
  -- A duration in nanoseconds.
  baseBackoff : Int
  deriving Repr, DecidableEq

/-- Where a call of `retry.Do` is. -/
inductive RetryPhase where
  | entered
  -- At the head of the loop, before the context is looked at.
  | looping (attempt : Nat)
  -- The context was not done, and the function is about to be called.
  | admitted (attempt : Nat)
  -- Inside the function.
  | calling (attempt : Nat)
  -- The function failed, and the backoff is being computed.
  | backing (attempt : Nat)
  -- In the select between the context and a timer that fires at the given time.
  | sleeping (attempt : Nat) (wake : Int)
  | returned (err : Option Err)
  -- The loop was left at its head, so the return of nil behind it is reached.
  | fellOut
  deriving Repr, DecidableEq

/-- What `retry.Do` does next, with what its surroundings answer. -/
inductive RetryAction where
  | enter
  | check
  | call
  | answer (err : Option Err)
  -- The jitter is the random part of the backoff.
  | sleep (jitter : Nat)
  -- The branch of the select that reads the timer.
  | wake
  -- The branch of the select that reads the context.
  | interrupt
  deriving Repr, DecidableEq

/-- Arithmetic on 64-bit signed integers wraps around. -/
def wrap64 (value : Int) : Int :=
  value.bmod (2 ^ 64)

/-- The error for a number of attempts that is not positive. -/
def attemptsErr (maxAttempts : Int) : Err :=
  .wrap ("retry: maxAttempts must be positive, got " ++ toString maxAttempts) []

/-- The backoff after a failed attempt, before jitter. -/
def backoffAfter (policy : RetryPolicy) (attempt : Nat) : Int :=
  wrap64 (policy.baseBackoff * wrap64 (2 ^ attempt))

/-- The jitter is below half of the first backoff, or nothing when randomness is unavailable. -/
def jitterAllowed (policy : RetryPolicy) (jitter : Nat) : Bool :=
  jitter == 0 || decide ((jitter : Int) < policy.baseBackoff.tdiv 2)

/-- One step of a call of `retry.Do`, which reads the clock and the error of its context. -/
def retryStep (policy : RetryPolicy) (now : Nat) (ctx : Option Err) (phase : RetryPhase) :
    RetryAction → Option RetryPhase
  | .enter =>
    match phase with
    | .entered =>
      if policy.maxAttempts ≤ 0 then some (.returned (some (attemptsErr policy.maxAttempts)))
      else some (.looping 0)
    | _ => none
  | .check =>
    match phase with
    | .looping attempt =>
      if (attempt : Int) < policy.maxAttempts then
        -- A context that is done stays done with the same error.
        match ctx with
        | some err => some (.returned (some err))
        | none => some (.admitted attempt)
      else some .fellOut
    | _ => none
  | .call =>
    match phase with
    | .admitted attempt => some (.calling attempt)
    | _ => none
  | .answer err =>
    match phase, err with
    | .calling _, none => some (.returned none)
    | .calling attempt, some err =>
      if (attempt : Int) = policy.maxAttempts - 1 then some (.returned (some err))
      else some (.backing attempt)
    | _, _ => none
  | .sleep jitter =>
    match phase with
    | .backing attempt =>
      if jitterAllowed policy jitter then
        some (.sleeping attempt (now + wrap64 (backoffAfter policy attempt + jitter)))
      else none
    | _ => none
  | .wake =>
    match phase with
    | .sleeping attempt wake => if wake ≤ now then some (.looping (attempt + 1)) else none
    | _ => none
  | .interrupt =>
    match phase, ctx with
    | .sleeping _ _, some err => some (.returned (some err))
    | _, _ => none

/-- What a call of `retry.Do` has returned, if it is over. -/
def RetryPhase.result : RetryPhase → Option (Option Err)
  | .returned err => some err
  | .fellOut => some none
  | _ => none

/-- The steps of `retry.Do`, as a relation between phases. -/
inductive RetryMove (policy : RetryPolicy) (now : Nat) (ctx : Option Err) :
    RetryPhase → RetryAction → RetryPhase → Prop
  | reject (none : policy.maxAttempts ≤ 0) :
    RetryMove policy now ctx .entered .enter (.returned (some (attemptsErr policy.maxAttempts)))
  | enter (positive : 0 < policy.maxAttempts) :
    RetryMove policy now ctx .entered .enter (.looping 0)
  | abort {attempt : Nat} {err : Err} (within : (attempt : Int) < policy.maxAttempts)
      (done : ctx = some err) :
    RetryMove policy now ctx (.looping attempt) .check (.returned (some err))
  | proceed {attempt : Nat} (within : (attempt : Int) < policy.maxAttempts) (live : ctx = none) :
    RetryMove policy now ctx (.looping attempt) .check (.admitted attempt)
  | fall {attempt : Nat} (past : ¬ (attempt : Int) < policy.maxAttempts) :
    RetryMove policy now ctx (.looping attempt) .check .fellOut
  | call {attempt : Nat} : RetryMove policy now ctx (.admitted attempt) .call (.calling attempt)
  | succeed {attempt : Nat} :
    RetryMove policy now ctx (.calling attempt) (.answer none) (.returned none)
  | exhaust {attempt : Nat} {err : Err} (last : (attempt : Int) = policy.maxAttempts - 1) :
    RetryMove policy now ctx (.calling attempt) (.answer (some err)) (.returned (some err))
  | fail {attempt : Nat} {err : Err} (more : (attempt : Int) ≠ policy.maxAttempts - 1) :
    RetryMove policy now ctx (.calling attempt) (.answer (some err)) (.backing attempt)
  | sleep {attempt jitter : Nat} (allowed : jitterAllowed policy jitter = true) :
    RetryMove policy now ctx (.backing attempt) (.sleep jitter)
      (.sleeping attempt (now + wrap64 (backoffAfter policy attempt + jitter)))
  | wake {attempt : Nat} {wake : Int} (due : wake ≤ now) :
    RetryMove policy now ctx (.sleeping attempt wake) .wake (.looping (attempt + 1))
  | interrupt {attempt : Nat} {wake : Int} {err : Err} (done : ctx = some err) :
    RetryMove policy now ctx (.sleeping attempt wake) .interrupt (.returned (some err))

/-- Every step of `retry.Do` is one of its moves. -/
theorem retryStep_move {policy : RetryPolicy} {now : Nat} {ctx : Option Err}
    {phase next : RetryPhase} {action : RetryAction}
    (taken : retryStep policy now ctx phase action = some next) :
    RetryMove policy now ctx phase action next := by
  -- Each action has one phase in which it is taken, and its guards are the premises of the move.
  cases action with
  | enter =>
    simp only [retryStep] at taken
    split at taken
    · split at taken <;> cases taken
      · exact .reject (by assumption)
      · exact .enter (by omega)
    · cases taken
  | check =>
    simp only [retryStep] at taken
    split at taken
    · split at taken
      · split at taken <;> cases taken
        · exact .abort (by assumption) rfl
        · exact .proceed (by assumption) rfl
      · cases taken
        exact .fall (by assumption)
    · cases taken
  | call =>
    simp only [retryStep] at taken
    split at taken <;> cases taken
    exact .call
  | answer err =>
    simp only [retryStep] at taken
    split at taken
    · cases taken
      exact .succeed
    · split at taken <;> cases taken
      · exact .exhaust (by assumption)
      · exact .fail (by assumption)
    · cases taken
  | sleep jitter =>
    simp only [retryStep] at taken
    split at taken
    · split at taken <;> cases taken
      exact .sleep (by assumption)
    · cases taken
  | wake =>
    simp only [retryStep] at taken
    split at taken
    · split at taken <;> cases taken
      exact .wake (by assumption)
    · cases taken
  | interrupt =>
    simp only [retryStep] at taken
    split at taken <;> cases taken
    exact .interrupt rfl

/-- The loop variable stays below the number of attempts, so the loop never ends at its head. -/
def RetryPhase.Bounded (policy : RetryPolicy) : RetryPhase → Prop
  | .looping attempt | .admitted attempt | .calling attempt =>
    (attempt : Int) < policy.maxAttempts
  | .backing attempt | .sleeping attempt _ => (attempt : Int) + 1 < policy.maxAttempts
  | .fellOut => False
  | _ => True

/-- Every step keeps the loop variable in bounds. -/
theorem RetryMove.bounded {policy : RetryPolicy} {now : Nat} {ctx : Option Err}
    {phase next : RetryPhase} {action : RetryAction}
    (moved : RetryMove policy now ctx phase action next) (holds : phase.Bounded policy) :
    next.Bounded policy := by
  -- The counter grows by one only behind the check that more attempts are left.
  cases moved with
  | enter positive => exact positive
  | fall past => exact past holds
  | fail more =>
    unfold RetryPhase.Bounded at holds ⊢
    omega
  | wake due =>
    unfold RetryPhase.Bounded at holds ⊢
    omega
  | reject | abort | succeed | exhaust | interrupt => trivial
  | proceed | call | sleep => exact holds

/-- One call of `retry.Do` with its clock and its context. -/
structure RetryState where
  now : Nat
  -- The error of the context, once it is done.
  ctx : Option Err
  phase : RetryPhase
  deriving Repr, DecidableEq

/-- Who takes the next step while `retry.Do` runs. -/
inductive RetryLabel where
  -- Time passes.
  | tick (d : Nat)
  -- The context becomes done.
  | cancel (cause : Err)
  | own (action : RetryAction)
  deriving Repr, DecidableEq

/-- `retry.Do` is called with a context that may already be done. -/
def RetryState.init (ctx : Option Err) : RetryState where
  now := 0
  ctx := ctx
  phase := .entered

/-- One step of `retry.Do` or of its surroundings. -/
def retryMachineStep (policy : RetryPolicy) (s : RetryState) : RetryLabel → Option RetryState
  | .tick d => some { s with now := s.now + d }
  -- Only the first reason a context is done for counts.
  | .cancel cause => some { s with ctx := some (s.ctx.getD cause) }
  | .own action =>
    (retryStep policy s.now s.ctx s.phase action).map fun phase => { s with phase }

/-- The machine whose runs are the executions of one call of `retry.Do`. -/
def retryMachine (policy : RetryPolicy) : Machine RetryState RetryLabel where
  step := retryMachineStep policy

end Bootkit
