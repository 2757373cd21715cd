import Bootkit.Core.Retry

/-! What a call of `retry.Do` does under every schedule. -/

namespace Bootkit

open Go

/-- Whether a step calls the function. -/
def RetryLabel.calls : RetryLabel → Nat
  | .own .call => 1
  | _ => 0

/-- What the function returns in a step. -/
def RetryLabel.answers : RetryLabel → List (Option Err)
  | .own (.answer err) => [err]
  | _ => []

/-- Whether a step is one of `retry.Do` or of its function. -/
def RetryLabel.steps : RetryLabel → Nat
  | .own _ => 1
  | _ => 0

/-- How often the function was called. -/
def callsMade (labels : List RetryLabel) : Nat :=
  (labels.map RetryLabel.calls).sum

/-- What the function returned, call by call. -/
def answersGiven (labels : List RetryLabel) : List (Option Err) :=
  labels.flatMap RetryLabel.answers

/-- How many steps were not taken by the surroundings. -/
def stepsTaken (labels : List RetryLabel) : Nat :=
  (labels.map RetryLabel.steps).sum

/-- All of the answers are failures. -/
def AllFailed (answers : List (Option Err)) : Prop :=
  ∀ answer ∈ answers, answer ≠ none

/-- One more failure leaves only failures. -/
theorem AllFailed.concat {answers : List (Option Err)} (failed : AllFailed answers) (err : Err) :
    AllFailed (answers ++ [some err]) := by
  -- The new answer is an error too.
  intro answer member
  rcases List.mem_append.mp member with earlier | last
  · exact failed answer earlier
  · rw [List.mem_singleton.mp last]
    exact Option.some_ne_none err

/-- Why a call of `retry.Do` returned what it did. -/
inductive RetryOutcome (policy : RetryPolicy) (answers : List (Option Err)) (ctx : Option Err) :
    Option Err → Prop
  | rejected (none : policy.maxAttempts ≤ 0) :
    RetryOutcome policy answers ctx (some (attemptsErr policy.maxAttempts))
  | succeeded {failures : List (Option Err)} (made : answers = failures ++ [none]) :
    RetryOutcome policy answers ctx none
  | exhausted {failures : List (Option Err)} {err : Err} (made : answers = failures ++ [some err])
      (all : (answers.length : Int) = policy.maxAttempts) (failed : AllFailed answers) :
    RetryOutcome policy answers ctx (some err)
  | interrupted {err : Err} (failed : AllFailed answers)
      (fewer : (answers.length : Int) < policy.maxAttempts) (done : ctx = some err) :
    RetryOutcome policy answers ctx (some err)

/-- What has happened so far when a call of `retry.Do` is in a phase. -/
def RetryProgress (policy : RetryPolicy) (ctx : Option Err) (calls : Nat)
    (answers : List (Option Err)) (steps : Nat) : RetryPhase → Prop
  | .entered => calls = 0 ∧ answers = [] ∧ steps = 0
  | .looping attempt =>
    calls = attempt ∧ answers.length = attempt ∧ AllFailed answers ∧ steps = 5 * attempt + 1
  | .admitted attempt =>
    calls = attempt ∧ answers.length = attempt ∧ AllFailed answers ∧ steps = 5 * attempt + 2
  | .calling attempt =>
    calls = attempt + 1 ∧ answers.length = attempt ∧ AllFailed answers ∧ steps = 5 * attempt + 3
  | .backing attempt => calls = attempt + 1 ∧ answers.length = attempt + 1 ∧
      AllFailed answers ∧ steps = 5 * attempt + 4
  | .sleeping attempt _ => calls = attempt + 1 ∧ answers.length = attempt + 1 ∧
      AllFailed answers ∧ steps = 5 * attempt + 5
  | .returned result => calls = answers.length ∧ RetryOutcome policy answers ctx result ∧
      (0 < policy.maxAttempts →
        (calls : Int) ≤ policy.maxAttempts ∧ (steps : Int) ≤ 5 * policy.maxAttempts)
  | .fellOut => False

/-- A step of `retry.Do` counts as its phases say. -/
theorem RetryMove.progress {policy : RetryPolicy} {now : Nat} {ctx : Option Err} {calls : Nat}
    {answers : List (Option Err)} {steps : Nat} {phase next : RetryPhase} {action : RetryAction}
    (moved : RetryMove policy now ctx phase action next) (bounded : phase.Bounded policy)
    (holds : RetryProgress policy ctx calls answers steps phase) :
    RetryProgress policy ctx (calls + (RetryLabel.own action).calls)
      (answers ++ (RetryLabel.own action).answers) (steps + 1) next := by
  -- The calls run one ahead of the answers while a call is out, and are equal to them elsewhere.
  -- Five steps are enough for each attempt.
  cases moved with
  | reject rejected =>
    obtain ⟨rfl, rfl, rfl⟩ := holds
    exact ⟨rfl, .rejected rejected, by omega⟩
  | enter positive =>
    obtain ⟨rfl, rfl, rfl⟩ := holds
    exact ⟨rfl, rfl, by simp [AllFailed, RetryLabel.answers], rfl⟩
  | abort within done =>
    obtain ⟨made, length, failed, spent⟩ := holds
    simp only [RetryLabel.calls, RetryLabel.answers, List.append_nil, Nat.add_zero]
    exact ⟨made.trans length.symm, .interrupted failed (by omega) done, by omega⟩
  | proceed within live =>
    obtain ⟨made, length, failed, spent⟩ := holds
    simp only [RetryLabel.calls, RetryLabel.answers, List.append_nil, Nat.add_zero]
    exact ⟨made, length, failed, by omega⟩
  -- The loop is never left by its condition.
  | fall past => exact past bounded
  | call =>
    obtain ⟨made, length, failed, spent⟩ := holds
    simp only [RetryLabel.calls, RetryLabel.answers, List.append_nil]
    exact ⟨by omega, length, failed, by omega⟩
  | succeed =>
    obtain ⟨made, length, failed, spent⟩ := holds
    have bound : (_ : Int) < policy.maxAttempts := bounded
    refine ⟨?_, .succeeded rfl, by simp only [RetryLabel.calls]; omega⟩
    simp [RetryLabel.calls, RetryLabel.answers, made, length]
  -- The last answer completes as many failures as there were attempts.
  | @exhaust attempt err last =>
    obtain ⟨made, length, failed, spent⟩ := holds
    have all : ((answers ++ [some err]).length : Int) = policy.maxAttempts := by
      rw [List.length_append, List.length_singleton]
      omega
    refine ⟨?_, .exhausted rfl all (failed.concat err), by simp only [RetryLabel.calls]; omega⟩
    simp [RetryLabel.calls, RetryLabel.answers, made, length]
  | @fail attempt err more =>
    obtain ⟨made, length, failed, spent⟩ := holds
    refine ⟨made, ?_, failed.concat err, by omega⟩
    simp [RetryLabel.answers, length]
  | sleep allowed =>
    obtain ⟨made, length, failed, spent⟩ := holds
    simp only [RetryLabel.calls, RetryLabel.answers, List.append_nil, Nat.add_zero]
    exact ⟨made, length, failed, by omega⟩
  | wake due =>
    obtain ⟨made, length, failed, spent⟩ := holds
    simp only [RetryLabel.calls, RetryLabel.answers, List.append_nil, Nat.add_zero]
    exact ⟨made, length, failed, by omega⟩
  | interrupt done =>
    obtain ⟨made, length, failed, spent⟩ := holds
    have bound : (_ : Int) + 1 < policy.maxAttempts := bounded
    simp only [RetryLabel.calls, RetryLabel.answers, List.append_nil, Nat.add_zero]
    exact ⟨made.trans length.symm, .interrupted failed (by omega) done, by omega⟩

/-- What the steps so far have to do with the state that they led to. -/
structure RetryHistory (policy : RetryPolicy) (labels : List RetryLabel) (s : RetryState) :
    Prop where
  bounded : s.phase.Bounded policy
  progress : RetryProgress policy s.ctx (callsMade labels) (answersGiven labels)
    (stepsTaken labels) s.phase

/-- A context that was done for an outcome stays done for it. -/
theorem RetryProgress.cancel {policy : RetryPolicy} {ctx : Option Err} {calls : Nat}
    {answers : List (Option Err)} {steps : Nat} {phase : RetryPhase}
    (holds : RetryProgress policy ctx calls answers steps phase) (cause : Err) :
    RetryProgress policy (some (ctx.getD cause)) calls answers steps phase := by
  -- Only an outcome speaks of the context.
  cases phase with
  | returned result =>
    obtain ⟨made, outcome, bounds⟩ := holds
    refine ⟨made, ?_, bounds⟩
    cases outcome with
    | rejected rejected => exact .rejected rejected
    | succeeded made => exact .succeeded made
    | exhausted made all failed => exact .exhausted made all failed
    | interrupted failed fewer done => exact .interrupted failed fewer (by simp [done])
  | _ => exact holds

/-- In every run the phase tells what the function was called for and what it returned. -/
theorem retryHistory_run {policy : RetryPolicy} {ctx : Option Err} {labels : List RetryLabel}
    {s : RetryState} (reached : (retryMachine policy).run (RetryState.init ctx) labels = some s) :
    RetryHistory policy labels s := by
  refine (retryMachine policy).run_history (fun labels s => RetryHistory policy labels s)
    ?_ ?_ labels s reached
  · exact ⟨trivial, rfl, rfl, rfl⟩
  · rintro labels s label next - ⟨bounded, progress⟩ taken
    -- The counters add up what the last step contributes.
    have calls : callsMade (labels ++ [label]) = callsMade labels + label.calls := by
      simp [callsMade]
    have answers : answersGiven (labels ++ [label]) = answersGiven labels ++ label.answers := by
      simp [answersGiven]
    have steps : stepsTaken (labels ++ [label]) = stepsTaken labels + label.steps := by
      simp [stepsTaken]
    cases label with
    | tick d =>
      cases taken
      refine ⟨bounded, ?_⟩
      rw [calls, answers, steps]
      simpa [RetryLabel.calls, RetryLabel.answers, RetryLabel.steps] using progress
    | cancel cause =>
      cases taken
      refine ⟨bounded, ?_⟩
      rw [calls, answers, steps]
      simpa [RetryLabel.calls, RetryLabel.answers, RetryLabel.steps] using progress.cancel cause
    | own action =>
      obtain ⟨phase, moved, rfl⟩ := Option.map_eq_some_iff.mp taken
      refine ⟨(retryStep_move moved).bounded bounded, ?_⟩
      rw [calls, answers, steps]
      exact (retryStep_move moved).progress bounded progress

/-- No call can follow: `retry.Do` is over, or will find its context done before the next call. -/
def RetryState.Quiet (s : RetryState) : Prop :=
  s.phase.result ≠ none ∨ s.ctx ≠ none ∧ ∀ attempt, s.phase ≠ .admitted attempt

/-- A step under a context that is done calls nothing and does not lead towards a call. -/
theorem RetryMove.quiet {policy : RetryPolicy} {now : Nat} {ctx : Option Err}
    {phase next : RetryPhase} {action : RetryAction}
    (moved : RetryMove policy now ctx phase action next) (done : ctx ≠ none)
    (unadmitted : ∀ attempt, phase ≠ .admitted attempt) :
    (RetryLabel.own action).calls = 0 ∧ ∀ attempt, next ≠ .admitted attempt := by
  -- The only way to a call is through the check of the context.
  cases moved with
  | proceed within live => exact absurd live done
  | call => exact absurd rfl (unadmitted _)
  | _ => exact ⟨rfl, fun _ => nofun⟩

/-- From a quiet state the function is not called, and the state stays quiet. -/
theorem RetryState.Quiet.step {policy : RetryPolicy} {s next : RetryState} {label : RetryLabel}
    (holds : s.Quiet) (taken : (retryMachine policy).step s label = some next) :
    label.calls = 0 ∧ next.Quiet := by
  cases label with
  | tick d =>
    cases taken
    exact ⟨rfl, holds⟩
  | cancel cause =>
    cases taken
    exact ⟨rfl, holds.imp_right fun ⟨_, unadmitted⟩ => ⟨by simp, unadmitted⟩⟩
  | own action =>
    obtain ⟨phase, moved, rfl⟩ := Option.map_eq_some_iff.mp taken
    have moved := retryStep_move moved
    rcases holds with ended | ⟨done, unadmitted⟩
    · -- A call that is over takes no step.
      generalize s.phase = before at moved ended
      cases moved <;> exact absurd rfl ended
    · obtain ⟨calls, later⟩ := moved.quiet done unadmitted
      exact ⟨calls, .inr ⟨done, later⟩⟩

/-- From a quiet state on, the function is never called. -/
theorem RetryState.Quiet.run {policy : RetryPolicy} {s finish : RetryState}
    {labels : List RetryLabel} (holds : s.Quiet)
    (reached : (retryMachine policy).run s labels = some finish) : callsMade labels = 0 := by
  -- No step of a quiet state makes a call, and each leads to a quiet state.
  induction labels generalizing s with
  | nil => rfl
  | cons label rest ih =>
    rw [Machine.run_cons, Option.bind_eq_some_iff] at reached
    obtain ⟨next, taken, reached⟩ := reached
    obtain ⟨calls, later⟩ := holds.step taken
    have none := ih later reached
    simpa [callsMade, calls] using none

/-- The error of a context that is done does not change. -/
theorem ctx_kept {policy : RetryPolicy} {s finish : RetryState} {labels : List RetryLabel}
    {err : Err} (done : s.ctx = some err)
    (reached : (retryMachine policy).run s labels = some finish) : finish.ctx = some err := by
  -- The first error of a context is its error for good.
  refine (retryMachine policy).run_history (fun _ t => t.ctx = some err) done ?_ labels finish
    reached
  intro _ t label next _ done taken
  cases label with
  | tick d =>
    cases taken
    exact done
  | cancel cause =>
    cases taken
    simp [done]
  | own action =>
    obtain ⟨phase, -, rfl⟩ := Option.map_eq_some_iff.mp taken
    exact done

/-- Once an outcome can only be an interruption, the result is the error of the context. -/
theorem interrupted_result {policy : RetryPolicy} {answers : List (Option Err)} {err : Err}
    {result : Option Err} (outcome : RetryOutcome policy answers (some err) result)
    (positive : 0 < policy.maxAttempts) (failed : AllFailed answers)
    (fewer : (answers.length : Int) < policy.maxAttempts) : result = some err := by
  -- With attempts left and only failures, nothing but the context ends the loop.
  cases outcome with
  | rejected rejected => omega
  | succeeded made => exact absurd rfl (failed none (by simp [made]))
  | exhausted made all failed => omega
  | interrupted failed fewer done => exact done.symm

/-- What an outcome says about the answers and the result. -/
theorem RetryOutcome.spec {policy : RetryPolicy} {answers : List (Option Err)} {ctx : Option Err}
    {result : Option Err} (outcome : RetryOutcome policy answers ctx result)
    (positive : 0 < policy.maxAttempts) :
    (result = none ↔ answers.getLast? = some none) ∧
    ((answers.length : Int) = policy.maxAttempts → AllFailed answers →
      answers.getLast? = some result) ∧
    (result ≠ none → ¬((answers.length : Int) = policy.maxAttempts ∧ AllFailed answers) →
      ∃ err, ctx = some err ∧ result = some err) := by
  -- Each of the ways to end is one of the three cases.
  cases outcome with
  | rejected rejected => omega
  | succeeded made => simp [made]
  | exhausted made all failed =>
    refine ⟨by simp [made], fun _ _ => by simp [made], ?_⟩
    intro _ other
    exact absurd ⟨all, failed⟩ other
  | interrupted failed fewer done =>
    refine ⟨⟨nofun, ?_⟩, fun all => by omega, fun _ _ => ⟨_, done, rfl⟩⟩
    intro last
    exact absurd rfl (failed none (List.mem_of_getLast? last))

/-- When both branches are ready, either one leads to the error of the context without a call. -/
theorem select_irrelevant {policy : RetryPolicy} {ctx : Option Err} {labels : List RetryLabel}
    {s : RetryState} (reached : (retryMachine policy).run (RetryState.init ctx) labels = some s)
    {attempt : Nat} {wake : Int} {err : Err} (phase : s.phase = .sleeping attempt wake)
    (done : s.ctx = some err) {branch : RetryAction} {rest : List RetryLabel} {t : RetryState}
    (later : (retryMachine policy).run s (.own branch :: rest) = some t) :
    callsMade rest = 0 ∧ ∀ result, t.phase.result = some result → result = some err := by
  obtain ⟨bounded, progress⟩ := retryHistory_run reached
  rw [phase] at bounded progress
  obtain ⟨made, length, failed, -⟩ := progress
  have more : (attempt : Int) + 1 < policy.maxAttempts := bounded
  have quiet : s.Quiet := .inr ⟨by simp [done], by simp [phase]⟩
  have none : callsMade (.own branch :: rest) = 0 := quiet.run later
  refine ⟨by simp only [callsMade, List.map_cons, List.sum_cons] at none ⊢; omega, ?_⟩
  -- The whole run has made no call and got no answer since.
  have whole : (retryMachine policy).run (RetryState.init ctx) (labels ++ .own branch :: rest) =
      some t := by
    rw [Machine.run_append, reached]
    exact later
  obtain ⟨finished, progress⟩ := retryHistory_run whole
  intro result ended
  cases last : t.phase with
  | returned returned =>
    rw [last] at progress ended
    obtain rfl : returned = result := by simpa [RetryPhase.result] using ended
    obtain ⟨balance, outcome, -⟩ := progress
    have calls : callsMade (labels ++ .own branch :: rest) = attempt + 1 := by
      have split : callsMade (labels ++ .own branch :: rest) =
          callsMade labels + callsMade (.own branch :: rest) := by
        simp [callsMade]
      omega
    have split : answersGiven (labels ++ .own branch :: rest) =
        answersGiven labels ++ answersGiven (.own branch :: rest) := by
      simp [answersGiven]
    have silent : answersGiven (.own branch :: rest) = [] := by
      rw [split, List.length_append] at balance
      exact List.length_eq_zero_iff.mp (by omega)
    rw [split, silent, List.append_nil, ctx_kept done later] at outcome
    exact interrupted_result outcome (by omega) failed (by omega)
  | fellOut =>
    rw [last] at finished
    exact finished.elim
  | _ => simp [last, RetryPhase.result] at ended

/-- Until it is over, `retry.Do` is inside its function or can go on after some time. -/
theorem retry_advances {policy : RetryPolicy} {s : RetryState} (running : s.phase.result = none) :
    (∃ attempt, s.phase = .calling attempt ∧
      ∀ err, ((retryMachine policy).step s (.own (.answer err))).isSome = true) ∨
    ∃ d action, ((retryMachine policy).run s [.tick d, .own action]).isSome = true := by
  cases phase : s.phase with
  | entered =>
    refine .inr ⟨0, .enter, ?_⟩
    by_cases rejected : policy.maxAttempts ≤ 0 <;>
      simp [Machine.run_cons, retryMachine, retryMachineStep, retryStep, phase, rejected]
  | looping attempt =>
    refine .inr ⟨0, .check, ?_⟩
    by_cases within : (attempt : Int) < policy.maxAttempts <;> cases ctx : s.ctx <;>
      simp [Machine.run_cons, retryMachine, retryMachineStep, retryStep, phase, within, ctx]
  | admitted attempt =>
    refine .inr ⟨0, .call, ?_⟩
    simp [Machine.run_cons, retryMachine, retryMachineStep, retryStep, phase]
  | calling attempt =>
    refine .inl ⟨attempt, rfl, ?_⟩
    intro err
    cases err with
    | none => simp [retryMachine, retryMachineStep, retryStep, phase]
    | some err =>
      by_cases last : (attempt : Int) = policy.maxAttempts - 1 <;>
        simp [retryMachine, retryMachineStep, retryStep, phase, last]
  | backing attempt =>
    refine .inr ⟨0, .sleep 0, ?_⟩
    simp [Machine.run_cons, retryMachine, retryMachineStep, retryStep, phase, jitterAllowed]
  | sleeping attempt wake =>
    -- The timer fires when the clock has got there.
    refine .inr ⟨(wake - s.now).toNat, .wake, ?_⟩
    have due : wake ≤ ((s.now + (wake - s.now).toNat : Nat) : Int) := by omega
    simp only [Machine.run_cons, Machine.run_nil, retryMachine, retryMachineStep, retryStep, phase,
      Option.bind_some, if_pos due]
    rfl
  | returned err => simp [phase, RetryPhase.result] at running
  | fellOut => simp [phase, RetryPhase.result] at running

/--
`retry.Do` does what it says under every schedule of its function, its clock, and its context.

The schedule decides what each call returns, how long everything takes, when the context becomes
done, and which branch a select takes.
-/
theorem retry_do_spec (policy : RetryPolicy) (positive : 0 < policy.maxAttempts)
    (ctx : Option Err) (labels : List RetryLabel) (s : RetryState)
    (reached : (retryMachine policy).run (RetryState.init ctx) labels = some s) :
    (callsMade labels : Int) ≤ policy.maxAttempts ∧
    -- No call once the context was done at the start of an iteration, or during a backoff.
    (∀ before after t, labels = before ++ after →
      (retryMachine policy).run (RetryState.init ctx) before = some t → t.ctx ≠ none →
      (∀ attempt, t.phase ≠ .admitted attempt) → callsMade after = 0) ∧
    -- No call after a success.
    (∀ before after, labels = before ++ .own (.answer none) :: after → callsMade after = 0) ∧
    -- The result is nil after a success, the last error, or the error of the context.
    (∀ result, s.phase.result = some result →
      callsMade labels = (answersGiven labels).length ∧
      (result = none ↔
        0 < callsMade labels ∧ (answersGiven labels).getLast? = some none) ∧
      ((callsMade labels : Int) = policy.maxAttempts → AllFailed (answersGiven labels) →
        (answersGiven labels).getLast? = some result) ∧
      (result ≠ none →
        ¬((callsMade labels : Int) = policy.maxAttempts ∧ AllFailed (answersGiven labels)) →
        ∃ err, s.ctx = some err ∧ result = some err)) ∧
    s.phase ≠ .fellOut ∧
    -- When both branches of the select are ready, both can be taken, to the same effect.
    (∀ attempt wake err, s.phase = .sleeping attempt wake → wake ≤ s.now → s.ctx = some err →
      ∀ branch, branch = .wake ∨ branch = .interrupt →
        ((retryMachine policy).step s (.own branch)).isSome = true ∧
        ∀ rest t, (retryMachine policy).run s (.own branch :: rest) = some t →
          callsMade rest = 0 ∧ ∀ result, t.phase.result = some result → result = some err) ∧
    -- It comes to an end: its steps are bounded, and it gets stuck nowhere.
    (stepsTaken labels : Int) ≤ 5 * policy.maxAttempts ∧
    (s.phase.result = none →
      (∃ attempt, s.phase = .calling attempt ∧
        ∀ err, ((retryMachine policy).step s (.own (.answer err))).isSome = true) ∨
      ∃ d action, ((retryMachine policy).run s [.tick d, .own action]).isSome = true) := by
  obtain ⟨bounded, progress⟩ := retryHistory_run reached
  -- Both bounds are part of what is known of a phase, once its attempt is bounded.
  have counts : (callsMade labels : Int) ≤ policy.maxAttempts ∧
      (stepsTaken labels : Int) ≤ 5 * policy.maxAttempts := by
    cases phase : s.phase with
    | returned result =>
      rw [phase] at progress
      exact progress.2.2 positive
    | fellOut =>
      rw [phase] at progress
      exact progress.elim
    | _ =>
      rw [phase] at bounded progress
      simp only [RetryPhase.Bounded, RetryProgress] at bounded progress
      omega
  refine ⟨counts.1, ?_, ?_, ?_, ?_, ?_, counts.2, retry_advances⟩
  · -- From then on the rest of the run is quiet.
    intro before after t split prior done unadmitted
    rw [split, Machine.run_append, prior] at reached
    exact RetryState.Quiet.run (.inr ⟨done, unadmitted⟩) reached
  · -- So it is after a success, which ends the loop.
    intro before after split
    rw [split] at reached
    obtain ⟨t, next, -, taken, rest⟩ := (retryMachine policy).run_split reached
    obtain ⟨phase, moved, rfl⟩ := Option.map_eq_some_iff.mp taken
    have ended : phase.result ≠ none := by
      have moved := retryStep_move moved
      generalize t.phase = calling at moved
      cases moved
      simp [RetryPhase.result]
    exact RetryState.Quiet.run (.inl ended) rest
  · -- The result is read off the way in which the loop ended.
    intro result ended
    cases phase : s.phase with
    | returned returned =>
      rw [phase] at progress ended
      obtain rfl : returned = result := by simpa [RetryPhase.result] using ended
      obtain ⟨balance, outcome, -⟩ := progress
      obtain ⟨success, failure, interruption⟩ := outcome.spec positive
      rw [balance]
      refine ⟨rfl, success.trans ⟨fun last => ⟨?_, last⟩, fun ⟨_, last⟩ => last⟩, failure,
        interruption⟩
      exact List.length_pos_of_mem (List.mem_of_getLast? last)
    | fellOut =>
      rw [phase] at progress
      exact progress.elim
    | _ => simp [phase, RetryPhase.result] at ended
  · intro fell
    rw [fell] at bounded
    exact bounded
  · -- Whichever branch is taken, the next check finds the context done.
    intro attempt wake err phase due done branch either
    refine ⟨?_, fun rest t later => select_irrelevant reached phase done later⟩
    rcases either with rfl | rfl <;>
      simp [retryMachine, retryMachineStep, retryStep, phase, due, done]

/-- The steps of a first attempt that fails, up to the select, after which the backoff is over. -/
def failedAttempt : List RetryLabel :=
  [.own .enter, .own .check, .own .call, .own (.answer (some (.new deadlineExceeded))),
    .own (.sleep 3), .tick 13]

/-- A second attempt succeeds, unless the context is done by then. -/
theorem retry_do_spec_second :
    (∃ s, (retryMachine ⟨2, 10⟩).run (RetryState.init none) (failedAttempt ++
        [.own .wake, .own .check, .own .call, .own (.answer none)]) = some s ∧
      0 < callsMade (failedAttempt ++
        [.own .wake, .own .check, .own .call, .own (.answer none)])) ∧
    ∃ s, (retryMachine ⟨2, 10⟩).run (RetryState.init none)
        (failedAttempt ++ [.cancel (.new canceled)]) = some s ∧
      ∀ rest t, (retryMachine ⟨2, 10⟩).run s (.own .wake :: rest) = some t →
        callsMade rest = 0 := by
  constructor
  · -- The second attempt succeeds.
    obtain ⟨s, reached, ended⟩ := (retryMachine ⟨2, 10⟩).run_observe (RetryState.init none)
      (failedAttempt ++ [.own .wake, .own .check, .own .call, .own (.answer none)])
      (fun s => s.phase.result = some none) (by decide)
    have spec := retry_do_spec ⟨2, 10⟩ (by decide) none _ s reached
    exact ⟨s, reached, ((spec.2.2.2.1 none ended).2.1.mp rfl).1⟩
  · -- The context is cancelled while the timer has fired.
    obtain ⟨s, reached, phase, due, done⟩ := (retryMachine ⟨2, 10⟩).run_observe
      (RetryState.init none) (failedAttempt ++ [.cancel (.new canceled)])
      (fun s => s.phase = .sleeping 0 13 ∧ 13 ≤ s.now ∧ s.ctx = some (.new canceled))
      (by decide)
    have spec := retry_do_spec ⟨2, 10⟩ (by decide) none _ s reached
    have both := spec.2.2.2.2.2.1 0 13 (.new canceled) phase (by exact_mod_cast due) done
    exact ⟨s, reached, fun rest t later => ((both .wake (.inl rfl)).2 rest t later).1⟩

end Bootkit
