import Bootkit.Core.Runner

/-! What one step of a run can do, stated once for every later argument. -/

namespace Bootkit

open Go

namespace RunState

/-- Recording a result touches the group's error and the contexts below it, and nothing else. -/
theorem record_eq (s : RunState) (result : Option Err) :
    s.record result = { s with
      groupErr := s.groupErr.or result
      contexts := if result.isSome && s.groupErr.isNone
        then cancelTree Scope.below s.contexts .group (.new canceled) else s.contexts } := by
  -- Only the first failure is kept, and only it cancels the group.
  cases result with
  | none => simp [record]
  | some err =>
    cases known : s.groupErr with
    | none => simp [record, known, cancel]
    | some first =>
      simp only [record, known]
      cases s
      simp_all

/-- A firing timer touches nothing but the contexts. -/
theorem expire_eq (s : RunState) : s.expire = { s with contexts := s.expire.contexts } := by
  -- An expiry is seen in the contexts only.
  unfold expire
  split <;> first | rfl | (split <;> rfl)

/-- A firing timer can reach only the context of the running `Stop`. -/
theorem expire_outside {s : RunState} {scope : Scope} (other : ∀ i, scope ≠ .stop i) :
    s.expire.contexts scope = s.contexts scope := by
  unfold expire
  split
  case h_5 => rfl
  all_goals
    split
    · -- Only the stop context itself lies below it.
      apply cancelTree_outside
      cases scope <;> simp_all [Scope.below]
    · rfl

end RunState

/-- A registered service reports under its own name. -/
theorem nameOf_registered {runner : ApplicationRunner} {i : Nat} {component : Component}
    (registered : runner.services[i]? = some component) : runner.nameOf i = component.name := by
  simp [ApplicationRunner.nameOf, registered]

/-- A start goroutine hands nothing on exactly for a success and for a cancellation. -/
theorem startResult_eq_none {name : String} {err : Option Err} :
    startResult name err = none ↔ ∀ cause, err = some cause → cause.is canceled = true := by
  cases err <;> simp [startResult]

/-- It hands something on exactly for a failure that is no cancellation. -/
theorem startResult_isSome {name : String} {err : Option Err} :
    (startResult name err).isSome = true ↔
      ∃ cause, err = some cause ∧ cause.is canceled = false := by
  -- The negation of the law about nil.
  rw [Option.isSome_iff_ne_none, Ne, startResult_eq_none]
  simp

/-- Any other failure is handed on behind the name of the service. -/
theorem startResult_failed {name : String} {cause : Err} (failed : cause.is canceled = false) :
    startResult name (some cause) = some (.wrap (name ++ ": " ++ cause.text) [cause]) := by
  simp [startResult, failed, Err.annotate]

/-- The steps of a start goroutine, as a relation between states. -/
inductive StartMove (runner : ApplicationRunner) (s : RunState) (i : Nat) :
    StartAction → RunState → Prop
  | call (phase : s.starter i = .launched) :
    StartMove runner s i .call ({ s with starter := update s.starter i (.running s.now) }.emit
      (.startCalled i))
  | returns {since : Nat} {err : Option Err} (phase : s.starter i = .running since) :
    StartMove runner s i (.returns err)
      ({ s with starter := update s.starter i (.returned since err) }.emit (.startReturned i err))
  | report {since : Nat} {err : Option Err} (phase : s.starter i = .returned since err) :
    StartMove runner s i .report ({ s with starter := update s.starter i (.reported err) }.emit
      (.onComponentStart i (runner.nameOf i) (s.now - since) err))
  | cancel {err : Option Err} (phase : s.starter i = .reported err) :
    StartMove runner s i .cancel ({ s with starter := update s.starter i (.leaving err) }.cancel
      (.service i) (.new canceled))
  | leave {err : Option Err} (phase : s.starter i = .leaving err) :
    StartMove runner s i .leave (({ s with starter := update s.starter i (.done err) }.record
      (startResult (runner.nameOf i) err)).emit
        (.starterDone i (startResult (runner.nameOf i) err)))

/-- Every step of a start goroutine is one of its five moves. -/
theorem startStep_move {runner : ApplicationRunner} {s next : RunState} {i : Nat}
    {action : StartAction} (taken : startStep runner s i action = some next) :
    StartMove runner s i action next := by
  -- Each action is enabled in exactly one phase.
  cases action <;> simp only [startStep] at taken <;> split at taken <;> cases taken <;>
    rename_i phase <;> constructor <;> exact phase

/-- The steps of a readiness watcher, as a relation between states. -/
inductive WatchMove (runner : ApplicationRunner) (s : RunState) (i : Nat) :
    WatchAction → RunState → Prop
  | arm (phase : s.watcher i = .launched) :
    WatchMove runner s i .arm { s with watcher := update s.watcher i (.selecting s.now) }
  | ready {since : Nat} (phase : s.watcher i = .selecting since) (closed : s.ready i = true) :
    WatchMove runner s i .ready { s with watcher := update s.watcher i (.leaving false none) }
  | expire {since : Nat} (phase : s.watcher i = .selecting since)
      (passed : since + runner.startDeadline ≤ s.now) :
    WatchMove runner s i .expire { s with watcher := update s.watcher i .expired }
  | interrupt {since : Nat} {err : Err} (phase : s.watcher i = .selecting since)
      (done : s.contexts .group = some err) :
    WatchMove runner s i .interrupt
      { s with watcher := update s.watcher i (.leaving false (some err)) }
  | cancel (phase : s.watcher i = .expired) :
    WatchMove runner s i .cancel ({ s with watcher := update s.watcher i (.leaving true
      (some (deadlineErr (runner.nameOf i) runner.startDeadline))) }.cancel
        (.service i) (.new canceled))
  | leave {late : Bool} {result : Option Err} (phase : s.watcher i = .leaving late result) :
    WatchMove runner s i .leave (({ s with watcher := update s.watcher i (.done late result)
      }.record result).emit (.watcherDone i result))

/-- Every step of a readiness watcher is one of its six moves. -/
theorem watchStep_move {runner : ApplicationRunner} {s next : RunState} {i : Nat}
    {action : WatchAction} (taken : watchStep runner s i action = some next) :
    WatchMove runner s i action next := by
  -- The branches of the select have a guard of their own, which the second split exposes.
  cases action <;> simp only [watchStep] at taken <;> split at taken
  all_goals try split at taken
  all_goals cases taken
  all_goals first
    | exact .arm (by assumption)
    | exact .ready (by assumption) (by assumption)
    | exact .expire (by assumption) (by assumption)
    | exact .interrupt (by assumption) (by assumption)
    | exact .cancel (by assumption)
    | exact .leave (by assumption)

/-- The steps of the goroutine that called `Run`, as a relation between states. -/
inductive MainMove (runner : ApplicationRunner) (s : RunState) : MainAction → RunState → Prop
  | wire {aggregator : Aggregator} (phase : s.main = .wiring)
      (present : s.aggregator = some aggregator) :
    MainMove runner s .wire { s with
      aggregator := some (healthWiring runner.services aggregator), main := .entering }
  | crash (phase : s.main = .wiring) (absent : s.aggregator = none) :
    MainMove runner s .wire { s with main := .crashed }
  | enter (phase : s.main = .entering) :
    MainMove runner s .enter { s with
      contexts := derive (derive s.contexts .signal .caller) .group .signal
      main := .launching 0 }
  | launch {i : Nat} (phase : s.main = .launching i) (within : i < runner.services.length) :
    MainMove runner s .launch { s with
      contexts := derive s.contexts (.service i) .group
      starter := update s.starter i .launched
      main := .guarding i }
  | guard {i : Nat} (phase : s.main = .guarding i) :
    MainMove runner s .guard { s with
      watcher := if runner.watched i then update s.watcher i .launched else s.watcher
      main := .launching (i + 1) }
  | wait {i : Nat} (phase : s.main = .launching i) (past : ¬ i < runner.services.length) :
    MainMove runner s .wait { s with main := .waiting }
  | waitReturns (phase : s.main = .waiting) (all : s.groupDone runner = true) :
    MainMove runner s .waitReturns { s.cancel .group (.new canceled) with
      startErr := s.groupErr
      remainingTimeout := runner.shutdownTimeout
      main := .stopping runner.services.length }
  | callStop {i : Nat} (phase : s.main = .stopping (i + 1)) :
    MainMove runner s .callStop ({ s with
      contexts := derive s.contexts (.stop i) .signal
      main := .inStop i s.now (s.remainingTimeout.tdiv (i + 1)) }.expire.emit
        (.stopCalled i (s.remainingTimeout.tdiv (i + 1))))
  | stopReturns {i start : Nat} {budget : Int} {err : Option Err}
      (phase : s.main = .inStop i start budget) :
    MainMove runner s (.stopReturns err) ({ s with main := .stopReturned i start budget err }.emit
      (.stopReturned i err))
  | report {i start : Nat} {budget : Int} {err : Option Err}
      (phase : s.main = .stopReturned i start budget err) :
    MainMove runner s .report ({ s with main := .stopReported i start budget err }.emit
      (.onComponentStop i (runner.nameOf i) (s.now - start) err))
  | collectNothing {i start : Nat} {budget : Int}
      (phase : s.main = .stopReported i start budget none) :
    MainMove runner s .collect { s with main := .stopCollected i start budget }
  | collectQuietly {i start : Nat} {budget : Int} {err : Err}
      (phase : s.main = .stopReported i start budget (some err)) (logs : runner.logger = false) :
    MainMove runner s .collect { s with
      shutdownErrs := s.shutdownErrs ++ [shutdownErr (runner.nameOf i) err]
      main := .stopCollected i start budget }
  | collectLogged {i start : Nat} {budget : Int} {err : Err}
      (phase : s.main = .stopReported i start budget (some err)) (logs : runner.logger = true) :
    MainMove runner s .collect ({ s with
      shutdownErrs := s.shutdownErrs ++ [shutdownErr (runner.nameOf i) err]
      main := .stopCollected i start budget }.emit (.logged (shutdownErr (runner.nameOf i) err)))
  | cancel {i start : Nat} {budget : Int} (phase : s.main = .stopCollected i start budget) :
    MainMove runner s .cancel { s.cancel (.stop i) (.new canceled) with
      remainingTimeout := if s.remainingTimeout - (s.now - start) < 0 then 0
        else s.remainingTimeout - (s.now - start)
      main := .stopping i }
  | finish (phase : s.main = .stopping 0) :
    MainMove runner s .finish { s.cancel .signal (.new canceled) with
      main := .finished (Err.join (s.startErr.toList ++ s.shutdownErrs)) }

/-- Every step of the goroutine that called `Run` is one of its moves. -/
theorem mainStep_move {runner : ApplicationRunner} {s next : RunState} {action : MainAction}
    (taken : mainStep runner s action = some next) : MainMove runner s action next := by
  cases action with
  | wire =>
    simp only [mainStep] at taken
    split at taken <;> cases taken
    · exact .wire (by assumption) (by assumption)
    · exact .crash (by assumption) (by assumption)
  | enter =>
    simp only [mainStep] at taken
    split at taken <;> cases taken
    exact .enter (by assumption)
  | launch =>
    simp only [mainStep] at taken
    split at taken
    · split at taken <;> cases taken
      exact .launch (by assumption) (by assumption)
    · cases taken
  | guard =>
    simp only [mainStep] at taken
    split at taken <;> cases taken
    exact .guard (by assumption)
  | wait =>
    simp only [mainStep] at taken
    split at taken
    · split at taken <;> cases taken
      exact .wait (by assumption) (by assumption)
    · cases taken
  | waitReturns =>
    simp only [mainStep] at taken
    split at taken
    · split at taken <;> cases taken
      exact .waitReturns (by assumption) (by assumption)
    · cases taken
  | callStop =>
    simp only [mainStep] at taken
    split at taken <;> cases taken
    exact .callStop (by assumption)
  | stopReturns err =>
    simp only [mainStep] at taken
    split at taken <;> cases taken
    exact .stopReturns (by assumption)
  | report =>
    simp only [mainStep] at taken
    split at taken <;> cases taken
    exact .report (by assumption)
  | collect =>
    simp only [mainStep] at taken
    split at taken
    · cases taken
      exact .collectNothing (by assumption)
    · -- Whether the error is also logged depends only on the runner.
      cases logs : runner.logger <;> simp only [logs] at taken <;> cases taken
      · exact .collectQuietly (by assumption) logs
      · exact .collectLogged (by assumption) logs
    · cases taken
  | cancel =>
    simp only [mainStep] at taken
    split at taken <;> cases taken
    exact .cancel (by assumption)
  | finish =>
    simp only [mainStep] at taken
    split at taken <;> cases taken
    exact .finish (by assumption)

/-- Whether a label belongs to the surroundings rather than to a goroutine of the runner. -/
def RunLabel.outer : RunLabel → Bool
  | .tick _ | .cancelCaller _ | .signal | .becomeReady _ => true
  | _ => false

/-- A step of the surroundings changes only time, contexts, and readiness channels. -/
theorem runStep_outer {runner : ApplicationRunner} {s next : RunState} {label : RunLabel}
    (outer : label.outer = true) (taken : runStep runner s label = some next) :
    next = { s with now := next.now, contexts := next.contexts, ready := next.ready } := by
  -- None of these steps touches a goroutine, and a timer touches only contexts.
  cases label with
  | tick d =>
    cases taken
    rw [RunState.expire_eq]
  | cancelCaller cause => cases taken; rfl
  | signal =>
    simp only [runStep] at taken
    split at taken <;> cases taken
    rfl
  | becomeReady i => cases taken; rfl
  | _ => simp [RunLabel.outer] at outer

/--
To follow a relation along a run it is enough to follow it along the moves of each goroutine.

It must not depend on time, on contexts, or on readiness channels, which change on their own.
-/
theorem run_by_moves {runner : ApplicationRunner} {condition : RunState → RunLabel → Prop}
    (related : List RunLabel → RunState → Prop) (initial : related [] (RunState.init runner))
    (outer : ∀ labels label s now contexts ready, label.outer = true → related labels s →
      related (labels ++ [label]) { s with now, contexts, ready })
    (main : ∀ labels s action next,
      (runMachine runner).run (RunState.init runner) labels = some s →
      condition s (.main action) → MainMove runner s action next → related labels s →
      related (labels ++ [.main action]) next)
    (start : ∀ labels s i action next,
      (runMachine runner).run (RunState.init runner) labels = some s →
      condition s (.start i action) → StartMove runner s i action next → related labels s →
      related (labels ++ [.start i action]) next)
    (watch : ∀ labels s i action next,
      (runMachine runner).run (RunState.init runner) labels = some s →
      condition s (.watch i action) → WatchMove runner s i action next → related labels s →
      related (labels ++ [.watch i action]) next) :
    ∀ labels s, (runMachine runner).Obeys condition (RunState.init runner) labels →
      (runMachine runner).run (RunState.init runner) labels = some s → related labels s := by
  -- A label belongs to the surroundings or to one of the three kinds of goroutine.
  apply (runMachine runner).run_obeying related initial
  intro labels s label next prior holds met taken
  by_cases outside : label.outer = true
  · rw [runStep_outer outside taken]
    exact outer labels label s _ _ _ outside holds
  · cases label with
    | main action => exact main labels s action next prior met (mainStep_move taken) holds
    | start i action => exact start labels s i action next prior met (startStep_move taken) holds
    | watch i action => exact watch labels s i action next prior met (watchStep_move taken) holds
    | _ => simp [RunLabel.outer] at outside

end Bootkit
