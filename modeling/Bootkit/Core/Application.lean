import Bootkit.Core.RunnerShape
import Bootkit.Core.LifecycleLaws
import Bootkit.Go.Compose

/-! A whole application: the runner together with the lifecycles of its services. -/

namespace Bootkit

open Go

/-- The steps that a lifecycle takes without the runner. -/
inductive ServiceAction where
  -- `Connect` returns an error, or a release closure, which no adapter leaves nil.
  | connect (failure : Option Err)
  | lockStart
  | decideStart
  | clean
  | cleaned (err : Option Err)
  -- The blocked `Start` returns the error of its context.
  | finish
  | lockStop
  | decideStop
  | released (err : Option Err)
  | unlock
  -- Somebody asks for the readiness channel.
  | ready
  deriving Repr, DecidableEq

/-- What `Connect` returned, as the lifecycle sees it. -/
def connectResult : Option Err → Except Err Bool
  | some err => .error err
  | none => .ok true

/-- The step of the lifecycle; the runner calls `Start` once and `Stop` once. -/
def ServiceAction.label : ServiceAction → LifecycleLabel
  | .connect failure => .start 0 (.connect (connectResult failure))
  | .lockStart => .start 0 .lock
  | .decideStart => .start 0 .decide
  | .clean => .start 0 .clean
  | .cleaned err => .start 0 (.cleaned err)
  | .finish => .start 0 .finish
  | .lockStop => .stop 0 .lock
  | .decideStop => .stop 0 .decide
  | .released err => .stop 0 (.released err)
  | .unlock => .stop 0 .unlock
  | .ready => .ready

/-- What a lifecycle does on its own as part of `Start` belongs to the one call. -/
theorem ServiceAction.label_start {action : ServiceAction} {k : Nat} {starter : StarterAction}
    (same : action.label = .start k starter) :
    k = 0 ∧ starter ≠ .enter ∧ starter ≠ .connect (.ok false) := by
  -- The actions of a service are those of its first start that the runner does not take itself.
  cases action with
  | connect failure =>
    obtain ⟨rfl, rfl⟩ : 0 = k ∧ StarterAction.connect (connectResult failure) = starter := by
      simpa [label] using same
    cases failure <;> simp [connectResult]
  | lockStart | decideStart | clean | cleaned | finish =>
    obtain ⟨rfl, rfl⟩ : 0 = k ∧ _ = starter := by simpa [label] using same
    simp
  | _ => simp [label] at same

/-- What a lifecycle does on its own as part of `Stop` belongs to the one call. -/
theorem ServiceAction.label_stop {action : ServiceAction} {k : Nat} {stopper : StopperAction}
    (same : action.label = .stop k stopper) : k = 0 ∧ stopper ≠ .call := by
  -- The call of `Stop` is the runner's; the rest of it is the service's.
  cases action with
  | lockStop | decideStop | released | unlock =>
    obtain ⟨rfl, rfl⟩ : 0 = k ∧ _ = stopper := by simpa [label] using same
    simp
  | _ => simp [label] at same

/-- Who takes the next step of an application. -/
inductive ApplicationLabel where
  -- The runner and its surroundings, without touching a service.
  | runner (label : RunLabel)
  | callStart (i : Nat)
  | startReturns (i : Nat) (err : Option Err)
  | callStop (i : Nat)
  | stopReturns (i : Nat) (err : Option Err)
  -- A service closes the readiness channel that its watcher reads.
  | announce (i : Nat)
  -- The blocked `Start` finds the context that the runner gave it done.
  | deliver (i : Nat) (cause : Sentinel)
  | service (i : Nat) (action : ServiceAction)
  deriving Repr, DecidableEq

/-- Whether a label of the runner needs a service to take it along. -/
def RunLabel.shared : RunLabel → Bool
  | .becomeReady _ | .main .callStop | .main (.stopReturns _) | .start _ .call
  | .start _ (.returns _) => true
  | _ => false

/-- What a label means to the runner. -/
def ApplicationLabel.toRunner : ApplicationLabel → Option RunLabel
  | .runner label => some label
  | .callStart i => some (.start i .call)
  | .startReturns i err => some (.start i (.returns err))
  | .callStop _ => some (.main .callStop)
  | .stopReturns _ err => some (.main (.stopReturns err))
  | .announce i => some (.becomeReady i)
  | .deliver _ _ | .service _ _ => none

/-- What a label means to the service it concerns. -/
def ApplicationLabel.toService : ApplicationLabel → Option (Nat × LifecycleLabel)
  | .callStart i => some (i, .start 0 .enter)
  | .callStop i => some (i, .stop 0 .call)
  | .announce i => some (i, .start 0 .announce)
  | .deliver i cause => some (i, .cancel 0 cause)
  | .service i action => some (i, action.label)
  -- A return is the runner's step; the lifecycle has already taken its own.
  | .runner _ | .startReturns _ _ | .stopReturns _ _ => none

/-- The state of an application. -/
abbrev ApplicationState := Whole RunState Nat LifecycleState

/-- What the runner and a service agree on as they meet. -/
def ApplicationState.agree (s : ApplicationState) : ApplicationLabel → Bool
  | .runner label => !label.shared
  | .callStart _ | .announce _ | .service _ _ => true
  | .startReturns i err => (s.parts i).starters 0 = .returned err
  | .callStop i => s.main.main = .stopping (i + 1)
  | .stopReturns i err =>
    (match s.main.main with | .inStop j _ _ => i = j | _ => false) &&
      (s.parts i).stoppers 0 = .returned err
  | .deliver i cause => s.main.contexts (.service i) = some (.new cause) &&
    (s.parts i).starters 0 = .blocked && (s.parts i).contexts 0 = none

/-- How the runner drives the services. -/
def applicationWiring :
    Wiring RunState RunLabel Nat LifecycleState LifecycleLabel ApplicationLabel where
  main := ApplicationLabel.toRunner
  part := ApplicationLabel.toService
  agree := ApplicationState.agree

/-- The machine whose runs interleave the runner with the lifecycles of its services. -/
def applicationMachine (runner : ApplicationRunner) : Machine ApplicationState ApplicationLabel :=
  applicationWiring.composed (runMachine runner) (lifecycleMachine true)

/-- The state in which the application calls `Run` on new services. -/
def ApplicationState.init (runner : ApplicationRunner) : ApplicationState where
  main := RunState.init runner
  parts := fun _ => newLifecycle

/-- What a label means to one service. -/
abbrev ApplicationLabel.at (i : Nat) (label : ApplicationLabel) : Option LifecycleLabel :=
  applicationWiring.partAt i label

section Projections

variable {runner : ApplicationRunner} {labels : List ApplicationLabel} {s : ApplicationState}

/-- An application runs its runner. -/
theorem application_runner_run
    (reached : (applicationMachine runner).run (.init runner) labels = some s) :
    (runMachine runner).run (RunState.init runner)
      (labels.filterMap ApplicationLabel.toRunner) = some s.main :=
  Wiring.composed_main_run reached

/-- An application runs each of its services. -/
theorem application_service_run
    (reached : (applicationMachine runner).run (.init runner) labels = some s) (i : Nat) :
    (lifecycleMachine true).run newLifecycle (labels.filterMap (ApplicationLabel.at i)) =
      some (s.parts i) :=
  Wiring.composed_part_run i reached

/-- The runner starts each service once, with a closure that is not nil. -/
theorem application_starts_once (i k : Nat) (action : StarterAction)
    (member : LifecycleLabel.start k action ∈ labels.filterMap (ApplicationLabel.at i)) :
    k = 0 ∧ action ≠ .connect (.ok false) := by
  obtain ⟨label, -, erased⟩ := List.mem_filterMap.mp member
  have concerns : label.toService = some (i, .start k action) := Wiring.partAt_eq_some.mp erased
  -- Every label of a service that moves its `Start` moves the one call.
  cases label with
  | callStart j | announce j =>
    obtain ⟨-, rfl, rfl⟩ : j = i ∧ 0 = k ∧ _ = action := by
      simpa [ApplicationLabel.toService] using concerns
    simp
  | service j inner =>
    obtain ⟨-, same⟩ : j = i ∧ inner.label = .start k action := by
      simpa [ApplicationLabel.toService] using concerns
    obtain ⟨rfl, -, closure⟩ := inner.label_start same
    exact ⟨rfl, closure⟩
  | _ => simp [ApplicationLabel.toService] at concerns

/-- Each service of an application keeps what a lifecycle with one `Start` keeps. -/
theorem application_lifecycleInvariant
    (reached : (applicationMachine runner).run (.init runner) labels = some s) (i : Nat) :
    LifecycleInvariant (labels.filterMap (ApplicationLabel.at i)) (s.parts i) :=
  lifecycleInvariant_run (application_service_run reached i) (application_starts_once i)

/-- The runner of an application keeps what every runner keeps. -/
theorem application_runInvariant
    (reached : (applicationMachine runner).run (.init runner) labels = some s) :
    RunInvariant runner s.main :=
  runInvariant_run (application_runner_run reached)

end Projections

end Bootkit
