import Bootkit.Core.ApplicationWork

/-! An interrupted application is never stuck, unless in code that it was given. -/

namespace Bootkit

open Go

/-- Some step of the application's work is possible. -/
def CanWork (runner : ApplicationRunner) (s : ApplicationState) : Prop :=
  ∃ label : ApplicationLabel, label.works = true ∧
    ((applicationMachine runner).step s label).isSome = true

/-- Whether a step interrupts the application: the caller cancels, or a signal arrives. -/
def ApplicationLabel.interrupts : ApplicationLabel → Bool
  | .runner label => label.interrupts
  | _ => false

/-- Whether `Run` has returned or crashed. -/
def MainPhase.settled : MainPhase → Bool
  | .finished _ | .crashed => true
  | _ => false

section CanWork

variable {runner : ApplicationRunner} {s : ApplicationState}

/-- What the runner can do on its own the application can do. -/
theorem canWork_runner (label : RunLabel) (own : label.shared = false)
    (paid : (ApplicationLabel.runner label).works = true)
    (can : (runStep runner s.main label).isSome = true) : CanWork runner s :=
  ⟨.runner label, paid, Wiring.composed_enabled (by simp [applicationWiring,
    ApplicationState.agree, own]) can rfl⟩

/-- A label that moves a part is enabled when that part can take its step. -/
theorem advance_concerned {label : ApplicationLabel} {i : Nat} {moved : LifecycleLabel}
    (concerns : label.toService = some (i, moved))
    (can : (lifecycleStep true (s.parts i) moved).isSome = true) :
    (applicationWiring.advanceParts (lifecycleMachine true) s.parts label).isSome = true := by
  -- The parts move with a label exactly when the service that it concerns does.
  have concerns : applicationWiring.part label = some (i, moved) := concerns
  simpa [Wiring.advanceParts, concerns, lifecycleMachine] using can

/-- What a service can do on its own the application can do. -/
theorem canWork_service (i : Nat) (action : ServiceAction) (other : action ≠ .ready)
    (can : (lifecycleStep true (s.parts i) action.label).isSome = true) : CanWork runner s := by
  -- The runner has no share in a service's own steps, so that the service's permission is enough.
  refine ⟨.service i action, ?_, Wiring.composed_enabled rfl rfl (advance_concerned rfl can)⟩
  cases action <;> simp_all [ApplicationLabel.works]

end CanWork

section Progress

variable {runner : ApplicationRunner} {labels : List ApplicationLabel} {s : ApplicationState}
  {i : Nat}

/-- The mutex of a service is free while neither of its two calls is inside. -/
theorem mutex_free (reached : (applicationMachine runner).run (.init runner) labels = some s)
    (start : ((s.parts i).starters 0).holds = false)
    (stop : ((s.parts i).stoppers 0).holds = false) : (s.parts i).mu = none := by
  have guarded := guards_run (application_service_run reached i)
  cases held : (s.parts i).mu with
  | none => rfl
  | some call =>
    have inside := (guarded call).mpr held
    -- Whoever holds the mutex is one of the two calls that the runner made.
    cases call with
    | start k =>
      by_cases first : k = 0
      · subst first
        simp [LifecycleState.inside, start] at inside
      · have idle := (application_lifecycleInvariant reached i).alone k first
        simp [LifecycleState.inside, idle, StarterPhase.holds] at inside
    | stop k =>
      by_cases first : k = 0
      · subst first
        simp [LifecycleState.inside, stop] at inside
      · have idle := (synced_run reached i).lone k first
        simp [LifecycleState.inside, idle, StopperPhase.holds] at inside

/-- The one `Start` of a lifecycle does not panic. -/
theorem Custody.sound {history : List LifecycleLabel} {stopFunc : Option Nat}
    {stopped shown : Bool} {count : Nat}
    (custody : Custody history .panicked stopFunc stopped shown count) : False := by
  cases custody

/-- A `Start` whose context is done can go on until it has returned to the runner. -/
theorem start_canWork (reached : (applicationMachine runner).run (.init runner) labels = some s)
    {since : Nat} (running : s.main.starter i = .running since)
    (unstopped : (s.parts i).stoppers 0 = .idle)
    (done : s.main.done (.service i) = true) : CanWork runner s := by
  have called := (synced_run reached i).called (by simp [running])
  cases phase : (s.parts i).starters 0 with
  | idle => exact absurd phase called
  | connecting =>
    refine canWork_service i (.connect none) (by simp) ?_
    simp [ServiceAction.label, connectResult, lifecycleStep, starterStep, phase]
  | connected stop =>
    have free := mutex_free reached (i := i) (by simp [phase, StarterPhase.holds])
      (by simp [unstopped, StopperPhase.holds])
    refine canWork_service i .lockStart (by simp) ?_
    simp [ServiceAction.label, lifecycleStep, starterStep, phase, free]
  | locked stop =>
    refine canWork_service i .decideStart (by simp) ?_
    simp only [ServiceAction.label, lifecycleStep, starterStep, phase]
    split <;> rfl
  | spurned stop =>
    refine canWork_service i .clean (by simp) ?_
    cases stop <;> simp [ServiceAction.label, lifecycleStep, starterStep, phase]
  | cleaning stop =>
    refine canWork_service i (.cleaned none) (by simp) ?_
    simp [ServiceAction.label, lifecycleStep, starterStep, phase]
  | stored =>
    refine ⟨.announce i, rfl, Wiring.composed_enabled rfl rfl (advance_concerned rfl ?_)⟩
    simp only [lifecycleStep, starterStep, phase]
    split <;> rfl
  | blocked =>
    cases told : (s.parts i).contexts 0 with
    | some err =>
      refine canWork_service i .finish (by simp) ?_
      simp [ServiceAction.label, lifecycleStep, starterStep, phase, told]
    | none =>
      -- The context is done, and the call has yet to see it.
      obtain ⟨err, known⟩ := Option.isSome_iff_exists.mp done
      obtain ⟨cause, rfl, -⟩ :=
        contexts_caused (application_runner_run reached) (.service i) err rfl known
      refine ⟨.deliver i cause, rfl, Wiring.composed_enabled ?_ rfl (advance_concerned rfl rfl)⟩
      simp [applicationWiring, ApplicationState.agree, known, phase, told]
  | returned err =>
    refine ⟨.startReturns i err, rfl, Wiring.composed_enabled ?_ ?_ rfl⟩
    · simp [applicationWiring, ApplicationState.agree, phase]
    · simp [applicationWiring, ApplicationLabel.toRunner, runMachine, runStep, startStep, running]
  | panicked =>
    have custody := (application_lifecycleInvariant reached i).custody
    rw [phase] at custody
    exact custody.sound.elim

/-- The `Stop` that the runner is in can go on until it has returned to the runner. -/
theorem stop_canWork (reached : (applicationMachine runner).run (.init runner) labels = some s)
    {start : Nat} {budget : Int} (inside : s.main.main = .inStop i start budget) :
    CanWork runner s := by
  -- The stop that the main goroutine waits for is at one of its steps, and each of them can be
  -- taken.
  have holds := application_runInvariant reached
  have within : i < runner.services.length := by
    have bound := holds.stops.bound
    rw [inside] at bound
    exact bound
  have called := (synced_run reached i).stopping (by simp [inside, MainPhase.stopsCalled]) within
  cases phase : (s.parts i).stoppers 0 with
  | idle => exact absurd phase called
  | called =>
    -- All starts have returned, so that nobody else holds the mutex.
    obtain ⟨err, returned⟩ := starts_returned_of_shutting reached (by rw [inside]; rfl) within
    have free := mutex_free reached (i := i) (by simp [returned, StarterPhase.holds])
      (by simp [phase, StopperPhase.holds])
    refine canWork_service i .lockStop (by simp) ?_
    simp [ServiceAction.label, lifecycleStep, stopperStep, phase, free]
  | locked =>
    refine canWork_service i .decideStop (by simp) ?_
    simp only [ServiceAction.label, lifecycleStep, stopperStep, phase]
    split
    · rfl
    · split <;> rfl
  | releasing stop =>
    refine canWork_service i (.released none) (by simp) ?_
    simp [ServiceAction.label, lifecycleStep, stopperStep, phase]
  | returning err =>
    refine canWork_service i .unlock (by simp) ?_
    simp [ServiceAction.label, lifecycleStep, stopperStep, phase]
  | returned err =>
    refine ⟨.stopReturns i err, rfl, Wiring.composed_enabled ?_ ?_ rfl⟩
    · simp [applicationWiring, ApplicationState.agree, phase, inside]
    · simp [applicationWiring, ApplicationLabel.toRunner, runMachine, runStep, mainStep, inside]

/-- While the runner waits, a goroutine that has not returned can go on. -/
theorem waiting_canWork (reached : (applicationMachine runner).run (.init runner) labels = some s)
    (waiting : s.main.main = .waiting) (interrupted : s.main.done .signal = true)
    (within : i < runner.services.length)
    (busy : (∀ err, s.main.starter i ≠ .done err) ∨ (runner.watched i = true ∧
      ∀ late result, s.main.watcher i ≠ .done late result)) : CanWork runner s := by
  -- Whoever of the group is not done yet can take a step, now that all contexts are cancelled.
  have holds := application_runInvariant reached
  have synced := synced_run reached i
  have contexts := startContexts_run (application_runner_run reached) (by simp [waiting])
  have group : s.main.done .group = true := by simp [contexts.group, interrupted]
  rcases busy with starter | ⟨watched, watcher⟩
  · have launched : s.main.starter i ≠ .unlaunched := by
      rw [Ne, holds.fresh.starters i, waiting]
      exact Nat.not_le.mpr within
    cases phase : s.main.starter i with
    | unlaunched => exact absurd phase launched
    | launched =>
      have idle := synced.uncalled (by simp [phase])
      refine ⟨.callStart i, rfl, Wiring.composed_enabled rfl ?_ (advance_concerned rfl ?_)⟩
      · simp [applicationWiring, ApplicationLabel.toRunner, runMachine, runStep, startStep, phase]
      · simp [lifecycleStep, starterStep, idle]
    | running since =>
      -- Inside `Start` the service itself has a step, because its context is done and its stop is
      -- not called.
      refine start_canWork reached phase ?_ (by simp [contexts.services i launched, group])
      exact synced.unstopped (by simpa [waiting, MainPhase.stopsCalled] using within)
    | returned since err =>
      exact canWork_runner (.start i .report) rfl rfl (by simp [runStep, startStep, phase])
    | reported err =>
      exact canWork_runner (.start i .cancel) rfl rfl (by simp [runStep, startStep, phase])
    | leaving err =>
      exact canWork_runner (.start i .leave) rfl rfl (by simp [runStep, startStep, phase])
    | done err => exact absurd phase (starter err)
  · have launched : s.main.watcher i ≠ .unlaunched := by
      rw [Ne, holds.fresh.watchers i, waiting, not_or]
      exact ⟨Nat.not_le.mpr within, by simp [watched]⟩
    cases phase : s.main.watcher i with
    | unlaunched => exact absurd phase launched
    | launched =>
      exact canWork_runner (.watch i .arm) rfl rfl (by simp [runStep, watchStep, phase])
    -- A watcher that waits for readiness sees the cancelled context of the group.
    | selecting since =>
      obtain ⟨err, known⟩ := Option.isSome_iff_exists.mp group
      exact canWork_runner (.watch i .interrupt) rfl rfl
        (by simp [runStep, watchStep, phase, known])
    | expired =>
      exact canWork_runner (.watch i .cancel) rfl rfl (by simp [runStep, watchStep, phase])
    | leaving late result =>
      exact canWork_runner (.watch i .leave) rfl rfl (by simp [runStep, watchStep, phase])
    | done late result => exact absurd phase (watcher late result)

/-- What interrupts the application interrupts its runner. -/
theorem interrupts_toRunner (labels : List ApplicationLabel) :
    (labels.filterMap ApplicationLabel.toRunner).any RunLabel.interrupts =
      labels.any ApplicationLabel.interrupts := by
  -- The interruptions of an application are labels of its runner.
  induction labels with
  | nil => rfl
  | cons label rest ih =>
    cases label <;>
      simp [List.filterMap_cons, ApplicationLabel.toRunner, ApplicationLabel.interrupts,
        RunLabel.interrupts, ih]

/-- An interrupted application can go on until `Run` has returned. -/
theorem interrupted_canWork
    (reached : (applicationMachine runner).run (.init runner) labels = some s)
    (interrupted : labels.any ApplicationLabel.interrupts = true)
    (unsettled : s.main.main.settled = false) : CanWork runner s := by
  -- In each phase the main goroutine can move, or somebody it waits for can.
  cases phase : s.main.main with
  | wiring =>
    refine canWork_runner (.main .wire) rfl rfl ?_
    cases known : s.main.aggregator <;> simp [runStep, mainStep, phase, known]
  | entering => exact canWork_runner (.main .enter) rfl rfl (by simp [runStep, mainStep, phase])
  | launching i =>
    by_cases within : i < runner.services.length
    · exact canWork_runner (.main .launch) rfl rfl (by simp [runStep, mainStep, phase, within])
    · exact canWork_runner (.main .wait) rfl rfl (by simp [runStep, mainStep, phase, within])
  | guarding i => exact canWork_runner (.main .guard) rfl rfl (by simp [runStep, mainStep, phase])
  | waiting =>
    have history := signalHistory_run (application_runner_run reached)
    have done : s.main.done .signal = true := by
      rw [history.signal (by simp [phase, MainPhase.listening]), interrupts_toRunner, interrupted]
    by_cases all : s.main.groupDone runner = true
    · exact canWork_runner (.main .waitReturns) rfl rfl (by simp [runStep, mainStep, phase, all])
    · -- Somebody in the group has not returned.
      simp only [RunState.groupDone, List.all_eq_true, List.mem_range, not_forall] at all
      obtain ⟨i, within, busy⟩ := all
      refine waiting_canWork reached phase done within ?_
      by_cases starter : ∃ err, s.main.starter i = .done err
      · obtain ⟨err, starter⟩ := starter
        refine .inr ⟨?_, ?_⟩
        · by_contra unwatched
          simp [starter, unwatched] at busy
        · intro late result watcher
          simp [starter, watcher] at busy
      · exact .inl fun err same => starter ⟨err, same⟩
  | stopping left =>
    cases left with
    | zero => exact canWork_runner (.main .finish) rfl rfl (by simp [runStep, mainStep, phase])
    | succ i =>
      have idle := (synced_run reached i).unstopped (by simp [phase, MainPhase.stopsCalled])
      refine ⟨.callStop i, rfl, Wiring.composed_enabled ?_ ?_ (advance_concerned rfl ?_)⟩
      · simp [applicationWiring, ApplicationState.agree, phase]
      · simp [applicationWiring, ApplicationLabel.toRunner, runMachine, runStep, mainStep, phase]
      · simp [lifecycleStep, stopperStep, idle]
  | inStop i start budget => exact stop_canWork reached phase
  | stopReturned i start budget err =>
    exact canWork_runner (.main .report) rfl rfl (by simp [runStep, mainStep, phase])
  | stopReported i start budget err =>
    refine canWork_runner (.main .collect) rfl rfl ?_
    cases err <;> simp [runStep, mainStep, phase]
  | stopCollected i start budget =>
    exact canWork_runner (.main .cancel) rfl rfl (by simp [runStep, mainStep, phase])
  | finished result => simp [phase, MainPhase.settled] at unsettled
  | crashed => simp [phase, MainPhase.settled] at unsettled

end Progress

/-- An application that is reached by a schedule, with or without an interruption in it. -/
def Reached (runner : ApplicationRunner) (interrupted : Bool) (s : ApplicationState) : Prop :=
  ∃ labels, (applicationMachine runner).run (.init runner) labels = some s ∧
    (interrupted = true → labels.any ApplicationLabel.interrupts = true)

/-- Every step of the work is paid for by what is left to do. -/
theorem application_spends (runner : ApplicationRunner) (interrupted : Bool) :
    (applicationMachine runner).Spends (Reached runner interrupted)
      (ApplicationState.left runner) ApplicationLabel.works := by
  -- A longer schedule reaches the next state, with the same interruption in it.
  rintro s label next ⟨labels, reached, known⟩ taken
  refine ⟨⟨labels ++ [label], ?_, ?_⟩, ?_⟩
  · rw [Machine.run_append, reached]
    simp [Machine.run_cons, taken]
  · intro interrupts
    simp [known interrupts]
  · exact left_move (applicationStep_move taken) (application_runInvariant reached).fresh
      (synced_run reached)

/-- Code that an application was given and calls. When it returns is not up to the application. -/
inductive UserCode where
  -- A provider is asked for its health checks.
  | healthChecks
  | connect (i : Nat)
  -- The closure of a `Start` that finds the service stopped.
  | cleanup (i : Nat)
  -- The closure of a `Stop`.
  | release (i : Nat)
  | startHook (i : Nat)
  | stopHook (i : Nat)
  | logger
  deriving Repr, DecidableEq

/-- Whether an application is at a call of code that it was given. -/
def ApplicationState.awaits (runner : ApplicationRunner) (s : ApplicationState) : UserCode → Bool
  -- Without an aggregator the wiring crashes before it asks anybody.
  | .healthChecks => s.main.main = .wiring && s.main.aggregator.isSome
  | .connect i => (s.parts i).starters 0 = .connecting
  | .cleanup i => match (s.parts i).starters 0 with | .cleaning _ => true | _ => false
  | .release i => match (s.parts i).stoppers 0 with | .releasing _ => true | _ => false
  | .startHook i => match s.main.starter i with | .returned _ _ => true | _ => false
  | .stopHook i => match s.main.main with | .stopReturned j _ _ _ => i = j | _ => false
  | .logger => runner.logger &&
    match s.main.main with | .stopReported _ _ _ (some _) => true | _ => false

/-- The code whose return a step is, if it is one. -/
def ApplicationState.returnOf (runner : ApplicationRunner) (s : ApplicationState) :
    ApplicationLabel → Option UserCode
  | .runner (.main .wire) => if s.awaits runner .healthChecks then some .healthChecks else none
  | .service i (.connect _) => some (.connect i)
  | .service i (.cleaned _) => some (.cleanup i)
  | .service i (.released _) => some (.release i)
  | .runner (.start i .report) => some (.startHook i)
  | .runner (.main .report) =>
    match s.main.main with | .stopReturned i _ _ _ => some (.stopHook i) | _ => none
  | .runner (.main .collect) => if s.awaits runner .logger then some .logger else none
  | _ => none

section UserCode

variable {runner : ApplicationRunner} {s : ApplicationState} {label : ApplicationLabel}
  {code : UserCode}

/-- What a service can do on its own is what the application can do there. -/
theorem service_enabled {i : Nat} {action : ServiceAction}
    (can : (lifecycleStep true (s.parts i) action.label).isSome = true) :
    ((applicationMachine runner).step s (.service i action)).isSome = true :=
  Wiring.composed_enabled rfl rfl (advance_concerned rfl can)

/-- What the runner can do on its own is what the application can do there. -/
theorem runner_enabled {label : RunLabel} (own : label.shared = false)
    (can : (runStep runner s.main label).isSome = true) :
    ((applicationMachine runner).step s (.runner label)).isSome = true :=
  Wiring.composed_enabled (by simp [applicationWiring, ApplicationState.agree, own]) can rfl

/-- Code that is called can return anything, and the application takes it. -/
theorem return_enabled (called : s.awaits runner code = true)
    (returned : s.returnOf runner label = some code) :
    ((applicationMachine runner).step s label).isSome = true := by
  -- Only the labels of a return have one, and each belongs to the phase that awaits it.
  unfold ApplicationState.returnOf at returned
  split at returned
  · split at returned <;> cases returned
    refine runner_enabled rfl ?_
    simp only [ApplicationState.awaits, Bool.and_eq_true, decide_eq_true_eq] at called
    obtain ⟨phase, present⟩ := called
    obtain ⟨aggregator, known⟩ := Option.isSome_iff_exists.mp present
    simp [runStep, mainStep, phase, known]
  · cases returned
    refine service_enabled ?_
    simp only [ApplicationState.awaits, decide_eq_true_eq] at called
    rename_i failure
    cases failure <;>
      simp [ServiceAction.label, connectResult, lifecycleStep, starterStep, called]
  · cases returned
    refine service_enabled ?_
    simp only [ApplicationState.awaits] at called
    split at called
    · rename_i phase
      simp [ServiceAction.label, lifecycleStep, starterStep, phase]
    · cases called
  · cases returned
    refine service_enabled ?_
    simp only [ApplicationState.awaits] at called
    split at called
    · rename_i phase
      simp [ServiceAction.label, lifecycleStep, stopperStep, phase]
    · cases called
  · cases returned
    refine runner_enabled rfl ?_
    simp only [ApplicationState.awaits] at called
    split at called
    · rename_i phase
      simp [runStep, startStep, phase]
    · cases called
  · split at returned
    · rename_i phase
      exact runner_enabled rfl (by simp [runStep, mainStep, phase])
    · cases returned
  · split at returned <;> cases returned
    refine runner_enabled rfl ?_
    simp only [ApplicationState.awaits, Bool.and_eq_true] at called
    obtain ⟨-, called⟩ := called
    split at called
    · rename_i phase
      simp [runStep, mainStep, phase]
    · cases called
  · cases returned

/-- `Connect` returns to a `Start` that has called it. -/
theorem connecting_of_connect {service after : LifecycleState} {failure : Option Err}
    (taken : lifecycleStep true service (ServiceAction.connect failure).label = some after) :
    service.starters 0 = .connecting := by
  -- A start takes this step in one phase only, whatever `Connect` returned.
  have moved : StarterMove true service 0 (.connect (connectResult failure)) after :=
    starterStep_move taken
  generalize connectResult failure = outcome at moved
  cases moved <;> assumption

/-- A cleanup returns to a `Start` that has called it. -/
theorem cleaning_of_cleaned {service after : LifecycleState} {err : Option Err}
    (taken : lifecycleStep true service (ServiceAction.cleaned err).label = some after) :
    ∃ stop, service.starters 0 = .cleaning stop := by
  -- Only a start that cleans up ends its cleanup.
  have moved : StarterMove true service 0 (.cleaned err) after := starterStep_move taken
  cases moved with
  | cleaned phase => exact ⟨_, phase⟩

/-- A release returns to a `Stop` that has called it. -/
theorem releasing_of_released {service after : LifecycleState} {err : Option Err}
    (taken : lifecycleStep true service (ServiceAction.released err).label = some after) :
    ∃ stop, service.stoppers 0 = .releasing stop := by
  -- Only a stop that releases ends its release.
  have moved : StopperMove service 0 (.released err) after := stopperStep_move taken
  cases moved with
  | released phase => exact ⟨_, phase⟩

/-- A return is possible only where the code was called. -/
theorem awaits_of_return (returned : s.returnOf runner label = some code)
    (enabled : ((applicationMachine runner).step s label).isSome = true) :
    s.awaits runner code = true := by
  -- The step that takes the return inverts to the phase in which the code was called.
  obtain ⟨next, taken⟩ := Option.isSome_iff_exists.mp enabled
  have moved := applicationStep_move taken
  unfold ApplicationState.returnOf at returned
  split at returned
  · split at returned <;> cases returned
    assumption
  · cases returned
    cases moved with
    | service inner => simp [ApplicationState.awaits, connecting_of_connect inner]
  · cases returned
    cases moved with
    | service inner =>
      obtain ⟨stop, phase⟩ := cleaning_of_cleaned inner
      simp [ApplicationState.awaits, phase]
  · cases returned
    cases moved with
    | service inner =>
      obtain ⟨stop, phase⟩ := releasing_of_released inner
      simp [ApplicationState.awaits, phase]
  · cases returned
    rename_i i
    cases moved with
    | @runner _ main own inner =>
      have moved : StartMove runner s.main i .report main := startStep_move inner
      cases moved with
      | report phase => simp [ApplicationState.awaits, phase]
  · split at returned <;> cases returned
    rename_i phase
    simp [ApplicationState.awaits, phase]
  · split at returned <;> cases returned
    assumption
  · cases returned

end UserCode

/-- `Run` has returned, or it has crashed because it was given no health aggregator. -/
def ApplicationState.ended (runner : ApplicationRunner) (s : ApplicationState) : Prop :=
  (∃ result, s.main.main = .finished result) ∨
    s.main.main = .crashed ∧ runner.healthAggregator = none

/-- A run crashes only without an aggregator. -/
theorem crashed_run {runner : ApplicationRunner} {labels : List RunLabel} {s : RunState}
    (reached : (runMachine runner).run (RunState.init runner) labels = some s) :
    (s.main = .wiring → s.aggregator = runner.healthAggregator) ∧
      (s.main = .crashed → runner.healthAggregator = none) := by
  -- Until the wiring is done, the aggregator is the one that the runner was given.
  refine run_by_moves (fun _ s => (s.main = .wiring → s.aggregator = runner.healthAggregator) ∧
    (s.main = .crashed → runner.healthAggregator = none)) ?_ ?_ ?_ ?_ ?_
    labels s (Machine.Obeys.always _ _ _) reached
  · exact ⟨fun _ => rfl, by simp [RunState.init]⟩
  · intro _ _ s now contexts ready _ holds
    exact holds
  · intro _ s action next _ _ moved holds
    cases moved with
    | crash phase absent => exact ⟨by simp, fun _ => (holds.1 phase).symm.trans absent⟩
    | callStop phase =>
      rw [RunState.expire_eq]
      simp [RunState.emit]
    | _ phase => simp [RunState.emit]
  · intro _ s i action next _ _ moved holds
    rw [moved.group.main_now.1, moved.group.aggregator]
    exact holds
  · intro _ s i action next _ _ moved holds
    rw [moved.group.main_now.1, moved.group.aggregator]
    exact holds

/-- An interrupted application is over, or there is work that can be done. -/
theorem ended_or_canWork {runner : ApplicationRunner} {labels : List ApplicationLabel}
    {s : ApplicationState}
    (reached : (applicationMachine runner).run (.init runner) labels = some s)
    (interrupted : labels.any ApplicationLabel.interrupts = true) :
    s.ended runner ∨ CanWork runner s := by
  -- A main goroutine that has neither finished nor crashed is in a phase where somebody can work.
  cases phase : s.main.main with
  | finished result => exact .inl (.inl ⟨result, phase⟩)
  | crashed => exact .inl (.inr ⟨phase, (crashed_run (application_runner_run reached)).2 phase⟩)
  | _ => exact .inr (interrupted_canWork reached interrupted (by rw [phase]; rfl))

/--
The work of an application is bounded, and after an interruption only code that it was given can
keep it from its end.

Until `Run` has returned (or has crashed for want of a health aggregator) the application can take
a step of its own, or it waits for the return of such code and goes on whatever that returns. If
all of it returns, `Run` returns.
-/
theorem application_shuts_down (runner : ApplicationRunner) (labels : List ApplicationLabel)
    (s : ApplicationState)
    (reached : (applicationMachine runner).run (.init runner) labels = some s)
    (interrupted : labels.any ApplicationLabel.interrupts = true) :
    -- Every schedule takes a bounded number of steps of the work, with the returns among them.
    (∀ more next, (applicationMachine runner).run s more = some next →
      more.countP ApplicationLabel.works ≤ s.left runner) ∧
    -- Wherever it leads, the application is over, can move, or waits for code that it was given.
    (∀ more next, (applicationMachine runner).run s more = some next →
      next.ended runner ∨
      (∃ label : ApplicationLabel, label.works = true ∧ next.returnOf runner label = none ∧
        ((applicationMachine runner).step next label).isSome = true) ∨
      ∃ code, next.awaits runner code = true ∧
        ∀ label, next.returnOf runner label = some code →
          ((applicationMachine runner).step next label).isSome = true) ∧
    -- Such steps and returns alone lead to the end.
    ∃ more next, (∀ label ∈ more, label.works = true) ∧
      (applicationMachine runner).run s more = some next ∧ next.ended runner := by
  have spends := application_spends runner true
  have start : Reached runner true s := ⟨labels, reached, fun _ => interrupted⟩
  refine ⟨?_, ?_, ?_⟩
  · intro more next continued
    have bound := spends.bound start continued
    omega
  · intro more next continued
    have there : (applicationMachine runner).run (.init runner) (labels ++ more) = some next := by
      rw [Machine.run_append, reached]
      exact continued
    rcases ended_or_canWork there (by simp [interrupted]) with ended | ⟨label, works, enabled⟩
    · exact .inl ended
    · -- The step is the application's own unless it is the return of code that was called.
      cases returned : next.returnOf runner label with
      | none => exact .inr (.inl ⟨label, works, returned, enabled⟩)
      | some code =>
        have called := awaits_of_return returned enabled
        exact .inr (.inr ⟨code, called, fun other same => return_enabled called same⟩)
  · refine spends.reaches ?_ start
    rintro state ⟨path, there, known⟩ working
    rcases ended_or_canWork there (known rfl) with ended | ⟨label, works, enabled⟩
    · exact absurd ended working
    · obtain ⟨next, taken⟩ := Option.isSome_iff_exists.mp enabled
      exact ⟨label, next, works, taken⟩

/-- A signal that arrives while the services connect leads to the end of `Run`. -/
theorem application_shuts_down_early : ∃ s more next,
    (applicationMachine twoServices).run (.init twoServices)
      (applicationLaunch 2 ++ [.callStart 0, .callStart 1, .runner .signal]) = some s ∧
    s.awaits twoServices (.connect 0) = true ∧
    (applicationMachine twoServices).run s more = some next ∧
      ∃ result, next.main.main = .finished result := by
  obtain ⟨s, reached, called⟩ := (applicationMachine twoServices).run_observe
    (.init twoServices) (applicationLaunch 2 ++ [.callStart 0, .callStart 1, .runner .signal])
    (fun s => s.awaits twoServices (.connect 0) = true) (by decide +kernel)
  obtain ⟨-, -, more, next, -, continued, ended⟩ :=
    application_shuts_down twoServices _ s reached (by decide)
  -- This application has an aggregator, so it does not crash.
  rcases ended with finished | ⟨-, absent⟩
  · exact ⟨s, more, next, reached, called, continued, finished⟩
  · cases absent

end Bootkit
