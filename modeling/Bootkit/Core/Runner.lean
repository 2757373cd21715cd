import Bootkit.Go.Context
import Bootkit.Healthkit.Aggregator

/-! The application runner: options, the start supervisor, and the shutdown orchestrator. -/

namespace Bootkit

open Go

/-- A registered service, as far as the runner inspects it. -/
structure Component where
  name : String
  -- Whether it is a `Readyable` whose `Ready` channel is not nil.
  readyable : Bool
  -- The checks it provides, when it is a `HealthCheckProvider`.
  healthChecks : Option (List Check)

/-- A runner whose timeouts satisfy what its constructor guarantees. -/
structure ApplicationRunner where
  -- Whether a logger is installed.
  logger : Bool
  services : List Component
  -- The aggregator, which a deprecated option can set to nil.
  healthAggregator : Option Aggregator
  startDeadline : Int
  shutdownTimeout : Int
  startDeadline_nonneg : 0 ≤ startDeadline
  shutdownTimeout_pos : 0 < shutdownTimeout

/-- The options that configure a runner at construction time. -/
inductive RunnerOption where
  | withLogger (logger : Bool)
  | withShutdownTimeout (d : Int)
  | withStartDeadline (d : Int)
  | withServices (services : List Component)
  | withHealthCacheTTL (d : Int)
  | withHealthAggregator (aggregator : Option Aggregator)

/-- One option applied to a runner under construction. -/
def RunnerOption.apply (runner : ApplicationRunner) : RunnerOption → ApplicationRunner
  | .withLogger logger => { runner with logger }
  -- Non-positive durations are ignored, so the default stays in force.
  | .withShutdownTimeout d =>
    if positive : 0 < d then { runner with shutdownTimeout := d, shutdownTimeout_pos := positive }
    else runner
  | .withStartDeadline d =>
    if positive : 0 < d then
      { runner with startDeadline := d, startDeadline_nonneg := Int.le_of_lt positive }
    else runner
  | .withServices services => { runner with services := runner.services ++ services }
  | .withHealthCacheTTL d => { runner with healthAggregator := some (newAggregator d) }
  | .withHealthAggregator aggregator => { runner with healthAggregator := aggregator }

/-- The runner before any option: fifteen seconds to shut down, and no start deadline. -/
def defaultRunner : ApplicationRunner where
  logger := false
  services := []
  healthAggregator := some (newAggregator 0)
  startDeadline := 0
  shutdownTimeout := 15 * second
  startDeadline_nonneg := by decide
  shutdownTimeout_pos := by decide

/-- A runner built from its options in order. -/
def newApplicationRunner (options : List RunnerOption) : ApplicationRunner :=
  options.foldl RunnerOption.apply defaultRunner

/-- The aggregator after every provider's checks were registered. -/
def healthWiring (services : List Component) (aggregator : Aggregator) : Aggregator :=
  services.foldl
    (fun wired service => match service.healthChecks with
      | some checks => wired.register checks
      | none => wired)
    aggregator.setHook

/-- The contexts that exist during a run, from the caller's down to each service's own. -/
inductive Scope where
  -- The context given to `Run`.
  | caller
  -- The context of `signal.NotifyContext`.
  | signal
  -- The context of the start group.
  | group
  -- The context passed to one service's `Start`.
  | service (i : Nat)
  -- The context passed to one service's `Stop`.
  | stop (i : Nat)
  deriving Repr, DecidableEq

/-- Whether the first context is the second or was derived from it. -/
def Scope.below : Scope → Scope → Bool
  | _, .caller => true
  | .caller, .signal => false
  | _, .signal => true
  | .group, .group => true
  | .service _, .group => true
  | .service i, .service j => i = j
  -- A stop context is derived from the signal context, beside the start group.
  | .stop i, .stop j => i = j
  | _, _ => false

/-- Where the goroutine that runs one service's `Start` is. -/
inductive StartPhase where
  | unlaunched
  | launched
  -- Inside `Start`, entered at the given time.
  | running (since : Nat)
  -- `Start` has returned, and the hook has not been called.
  | returned (since : Nat) (err : Option Err)
  -- The hook has returned, and the deferred cancel has not run.
  | reported (err : Option Err)
  -- The deferred cancel has run, and the group has not seen the result.
  | leaving (err : Option Err)
  -- The group has seen the result.
  | done (err : Option Err)
  deriving Repr, DecidableEq

/-- Where the readiness watcher of one service is. -/
inductive WatchPhase where
  | unlaunched
  | launched
  -- Inside the select, with the timer started at the given time.
  | selecting (since : Nat)
  -- The deadline branch was taken, and the service's context has not been cancelled.
  | expired
  -- A result was chosen, and the group has not seen it.
  | leaving (late : Bool) (result : Option Err)
  -- The group has seen the result.
  | done (late : Bool) (result : Option Err)
  deriving Repr, DecidableEq

/-- Where the goroutine that called `Run` is. -/
inductive MainPhase where
  | wiring
  -- A nil aggregator was dereferenced.
  | crashed
  | entering
  -- About to launch the start goroutine of a service.
  | launching (i : Nat)
  -- About to decide whether that service gets a watcher.
  | guarding (i : Nat)
  | waiting
  -- In the shutdown loop, with this many services left to stop.
  | stopping (left : Nat)
  -- Inside `Stop`, called at the given time with the given budget.
  | inStop (i : Nat) (start : Nat) (budget : Int)
  -- `Stop` has returned, and the hook has not been called.
  | stopReturned (i : Nat) (start : Nat) (budget : Int) (err : Option Err)
  -- The hook has returned, and the error has not been collected.
  | stopReported (i : Nat) (start : Nat) (budget : Int) (err : Option Err)
  -- The error was collected, and the stop context has not been cancelled.
  | stopCollected (i : Nat) (start : Nat) (budget : Int)
  | finished (result : Option Err)
  deriving Repr, DecidableEq

/-- What an observer outside the runner sees, in order. -/
inductive RunEvent where
  | startCalled (i : Nat)
  | startReturned (i : Nat) (err : Option Err)
  | onComponentStart (i : Nat) (name : String) (duration : Nat) (err : Option Err)
  -- The group has seen the result of the start goroutine.
  | starterDone (i : Nat) (result : Option Err)
  -- The group has seen the result of the readiness watcher.
  | watcherDone (i : Nat) (result : Option Err)
  | stopCalled (i : Nat) (budget : Int)
  | stopReturned (i : Nat) (err : Option Err)
  | onComponentStop (i : Nat) (name : String) (duration : Nat) (err : Option Err)
  -- The logger was given a shutdown error.
  | logged (err : Err)
  deriving Repr, DecidableEq

/-- The whole state of one call of `Run`. -/
structure RunState where
  now : Nat
  -- The error of every context, and none while it is live.
  contexts : Scope → Option Err
  -- The first non-nil error the start group has seen.
  groupErr : Option Err
  starter : Nat → StartPhase
  watcher : Nat → WatchPhase
  -- Whether a service's readiness channel is closed.
  ready : Nat → Bool
  main : MainPhase
  -- The aggregator after wiring.
  aggregator : Option Aggregator
  -- The result of the start phase.
  startErr : Option Err
  remainingTimeout : Int
  shutdownErrs : List Err
  trace : List RunEvent

/-- The state in which `Run` is called. -/
def RunState.init (runner : ApplicationRunner) : RunState where
  now := 0
  contexts := fun _ => none
  groupErr := none
  starter := fun _ => .unlaunched
  watcher := fun _ => .unlaunched
  ready := fun _ => false
  main := .wiring
  aggregator := runner.healthAggregator
  startErr := none
  remainingTimeout := runner.shutdownTimeout
  shutdownErrs := []
  trace := []

/-- The name under which a service reports. -/
def ApplicationRunner.nameOf (runner : ApplicationRunner) (i : Nat) : String :=
  (runner.services[i]?.map Component.name).getD ""

/-- Whether a service gets a readiness watcher. -/
def ApplicationRunner.watched (runner : ApplicationRunner) (i : Nat) : Bool :=
  decide (0 < runner.startDeadline) && (runner.services[i]?.map Component.readyable).getD false

/-- What the start goroutine returns: a cancellation is not a failure. -/
def startResult (name : String) (err : Option Err) : Option Err :=
  match err with
  | none => none
  | some err => if err.is canceled then none else some (err.annotate name)

/-- What the watcher returns when the deadline passes. -/
def deadlineErr (name : String) (deadline : Int) : Err :=
  .wrap (name ++ ": start deadline exceeded (" ++ formatDuration deadline ++ ")") []

/-- The error recorded for a failed `Stop`. -/
def shutdownErr (name : String) (err : Err) : Err :=
  .wrap (name ++ ": shutdown error: " ++ err.text) [err]

namespace RunState

/-- One event appended to what the observer has seen. -/
def emit (s : RunState) (event : RunEvent) : RunState :=
  { s with trace := s.trace ++ [event] }

/-- One context and everything derived from it cancelled. -/
def cancel (s : RunState) (scope : Scope) (cause : Err) : RunState :=
  { s with contexts := cancelTree Scope.below s.contexts scope cause }

/-- A goroutine's result handed to the start group: the first failure is kept and cancels. -/
def record (s : RunState) : Option Err → RunState
  | none => s
  | some err =>
    match s.groupErr with
    | some _ => s
    | none => { s.cancel .group (.new canceled) with groupErr := some err }

/-- The timer of the running stop context fires as soon as its deadline has passed. -/
def expire (s : RunState) : RunState :=
  match s.main with
  | .inStop i start budget | .stopReturned i start budget _ | .stopReported i start budget _
  | .stopCollected i start budget =>
    if start + budget ≤ s.now then s.cancel (.stop i) (.new deadlineExceeded) else s
  | _ => s

end RunState

/-- What can happen in the goroutine that runs one service's `Start`. -/
inductive StartAction where
  | call
  | returns (err : Option Err)
  | report
  | cancel
  | leave
  deriving Repr, DecidableEq

/-- What can happen in one readiness watcher. -/
inductive WatchAction where
  | arm
  -- The branch of the select that reads the readiness channel.
  | ready
  -- The branch of the select that reads the timer.
  | expire
  -- The branch of the select that reads the group context.
  | interrupt
  | cancel
  | leave
  deriving Repr, DecidableEq

/-- What can happen in the goroutine that called `Run`. -/
inductive MainAction where
  | wire
  | enter
  | launch
  | guard
  | wait
  | waitReturns
  | callStop
  | stopReturns (err : Option Err)
  | report
  | collect
  | cancel
  | finish
  deriving Repr, DecidableEq

/-- Who takes the next step of a run. -/
inductive RunLabel where
  -- Time passes.
  | tick (d : Nat)
  -- The caller's context becomes done.
  | cancelCaller (cause : Sentinel)
  -- One of the two awaited signals arrives.
  | signal
  -- A service closes its readiness channel.
  | becomeReady (i : Nat)
  | main (action : MainAction)
  | start (i : Nat) (action : StartAction)
  | watch (i : Nat) (action : WatchAction)
  deriving Repr, DecidableEq

/-- Whether the signal handler is installed. -/
def MainPhase.listening : MainPhase → Bool
  | .wiring | .crashed | .entering | .finished _ => false
  | _ => true

/-- One step of a start goroutine. -/
def startStep (runner : ApplicationRunner) (s : RunState) (i : Nat) :
    StartAction → Option RunState
  | .call =>
    match s.starter i with
    | .launched => some ({ s with starter := update s.starter i (.running s.now) }.emit
        (.startCalled i))
    | _ => none
  | .returns err =>
    match s.starter i with
    | .running since => some ({ s with starter := update s.starter i (.returned since err) }.emit
        (.startReturned i err))
    | _ => none
  | .report =>
    match s.starter i with
    | .returned since err => some ({ s with starter := update s.starter i (.reported err) }.emit
        (.onComponentStart i (runner.nameOf i) (s.now - since) err))
    | _ => none
  | .cancel =>
    match s.starter i with
    | .reported err => some ({ s with starter := update s.starter i (.leaving err) }.cancel
        (.service i) (.new canceled))
    | _ => none
  | .leave =>
    match s.starter i with
    | .leaving err => some (({ s with starter := update s.starter i (.done err) }.record
        (startResult (runner.nameOf i) err)).emit
          (.starterDone i (startResult (runner.nameOf i) err)))
    | _ => none

/-- One step of a readiness watcher. -/
def watchStep (runner : ApplicationRunner) (s : RunState) (i : Nat) :
    WatchAction → Option RunState
  | .arm =>
    match s.watcher i with
    | .launched => some { s with watcher := update s.watcher i (.selecting s.now) }
    | _ => none
  | .ready =>
    match s.watcher i with
    | .selecting _ =>
      if s.ready i then some { s with watcher := update s.watcher i (.leaving false none) }
      else none
    | _ => none
  | .expire =>
    match s.watcher i with
    | .selecting since =>
      if since + runner.startDeadline ≤ s.now then
        some { s with watcher := update s.watcher i .expired }
      else none
    | _ => none
  | .interrupt =>
    match s.watcher i, s.contexts .group with
    -- The watcher hands on whatever error the group context has.
    | .selecting _, some err =>
      some { s with watcher := update s.watcher i (.leaving false (some err)) }
    | _, _ => none
  | .cancel =>
    match s.watcher i with
    | .expired => some ({ s with watcher := update s.watcher i (.leaving true
        (some (deadlineErr (runner.nameOf i) runner.startDeadline))) }.cancel
          (.service i) (.new canceled))
    | _ => none
  | .leave =>
    match s.watcher i with
    | .leaving late result => some (({ s with watcher := update s.watcher i (.done late result)
        }.record result).emit (.watcherDone i result))
    | _ => none

/-- Whether every goroutine of the start group has returned. -/
def RunState.groupDone (runner : ApplicationRunner) (s : RunState) : Bool :=
  (List.range runner.services.length).all fun i =>
    (match s.starter i with | .done _ => true | _ => false) &&
      (!runner.watched i || match s.watcher i with | .done _ _ => true | _ => false)

/-- One step of the goroutine that called `Run`. -/
def mainStep (runner : ApplicationRunner) (s : RunState) : MainAction → Option RunState
  | .wire =>
    match s.main, s.aggregator with
    | .wiring, some aggregator => some { s with
        aggregator := some (healthWiring runner.services aggregator), main := .entering }
    | .wiring, none => some { s with main := .crashed }
    | _, _ => none
  | .enter =>
    match s.main with
    -- The signal context and the group context are derived one after the other.
    | .entering => some { s with
        contexts := derive (derive s.contexts .signal .caller) .group .signal
        main := .launching 0 }
    | _ => none
  | .launch =>
    match s.main with
    | .launching i =>
      if i < runner.services.length then some { s with
        contexts := derive s.contexts (.service i) .group
        starter := update s.starter i .launched
        main := .guarding i }
      else none
    | _ => none
  | .guard =>
    match s.main with
    | .guarding i => some { s with
        watcher := if runner.watched i then update s.watcher i .launched else s.watcher
        main := .launching (i + 1) }
    | _ => none
  | .wait =>
    match s.main with
    | .launching i =>
      if i < runner.services.length then none else some { s with main := .waiting }
    | _ => none
  | .waitReturns =>
    match s.main with
    | .waiting =>
      if s.groupDone runner then
        -- Returning from the wait also cancels the group context.
        some { s.cancel .group (.new canceled) with
          startErr := s.groupErr
          remainingTimeout := runner.shutdownTimeout
          main := .stopping runner.services.length }
      else none
    | _ => none
  | .callStop =>
    match s.main with
    | .stopping (i + 1) =>
      let budget := s.remainingTimeout.tdiv (i + 1)
      some ({ s with
        contexts := derive s.contexts (.stop i) .signal
        main := .inStop i s.now budget }.expire.emit (.stopCalled i budget))
    | _ => none
  | .stopReturns err =>
    match s.main with
    | .inStop i start budget => some ({ s with main := .stopReturned i start budget err }.emit
        (.stopReturned i err))
    | _ => none
  | .report =>
    match s.main with
    | .stopReturned i start budget err =>
      some ({ s with main := .stopReported i start budget err }.emit
        (.onComponentStop i (runner.nameOf i) (s.now - start) err))
    | _ => none
  | .collect =>
    match s.main with
    | .stopReported i start budget none => some { s with main := .stopCollected i start budget }
    | .stopReported i start budget (some err) =>
      let wrapped := shutdownErr (runner.nameOf i) err
      -- A failed stop is logged, when there is a logger, and kept for the final join.
      let logged := if runner.logger then s.emit (.logged wrapped) else s
      some { logged with
        shutdownErrs := s.shutdownErrs ++ [wrapped]
        main := .stopCollected i start budget }
    | _ => none
  | .cancel =>
    match s.main with
    | .stopCollected i start _ =>
      let left := s.remainingTimeout - (s.now - start)
      some { s.cancel (.stop i) (.new canceled) with
        remainingTimeout := if left < 0 then 0 else left
        main := .stopping i }
    | _ => none
  | .finish =>
    match s.main with
    -- The deferred stop of the signal context runs as `Run` returns.
    | .stopping 0 => some { s.cancel .signal (.new canceled) with
        main := .finished (Err.join (s.startErr.toList ++ s.shutdownErrs)) }
    | _ => none

/-- One step of a run, taken by whoever the label names. -/
def runStep (runner : ApplicationRunner) (s : RunState) : RunLabel → Option RunState
  | .tick d => some { s with now := s.now + d }.expire
  | .cancelCaller cause => some (s.cancel .caller (.new cause))
  | .signal => if s.main.listening then some (s.cancel .signal (.new canceled)) else none
  | .becomeReady i => some { s with ready := update s.ready i true }
  | .main action => mainStep runner s action
  | .start i action => startStep runner s i action
  | .watch i action => watchStep runner s i action

/-- The machine whose runs are the executions of `Run` under every scheduler. -/
def runMachine (runner : ApplicationRunner) : Machine RunState RunLabel where
  step := runStep runner

end Bootkit
