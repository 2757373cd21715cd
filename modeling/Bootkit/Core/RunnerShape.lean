import Bootkit.Core.RunnerTrace
import Bootkit.Core.RunnerCauses

/-! The shape of a whole run: one start each, then one stop each in reverse order. -/

namespace Bootkit

open Go

/-- The indices from the last down to a lowest one. -/
def descending (services lowest : Nat) : List Nat :=
  (List.range' lowest (services - lowest)).reverse

/-- Nothing lies above the last index. -/
@[simp] theorem descending_self (services : Nat) : descending services services = [] := by
  simp [descending]

/-- Going one lower adds that index at the end. -/
theorem descending_step {services lowest : Nat} (within : lowest < services) :
    descending services lowest = descending services (lowest + 1) ++ [lowest] := by
  -- The range grows at its low end, which is the end of the reversed list.
  have width : services - lowest = (services - (lowest + 1)) + 1 := by omega
  rw [descending, width, List.range'_succ, List.reverse_cons]
  rfl

/-- All the way down is the reverse of the registration order. -/
theorem descending_zero (services : Nat) :
    descending services 0 = (List.range services).reverse := by
  simp [descending, List.range_eq_range']

/-- The lowest service whose `Stop` was called, counting down from all of them. -/
def MainPhase.stopsCalled (services : Nat) : MainPhase → Nat
  | .stopping left => left
  | .inStop i _ _ | .stopReturned i _ _ _ | .stopReported i _ _ _ | .stopCollected i _ _ => i
  | .finished _ => 0
  | _ => services

/-- The lowest service whose stop hook was called. -/
def MainPhase.stopsHooked (services : Nat) : MainPhase → Nat
  | .stopping left => left
  | .inStop i _ _ | .stopReturned i _ _ _ => i + 1
  | .stopReported i _ _ _ | .stopCollected i _ _ => i
  | .finished _ => 0
  | _ => services

/-- A returned `Stop` that the hook has not been told about. -/
def MainPhase.unhooked : MainPhase → List (Nat × Option Err)
  | .stopReturned i _ _ err => [(i, err)]
  | _ => []

/-- A failed `Stop` that has not been collected, although the hook knows. -/
def MainPhase.uncollected (runner : ApplicationRunner) : MainPhase → List Err
  | .stopReported i _ _ (some err) => [shutdownErr (runner.nameOf i) err]
  | _ => []

/-- The error collected for one returned `Stop`. -/
def stopFailure (runner : ApplicationRunner) (stopped : Nat × Option Err) : Option Err :=
  stopped.2.map (shutdownErr (runner.nameOf stopped.1))

/-- The shutdown part of the trace, read against the position of the shutdown loop. -/
structure StopTrace (runner : ApplicationRunner) (s : RunState) : Prop where
  bound : s.main.stopsHooked runner.services.length ≤ runner.services.length
  calls : s.trace.filterMap RunEvent.stopCall =
    descending runner.services.length (s.main.stopsCalled runner.services.length)
  returns : s.trace.filterMap RunEvent.stopReturn =
    s.trace.filterMap RunEvent.stopHook ++ s.main.unhooked
  hooks : (s.trace.filterMap RunEvent.stopHook).map Prod.fst =
    descending runner.services.length (s.main.stopsHooked runner.services.length)
  errors : s.shutdownErrs ++ s.main.uncollected runner =
    (s.trace.filterMap RunEvent.stopHook).filterMap (stopFailure runner)

/-- Before the first step no service was stopped. -/
theorem stopTrace_init (runner : ApplicationRunner) : StopTrace runner (RunState.init runner) := by
  -- The trace is empty, and no stop is ahead of it.
  constructor <;> simp [RunState.init, MainPhase.stopsHooked, MainPhase.stopsCalled,
    MainPhase.unhooked, MainPhase.uncollected]

/-- Whatever keeps the position of the shutdown loop and shows no stop keeps the shutdown trace. -/
theorem StopTrace.frame {runner : ApplicationRunner} {s next : RunState}
    (holds : StopTrace runner s)
    (called : next.main.stopsCalled runner.services.length =
      s.main.stopsCalled runner.services.length)
    (hooked : next.main.stopsHooked runner.services.length =
      s.main.stopsHooked runner.services.length)
    (unhooked : next.main.unhooked = s.main.unhooked)
    (errs : next.shutdownErrs ++ next.main.uncollected runner =
      s.shutdownErrs ++ s.main.uncollected runner)
    (calls : next.trace.filterMap RunEvent.stopCall = s.trace.filterMap RunEvent.stopCall)
    (returns : next.trace.filterMap RunEvent.stopReturn = s.trace.filterMap RunEvent.stopReturn)
    (hooks : next.trace.filterMap RunEvent.stopHook = s.trace.filterMap RunEvent.stopHook) :
    StopTrace runner next := by
  -- Each field speaks of the position of the loop and of one projection of the trace.
  constructor
  · rw [hooked]; exact holds.bound
  · rw [called, calls]; exact holds.calls
  · rw [unhooked, returns, hooks]; exact holds.returns
  · rw [hooked, hooks]; exact holds.hooks
  · rw [errs, hooks]; exact holds.errors

/-- An event that shows no stop keeps the shutdown trace. -/
theorem StopTrace.silent {runner : ApplicationRunner} {s : RunState} (holds : StopTrace runner s)
    {event : RunEvent} (call : event.stopCall = none) (returns : event.stopReturn = none)
    (hook : event.stopHook = none) : StopTrace runner (s.emit event) := by
  -- The event is invisible to all three projections.
  refine holds.frame rfl rfl rfl rfl ?_ ?_ ?_
  · simp only [RunState.emit, filterMap_concat, call, Option.toList_none, List.append_nil]
  · simp only [RunState.emit, filterMap_concat, returns, Option.toList_none, List.append_nil]
  · simp only [RunState.emit, filterMap_concat, hook, Option.toList_none, List.append_nil]

/-- The goroutines of the start phase stop nothing. -/
theorem StopTrace.group {runner : ApplicationRunner} {s next : RunState} {i : Nat}
    (holds : StopTrace runner s) (moved : GroupMove s i next) : StopTrace runner next := by
  -- What they change besides the trace is not read by the shutdown trace.
  have kept : ∀ starter watcher groupErr contexts,
      StopTrace runner { s with starter, watcher, groupErr, contexts } :=
    fun _ _ _ _ => holds.frame rfl rfl rfl rfl rfl rfl rfl
  cases moved with
  | quiet => exact kept _ _ _ _
  | cancels => exact kept _ _ _ _
  | @shows _ _ event inner =>
    apply (kept _ _ _ _).silent <;> cases event <;> simp_all [RunEvent.outside]
  | @hands _ _ _ event inner =>
    rw [RunState.record_eq]
    apply (kept _ _ _ _).silent <;> cases event <;> simp_all [RunEvent.outside]

/-- Each round of the shutdown loop adds one call, one return, and one hook, going down. -/
theorem stopTrace_main {runner : ApplicationRunner} {s next : RunState} {action : MainAction}
    (moved : MainMove runner s action next) (holds : StopTrace runner s) :
    StopTrace runner next := by
  have ⟨bound, calls, returns, hooks, errors⟩ := holds
  cases moved with
  | @callStop i phase =>
    rw [RunState.expire_eq]
    simp only [phase, MainPhase.stopsHooked, MainPhase.stopsCalled, MainPhase.unhooked,
      MainPhase.uncollected] at bound calls returns hooks errors
    refine ⟨bound, ?_, ?_, ?_, ?_⟩ <;> simp only [RunState.emit, filterMap_concat]
    · simp [MainPhase.stopsCalled, calls, descending_step bound]
    · simp [MainPhase.unhooked, returns]
    · simp [MainPhase.stopsHooked, hooks]
    · simp [MainPhase.uncollected, ← errors]
  | @stopReturns i start budget err phase =>
    simp only [phase, MainPhase.stopsHooked, MainPhase.stopsCalled, MainPhase.unhooked,
      MainPhase.uncollected] at bound calls returns hooks errors
    refine ⟨bound, ?_, ?_, ?_, ?_⟩ <;> simp only [RunState.emit, filterMap_concat]
    · simp [MainPhase.stopsCalled, calls]
    · simp [MainPhase.unhooked, returns]
    · simp [MainPhase.stopsHooked, hooks]
    · simp [MainPhase.uncollected, ← errors]
  | @report i start budget err phase =>
    simp only [phase, MainPhase.stopsHooked, MainPhase.stopsCalled, MainPhase.unhooked,
      MainPhase.uncollected] at bound calls returns hooks errors
    refine ⟨Nat.le_of_lt bound, ?_, ?_, ?_, ?_⟩ <;> simp only [RunState.emit, filterMap_concat]
    · simp [MainPhase.stopsCalled, calls]
    · simp [MainPhase.unhooked, returns]
    · simp [MainPhase.stopsHooked, hooks, descending_step bound]
    · cases err <;> simp [MainPhase.uncollected, stopFailure, ← errors]
  | collectQuietly phase logs =>
    refine holds.frame (by rw [phase]; rfl) (by rw [phase]; rfl) (by rw [phase]; rfl) ?_ rfl rfl rfl
    -- The error moves from the position of the loop into the list.
    rw [phase]
    exact List.append_nil _
  | collectLogged phase logs =>
    apply StopTrace.silent
    · refine holds.frame (by rw [phase]; rfl) (by rw [phase]; rfl) (by rw [phase]; rfl) ?_
        rfl rfl rfl
      rw [phase]
      exact List.append_nil _
    all_goals rfl
  | _ phase =>
    refine holds.frame ?_ ?_ ?_ ?_ rfl rfl rfl <;> rw [phase] <;> rfl

/-- Whether the shutdown phase has begun. -/
def MainPhase.shutting : MainPhase → Bool
  | .stopping _ | .inStop _ _ _ | .stopReturned _ _ _ _ | .stopReported _ _ _ _
  | .stopCollected _ _ _ | .finished _ => true
  | _ => false

/-- Every goroutine of the start phase has returned, and its outcome is known. -/
structure Quiet (runner : ApplicationRunner) (s : RunState) : Prop where
  starters : ∀ i, i < runner.services.length → ∃ err, s.starter i = .done err
  watchers : ∀ i, i < runner.services.length → runner.watched i = true →
    ∃ late result, s.watcher i = .done late result
  outcome : s.startErr = s.groupErr

/-- The shutdown phase runs with every goroutine of the start phase gone. -/
def ShutsDownQuietly (runner : ApplicationRunner) (s : RunState) : Prop :=
  s.main.shutting = true → Quiet runner s

/-- No start goroutine is left to move during the shutdown phase. -/
theorem start_not_shutting {runner : ApplicationRunner} {s next : RunState} {i : Nat}
    {action : StartAction} (moved : StartMove runner s i action next)
    (fresh : Launched runner s) (quiet : ShutsDownQuietly runner s) : s.main.shutting = false := by
  by_contra shutting
  have shutting : s.main.shutting = true := by simpa using shutting
  by_cases within : i < runner.services.length
  · obtain ⟨err, done⟩ := (quiet shutting).starters i within
    cases moved <;> simp_all
  · -- Past the registered services there is no goroutine at all.
    have absent : s.starter i = .unlaunched := by
      rw [fresh.starters i]
      cases phase : s.main <;> simp_all [MainPhase.launched, MainPhase.shutting]
    cases moved <;> simp_all

/-- No readiness watcher is left to move during the shutdown phase. -/
theorem watch_not_shutting {runner : ApplicationRunner} {s next : RunState} {i : Nat}
    {action : WatchAction} (moved : WatchMove runner s i action next)
    (fresh : Launched runner s) (quiet : ShutsDownQuietly runner s) : s.main.shutting = false := by
  -- A watcher that exists has returned, and one that does not exist cannot move.
  by_contra shutting
  have shutting : s.main.shutting = true := by simpa using shutting
  by_cases watched : i < runner.services.length ∧ runner.watched i = true
  · obtain ⟨late, result, done⟩ := (quiet shutting).watchers i watched.1 watched.2
    cases moved <;> simp_all
  · have absent : s.watcher i = .unlaunched := by
      rw [fresh.watchers i]
      cases phase : s.main <;> simp_all [MainPhase.guarded, MainPhase.shutting]
      all_goals by_cases within : i < runner.services.length <;> simp_all
    cases moved <;> simp_all

/-- Waiting returns only when the group has seen every goroutine. -/
theorem quiet_of_groupDone {runner : ApplicationRunner} {s : RunState}
    (all : s.groupDone runner = true) :
    (∀ i, i < runner.services.length → ∃ err, s.starter i = .done err) ∧
      ∀ i, i < runner.services.length → runner.watched i = true →
        ∃ late result, s.watcher i = .done late result := by
  -- The check over the range is read off service by service.
  simp only [RunState.groupDone, List.all_eq_true, List.mem_range, Bool.and_eq_true,
    Bool.or_eq_true, Bool.not_eq_true'] at all
  constructor
  · intro i within
    have returned := (all i within).1
    split at returned
    · rename_i err done
      exact ⟨err, done⟩
    · simp at returned
  · intro i within watched
    rcases (all i within).2 with unwatched | returned
    · simp [watched] at unwatched
    · split at returned
      · rename_i late result done
        exact ⟨late, result, done⟩
      · simp at returned

/-- The main goroutine enters the shutdown phase quietly and changes nothing of that there. -/
theorem shutsDownQuietly_main {runner : ApplicationRunner} {s next : RunState}
    {action : MainAction} (moved : MainMove runner s action next)
    (holds : ShutsDownQuietly runner s) : ShutsDownQuietly runner next := by
  -- The phase is entered by the wait alone; later steps start nobody.
  intro shutting
  cases moved with
  | waitReturns phase all =>
    obtain ⟨starters, watchers⟩ := quiet_of_groupDone all
    exact ⟨starters, watchers, rfl⟩
  | callStop phase =>
    rw [RunState.expire_eq]
    obtain ⟨starters, watchers, outcome⟩ := holds (by simp [phase, MainPhase.shutting])
    exact ⟨starters, watchers, outcome⟩
  | _ phase =>
    simp only [RunState.emit, MainPhase.shutting, Bool.false_eq_true] at shutting
    try
      obtain ⟨starters, watchers, outcome⟩ := holds (by simp [phase, MainPhase.shutting])
      exact ⟨starters, watchers, outcome⟩

/-- Everything the start phase waits for is in the trace. -/
def StartsReturned (runner : ApplicationRunner) (trace : List RunEvent) : Prop :=
  ∀ i, i < runner.services.length → (∃ err, RunEvent.startReturned i err ∈ trace) ∧
    (runner.watched i = true → ∃ result, RunEvent.watcherDone i result ∈ trace)

/-- No `Stop` is called before everything the start phase waits for has returned. -/
def StopsLast (runner : ApplicationRunner) (trace : List RunEvent) : Prop :=
  ∀ before after i budget, trace = before ++ .stopCalled i budget :: after →
    StartsReturned runner before

/-- An event that calls no `Stop` keeps the order. -/
theorem StopsLast.other {runner : ApplicationRunner} {trace : List RunEvent} {event : RunEvent}
    (ordered : StopsLast runner trace) (other : event.stopCall = none) :
    StopsLast runner (trace ++ [event]) := by
  -- A split at a call of `Stop` lies in the old part of the trace.
  intro before after i budget split
  rcases split_concat split with ⟨_, same, _⟩ | ⟨rest, _, earlier⟩
  · subst same
    simp at other
  · exact ordered before rest i budget earlier

/-- The goroutines of the start phase keep the order. -/
theorem StopsLast.group {runner : ApplicationRunner} {s next : RunState} {i : Nat}
    (ordered : StopsLast runner s.trace) (moved : GroupMove s i next) :
    StopsLast runner next.trace := by
  -- What the members of the group show is no call of a stop.
  cases moved with
  | quiet => exact ordered
  | cancels => exact ordered
  | @shows _ _ event inner =>
    apply ordered.other
    cases event <;> simp_all [RunEvent.outside]
  | @hands _ _ _ event inner =>
    rw [RunState.record_eq]
    apply ordered.other
    cases event <;> simp_all [RunEvent.outside]

/-- What a start goroutine carries as the result of `Start` is in the trace. -/
theorem startReturned_of_result {runner : ApplicationRunner} {s : RunState}
    (trace : StartTrace runner s) {i : Nat} {err : Option Err}
    (carried : (s.starter i).result = some err) : RunEvent.startReturned i err ∈ s.trace := by
  -- The projection of the trace onto this service shows exactly the result.
  have member : err ∈ s.trace.filterMap (RunEvent.startReturnOf i) := by
    have shown : s.trace.filterMap (RunEvent.startReturnOf i) = (s.starter i).result.toList :=
      trace.returns i
    rw [shown, carried]
    exact List.mem_singleton_self err
  obtain ⟨event, present, projected⟩ := List.mem_filterMap.mp member
  cases event <;> simp_all

/-- A quiet state has everything the start phase waits for in its trace. -/
theorem startsReturned_of_quiet {runner : ApplicationRunner} {s : RunState}
    (trace : StartTrace runner s) (quiet : Quiet runner s) : StartsReturned runner s.trace := by
  -- Both kinds of goroutine show in the trace what they carry.
  intro i within
  constructor
  · obtain ⟨err, done⟩ := quiet.starters i within
    exact ⟨err, startReturned_of_result trace (by simp [done])⟩
  · intro watched
    obtain ⟨late, result, done⟩ := quiet.watchers i within watched
    have shown := trace.watchers i
    have member : result ∈ s.trace.filterMap (RunEvent.watcherDoneOf i) := by simp [shown, done]
    obtain ⟨event, present, projected⟩ := List.mem_filterMap.mp member
    refine ⟨result, ?_⟩
    cases event <;> simp_all

/-- A finished run returned the join of what the start phase and the shutdown loop kept. -/
def JoinsErrors (s : RunState) : Prop :=
  ∀ result, s.main = .finished result → result = Err.join (s.startErr.toList ++ s.shutdownErrs)

/-- Everything that holds in every state of every run. -/
structure RunInvariant (runner : ApplicationRunner) (s : RunState) : Prop where
  fresh : Launched runner s
  starts : StartTrace runner s
  stops : StopTrace runner s
  quiet : ShutsDownQuietly runner s
  ordered : StopsLast runner s.trace
  joins : JoinsErrors s

/-- The initial state satisfies everything a run maintains. -/
theorem runInvariant_init (runner : ApplicationRunner) :
    RunInvariant runner (RunState.init runner) where
  -- Nothing was launched, shown or shut down.
  fresh := launched_init runner
  starts := startTrace_init runner
  stops := stopTrace_init runner
  quiet := by simp [ShutsDownQuietly, RunState.init, MainPhase.shutting]
  ordered := by simp [StopsLast, RunState.init]
  joins := by simp [JoinsErrors, RunState.init]

/-- A goroutine of the start phase maintains everything, if it maintains its own part. -/
theorem RunInvariant.group {runner : ApplicationRunner} {s next : RunState} {i : Nat}
    (holds : RunInvariant runner s) (moved : GroupMove s i next)
    (running : s.main.shutting = false) (fresh : Launched runner next)
    (starts : StartTrace runner next) :
    RunInvariant runner next := by
  obtain ⟨main, -⟩ := moved.main_now
  refine ⟨fresh, starts, holds.stops.group moved, ?_, holds.ordered.group moved, ?_⟩
  -- Outside the shutdown phase its two conditions hold vacuously.
  · intro shutting
    simp [main, running] at shutting
  · intro result finished
    simp [← main, finished, MainPhase.shutting] at running

/-- A start goroutine maintains everything. -/
theorem runInvariant_start {runner : ApplicationRunner} {s next : RunState} {i : Nat}
    {action : StartAction} (moved : StartMove runner s i action next)
    (holds : RunInvariant runner s) : RunInvariant runner next :=
  holds.group moved.group (start_not_shutting moved holds.fresh holds.quiet)
    (launched_start moved holds.fresh) (startTrace_start moved holds.starts)

/-- A readiness watcher maintains everything. -/
theorem runInvariant_watch {runner : ApplicationRunner} {s next : RunState} {i : Nat}
    {action : WatchAction} (moved : WatchMove runner s i action next)
    (holds : RunInvariant runner s) : RunInvariant runner next :=
  holds.group moved.group (watch_not_shutting moved holds.fresh holds.quiet)
    (launched_watch moved holds.fresh) (startTrace_watch moved holds.starts)

/-- The main goroutine maintains everything. -/
theorem runInvariant_main {runner : ApplicationRunner} {s next : RunState} {action : MainAction}
    (moved : MainMove runner s action next) (holds : RunInvariant runner s) :
    RunInvariant runner next := by
  refine ⟨launched_main moved holds.fresh, startTrace_main moved holds.fresh holds.starts,
    stopTrace_main moved holds.stops, shutsDownQuietly_main moved holds.quiet, ?_, ?_⟩
  · cases moved with
    | @callStop i phase =>
      rw [RunState.expire_eq]
      intro before after j budget split
      -- A new call of `Stop` sees the whole quiet trace before it.
      have returned : StartsReturned runner s.trace := startsReturned_of_quiet holds.starts
        (holds.quiet (by simp [phase, MainPhase.shutting]))
      rcases split_concat split with ⟨rfl, _, _⟩ | ⟨rest, _, earlier⟩
      · exact returned
      · exact holds.ordered before rest j budget earlier
    | stopReturns phase => exact holds.ordered.other rfl
    | report phase => exact holds.ordered.other rfl
    | collectLogged phase logs => exact holds.ordered.other rfl
    | _ phase => exact holds.ordered
  · intro result finished
    cases moved with
    | finish phase =>
      simp only [MainPhase.finished.injEq] at finished
      rw [← finished]
      rfl
    | callStop phase =>
      rw [RunState.expire_eq] at finished
      simp [RunState.emit] at finished
    | _ phase => simp [RunState.emit] at finished

/-- Time, contexts, and readiness channels may change without touching any of this. -/
theorem RunInvariant.environment {runner : ApplicationRunner} {s : RunState}
    (holds : RunInvariant runner s) (now : Nat) (contexts : Scope → Option Err)
    (ready : Nat → Bool) : RunInvariant runner { s with now, contexts, ready } := by
  -- No field reads the clock, a context, or a channel.
  obtain ⟨⟨bound, starters, watchers⟩, ⟨calls, returns, hooks, handed, watches, failures⟩,
    ⟨low, stopCalls, stopReturns, stopHooks, errors⟩, quiet, ordered, joins⟩ := holds
  refine ⟨⟨bound, starters, watchers⟩, ⟨calls, returns, hooks, handed, watches, failures⟩,
    ⟨low, stopCalls, stopReturns, stopHooks, errors⟩, ?_, ordered, joins⟩
  intro shutting
  obtain ⟨starters, watchers, outcome⟩ := quiet shutting
  exact ⟨starters, watchers, outcome⟩

/-- Everything holds in every state a run reaches. -/
theorem runInvariant_run {runner : ApplicationRunner} {labels : List RunLabel} {s : RunState}
    (reached : (runMachine runner).run (RunState.init runner) labels = some s) :
    RunInvariant runner s := by
  -- Each kind of goroutine maintains the invariant on its own.
  refine run_by_moves (fun _ s => RunInvariant runner s) (runInvariant_init runner) ?_ ?_ ?_ ?_
    labels s (Machine.Obeys.always _ _ _) reached
  · intro _ _ s now contexts ready _ holds
    exact holds.environment now contexts ready
  · intro _ s action next _ _ moved holds
    exact runInvariant_main moved holds
  · intro _ s i action next _ _ moved holds
    exact runInvariant_start moved holds
  · intro _ s i action next _ _ moved holds
    exact runInvariant_watch moved holds

/-- A finished run is in its shutdown phase. -/
theorem shutting_of_finished {s : RunState} {result : Option Err}
    (finished : s.main = .finished result) : s.main.shutting = true := by
  -- The last phase is one of the shutdown.
  rw [finished]
  rfl

/-- A finished run kept one error for each `Stop` that failed. -/
theorem shutdownErrs_of_finished {runner : ApplicationRunner} {s : RunState}
    {result : Option Err} (stops : StopTrace runner s) (finished : s.main = .finished result) :
    s.shutdownErrs =
      (s.trace.filterMap RunEvent.stopReturn).filterMap (stopFailure runner) := by
  -- At the end the loop holds nothing back from the hook or from the list.
  have returns := stops.returns
  have errors := stops.errors
  simp only [finished, MainPhase.unhooked, MainPhase.uncollected, List.append_nil] at returns errors
  rw [errors, returns]

/-- What a watcher handed to the group is what its goroutine has returned. -/
theorem watcher_of_watcherDone {runner : ApplicationRunner} {s : RunState}
    (trace : StartTrace runner s) {i : Nat} {result : Option Err}
    (shown : RunEvent.watcherDone i result ∈ s.trace) :
    ∃ late, s.watcher i = .done late result := by
  -- The event is in the projection onto this service, which shows only a returned watcher.
  have member : result ∈ s.trace.filterMap (RunEvent.watcherDoneOf i) :=
    List.mem_filterMap.mpr ⟨_, shown, by simp⟩
  rw [trace.watchers i] at member
  cases phase : s.watcher i <;> simp_all

/--
A terminating run starts every service once, waits for all of them, stops every service once in
reverse order, and returns what went wrong on the way.
-/
theorem run_shape (runner : ApplicationRunner) (labels : List RunLabel) (s : RunState)
    (result : Option Err)
    (reached : (runMachine runner).run (RunState.init runner) labels = some s)
    (finished : s.main = .finished result) :
    -- Each `Start` is called once and returns once, and the hook is told that result.
    (∀ i component, runner.services[i]? = some component →
      s.trace.filterMap (RunEvent.startCallOf i) = [()] ∧
      ∃ err, s.trace.filterMap (RunEvent.startReturnOf i) = [err] ∧
        s.trace.filterMap (RunEvent.startHookOf i) = [err] ∧
        -- The group is handed nil for a success or a cancellation, and else the named error.
        ∃ handed, s.trace.filterMap (RunEvent.starterDoneOf i) = [handed] ∧
          (handed = none ↔ ∀ cause, err = some cause → cause.is canceled = true) ∧
          ∀ cause, err = some cause → cause.is canceled = false →
            handed = some (.wrap (component.name ++ ": " ++ cause.text) [cause])) ∧
    -- A watcher fails with its passed deadline, or with what the group context was done for.
    (∀ i component failure, runner.services[i]? = some component →
      RunEvent.watcherDone i (some failure) ∈ s.trace →
      failure = .wrap (component.name ++ ": start deadline exceeded (" ++
        formatDuration runner.startDeadline ++ ")") [] ∨
      ∃ cause, failure = .new cause ∧ (cause = canceled ∨ RunLabel.cancelCaller cause ∈ labels)) ∧
    -- No `Stop` is called before every `Start` and every watcher has returned.
    (∀ before after i budget, s.trace = before ++ .stopCalled i budget :: after →
      ∀ j, j < runner.services.length → (∃ err, RunEvent.startReturned j err ∈ before) ∧
        (runner.watched j = true → ∃ outcome, RunEvent.watcherDone j outcome ∈ before)) ∧
    -- `Stop` is called once on every service, in reverse order, and the hook is told each result.
    s.trace.filterMap RunEvent.stopCall = (List.range runner.services.length).reverse ∧
    (s.trace.filterMap RunEvent.stopReturn).map Prod.fst =
      (List.range runner.services.length).reverse ∧
    s.trace.filterMap RunEvent.stopHook = s.trace.filterMap RunEvent.stopReturn ∧
    -- The result joins the first start failure with one named error for each failed `Stop`.
    (∃ failures : List Err,
      failures = (s.trace.findSome? RunEvent.groupFailure).toList ++
        (s.trace.filterMap RunEvent.stopReturn).filterMap (fun stopped => stopped.2.map fun err =>
          .wrap ((runner.services[stopped.1]?.map Component.name).getD "" ++
            ": shutdown error: " ++ err.text) [err]) ∧
      result = Err.join failures ∧
      (failures ≠ [] →
        result = some (.wrap ("\n".intercalate (failures.map Err.text)) failures))) ∧
    (result = none ↔ s.trace.findSome? RunEvent.groupFailure = none ∧
      ∀ i err, (i, err) ∈ s.trace.filterMap RunEvent.stopReturn → err = none) := by
  -- The invariant at the end of the loop is the shape, once the positions are put in.
  obtain ⟨fresh, starts, stops, quiet, ordered, joins⟩ := runInvariant_run reached
  obtain ⟨starters, watchers, outcome⟩ := quiet (shutting_of_finished finished)
  have errors := shutdownErrs_of_finished stops finished
  obtain ⟨bound, calls, returns, hooks, _⟩ := stops
  simp only [finished, MainPhase.stopsCalled, MainPhase.stopsHooked, MainPhase.unhooked,
    List.append_nil, descending_zero] at calls returns hooks
  have joined : result = Err.join ((s.trace.findSome? RunEvent.groupFailure).toList ++
      (s.trace.filterMap RunEvent.stopReturn).filterMap (stopFailure runner)) := by
    rw [joins result finished, outcome, starts.failures, errors]
  refine ⟨?_, ?_, ordered, calls, ?_, returns.symm, ⟨_, rfl, joined, ?_⟩, ?_⟩
  · intro i component registered
    obtain ⟨err, done⟩ := starters i (List.getElem?_eq_some_iff.mp registered).1
    refine ⟨?_, err, ?_, ?_, startResult component.name err, ?_, startResult_eq_none, ?_⟩
    · simpa [done] using starts.calls i
    · simpa [done] using starts.returns i
    · simpa [done] using starts.hooks i
    · simpa [done, nameOf_registered registered] using starts.handed i
    · rintro cause rfl failed
      exact startResult_failed failed
  · intro i component failure registered shown
    obtain ⟨late, done⟩ := watcher_of_watcherDone starts shown
    have explained := watch_failure_caused reached i late failure (by simp [done])
    rw [nameOf_registered registered] at explained
    cases late with
    | true => exact .inl (explained.1 rfl)
    | false => exact .inr (explained.2 rfl)
  · rw [returns, hooks]
  · intro some
    rw [joined]
    exact Err.join_of_ne_nil some
  · rw [joined, Err.join_eq_none, List.append_eq_nil_iff]
    refine and_congr ?_ ?_
    · cases s.trace.findSome? RunEvent.groupFailure <;> simp
    · rw [List.filterMap_eq_nil_iff]
      simp [stopFailure]

/-- Two services that announce no readiness. -/
def twoServices : ApplicationRunner :=
  newApplicationRunner [.withServices [⟨"db", false, none⟩, ⟨"cache", false, none⟩]]

/-- A failure that is no cancellation. -/
def refused : Err := .new ⟨"net", "connection refused"⟩

/-- The main goroutine up to its wait for this many services. -/
def launchLabels (services : Nat) : List RunLabel :=
  [.main .wire, .main .enter] ++
    (List.replicate services [RunLabel.main .launch, .main .guard]).flatten ++ [.main .wait]

/-- One service's `Start` from its call to the return of its goroutine. -/
def startLabels (i : Nat) (err : Option Err) : List RunLabel :=
  [.start i .call, .start i (.returns err), .start i .report, .start i .cancel, .start i .leave]

/-- The shutdown loop with these results of `Stop`, and the return of the run. -/
def stopLabels (results : List (Option Err)) : List RunLabel :=
  [.main .waitReturns] ++ results.flatMap (fun err => [.main .callStop, .main (.stopReturns err),
    .main .report, .main .collect, .main .cancel]) ++ [.main .finish]

/-- What the run below returns: the one failed `Stop`, behind the name of its service. -/
def cacheNotStopped : Err :=
  .wrap "cache: shutdown error: connection refused"
    [.wrap "cache: shutdown error: connection refused" [refused]]

/-- Two services are stopped in reverse order although the first `Stop` fails. -/
theorem run_shape_two : ∃ s,
    (runMachine twoServices).run (RunState.init twoServices) (launchLabels 2 ++
      startLabels 0 none ++ startLabels 1 none ++ stopLabels [some refused, none]) = some s ∧
    s.main = .finished (some cacheNotStopped) ∧
    s.trace.filterMap RunEvent.stopCall = [1, 0] := by
  -- The run is finished, so the shape gives the order of the stops.
  obtain ⟨s, reached, finished⟩ := (runMachine twoServices).run_observe (RunState.init twoServices)
    (launchLabels 2 ++ startLabels 0 none ++ startLabels 1 none ++ stopLabels [some refused, none])
    (fun s => s.main = .finished (some cacheNotStopped)) (by decide +kernel)
  exact ⟨s, reached, finished, (run_shape twoServices _ s _ reached finished).2.2.2.1⟩

end Bootkit
