import Bootkit.Core.RunnerMoves
import Bootkit.Go.Trace

/-! The observed trace determines where every goroutine of a run is. -/

namespace Bootkit

open Go

/-- The call of `Start`, once it was made. -/
@[simp] def StartPhase.called : StartPhase → Option Unit
  | .unlaunched | .launched => none
  | _ => some ()

/-- What `Start` returned, once it has. -/
@[simp] def StartPhase.result : StartPhase → Option (Option Err)
  | .returned _ err | .reported err | .leaving err | .done err => some err
  | _ => none

/-- What the start hook was told, once it was called. -/
@[simp] def StartPhase.hooked : StartPhase → Option (Option Err)
  | .reported err | .leaving err | .done err => some err
  | _ => none

/-- What the start goroutine handed to the group, once it has. -/
@[simp] def StartPhase.handed (name : String) : StartPhase → Option (Option Err)
  | .done err => some (startResult name err)
  | _ => none

/-- What the watcher handed to the group, once it has. -/
@[simp] def WatchPhase.seen : WatchPhase → Option (Option Err)
  | .done _ result => some result
  | _ => none

namespace RunEvent

/-- The calls of one service's `Start`. -/
@[simp] def startCallOf (i : Nat) : RunEvent → Option Unit
  | .startCalled j => if i = j then some () else none
  | _ => none

/-- What one service's `Start` returned. -/
@[simp] def startReturnOf (i : Nat) : RunEvent → Option (Option Err)
  | .startReturned j err => if i = j then some err else none
  | _ => none

/-- What `OnComponentStart` was told about one service. -/
@[simp] def startHookOf (i : Nat) : RunEvent → Option (Option Err)
  | .onComponentStart j _ _ err => if i = j then some err else none
  | _ => none

/-- What one service's start goroutine handed to the group. -/
@[simp] def starterDoneOf (i : Nat) : RunEvent → Option (Option Err)
  | .starterDone j result => if i = j then some result else none
  | _ => none

/-- What one service's watcher handed to the group. -/
@[simp] def watcherDoneOf (i : Nat) : RunEvent → Option (Option Err)
  | .watcherDone j result => if i = j then some result else none
  | _ => none

/-- A failure handed to the start group. -/
@[simp] def groupFailure : RunEvent → Option Err
  | .starterDone _ result | .watcherDone _ result => result
  | _ => none

/-- The service whose `Stop` is called. -/
@[simp] def stopCall : RunEvent → Option Nat
  | .stopCalled i _ => some i
  | _ => none

/-- What a `Stop` returned. -/
@[simp] def stopReturn : RunEvent → Option (Nat × Option Err)
  | .stopReturned i err => some (i, err)
  | _ => none

/-- What `OnComponentStop` was told. -/
@[simp] def stopHook : RunEvent → Option (Nat × Option Err)
  | .onComponentStop i _ _ err => some (i, err)
  | _ => none

end RunEvent

/-- The start-phase part of the trace, goroutine by goroutine. -/
structure StartTrace (runner : ApplicationRunner) (s : RunState) : Prop where
  calls : Tracks RunEvent.startCallOf (fun _ => StartPhase.called) s.starter s.trace
  returns : Tracks RunEvent.startReturnOf (fun _ => StartPhase.result) s.starter s.trace
  hooks : Tracks RunEvent.startHookOf (fun _ => StartPhase.hooked) s.starter s.trace
  handed : Tracks RunEvent.starterDoneOf (fun i => StartPhase.handed (runner.nameOf i)) s.starter
    s.trace
  watchers : Tracks RunEvent.watcherDoneOf (fun _ => WatchPhase.seen) s.watcher s.trace
  -- The group keeps the first failure it was handed.
  failures : s.groupErr = s.trace.findSome? RunEvent.groupFailure

/-- Nothing has been observed before the first step. -/
theorem startTrace_init (runner : ApplicationRunner) :
    StartTrace runner (RunState.init runner) := by
  constructor <;> first | rfl | (intro i; rfl)

/-- An event that concerns no goroutine of the start phase. -/
def RunEvent.outside : RunEvent → Bool
  | .stopCalled _ _ | .stopReturned _ _ | .onComponentStop _ _ _ _ | .logged _ => true
  | _ => false

/-- What concerns no goroutine of the start phase changes nothing there. -/
theorem StartTrace.silent {runner : ApplicationRunner} {s : RunState}
    (holds : StartTrace runner s) {event : RunEvent} (outside : event.outside = true) :
    StartTrace runner (s.emit event) := by
  -- None of the projections of the start phase sees such an event.
  obtain ⟨calls, returns, hooks, handed, watchers, failures⟩ := holds
  refine ⟨calls.silent ?_, returns.silent ?_, hooks.silent ?_, handed.silent ?_,
    watchers.silent ?_, ?_⟩
  all_goals cases event <;> simp_all [RunEvent.outside, RunState.emit]

/-- Every move of a start goroutine shows in the trace as its new phase says. -/
theorem startTrace_start {runner : ApplicationRunner} {s next : RunState} {i : Nat}
    {action : StartAction} (moved : StartMove runner s i action next)
    (holds : StartTrace runner s) : StartTrace runner next := by
  obtain ⟨calls, returns, hooks, handed, watchers, failures⟩ := holds
  cases moved with
  | call phase =>
    refine ⟨calls.move ?_ ?_, returns.move ?_ ?_, hooks.move ?_ ?_, handed.move ?_ ?_,
      watchers.silent ?_, ?_⟩
    all_goals simp_all [RunState.emit]
  | returns phase =>
    refine ⟨calls.move ?_ ?_, returns.move ?_ ?_, hooks.move ?_ ?_, handed.move ?_ ?_,
      watchers.silent ?_, ?_⟩
    all_goals simp_all [RunState.emit]
  | report phase =>
    refine ⟨calls.move ?_ ?_, returns.move ?_ ?_, hooks.move ?_ ?_, handed.move ?_ ?_,
      watchers.silent ?_, ?_⟩
    all_goals simp_all [RunState.emit]
  | cancel phase =>
    -- Cancelling the service's context is not an event of the trace.
    refine ⟨calls.shift ?_, returns.shift ?_, hooks.shift ?_, handed.shift ?_, watchers, failures⟩
    all_goals simp [phase]
  | leave phase =>
    rw [RunState.record_eq]
    refine ⟨calls.move ?_ ?_, returns.move ?_ ?_, hooks.move ?_ ?_, handed.move ?_ ?_,
      watchers.silent ?_, ?_⟩
    all_goals simp_all [RunState.emit]

/-- Every move of a readiness watcher shows in the trace as its new phase says. -/
theorem startTrace_watch {runner : ApplicationRunner} {s next : RunState} {i : Nat}
    {action : WatchAction} (moved : WatchMove runner s i action next)
    (holds : StartTrace runner s) : StartTrace runner next := by
  obtain ⟨calls, returns, hooks, handed, watchers, failures⟩ := holds
  cases moved with
  | leave phase =>
    -- Leaving is the only move of a watcher that anyone observes.
    rw [RunState.record_eq]
    refine ⟨calls.silent ?_, returns.silent ?_, hooks.silent ?_, handed.silent ?_,
      watchers.move ?_ ?_, ?_⟩
    all_goals simp_all [RunState.emit]
  | arm phase =>
    exact ⟨calls, returns, hooks, handed, watchers.shift (by simp [phase]), failures⟩
  | ready phase closed =>
    exact ⟨calls, returns, hooks, handed, watchers.shift (by simp [phase]), failures⟩
  | expire phase passed =>
    exact ⟨calls, returns, hooks, handed, watchers.shift (by simp [phase]), failures⟩
  | interrupt phase done =>
    exact ⟨calls, returns, hooks, handed, watchers.shift (by simp [phase]), failures⟩
  | cancel phase =>
    exact ⟨calls, returns, hooks, handed, watchers.shift (by simp [phase]), failures⟩

/-- How many start goroutines have been launched. -/
def MainPhase.launched (services : Nat) : MainPhase → Nat
  | .wiring | .crashed | .entering => 0
  | .launching i => i
  | .guarding i => i + 1
  | _ => services

/-- For how many services the watcher has been decided. -/
def MainPhase.guarded (services : Nat) : MainPhase → Nat
  | .wiring | .crashed | .entering => 0
  | .launching i | .guarding i => i
  | _ => services

/-- The launch loop has reached exactly the goroutines that exist. -/
structure Launched (runner : ApplicationRunner) (s : RunState) : Prop where
  bound : s.main.launched runner.services.length ≤ runner.services.length
  starters : ∀ i, s.starter i = .unlaunched ↔ s.main.launched runner.services.length ≤ i
  watchers : ∀ i, s.watcher i = .unlaunched ↔
    s.main.guarded runner.services.length ≤ i ∨ runner.watched i = false

/-- No goroutine exists before the launch loop. -/
theorem launched_init (runner : ApplicationRunner) : Launched runner (RunState.init runner) := by
  constructor <;> simp [RunState.init, MainPhase.launched, MainPhase.guarded]

/-- A start goroutine that moves is past its launch and stays there. -/
theorem launched_start {runner : ApplicationRunner} {s next : RunState} {i : Nat}
    {action : StartAction} (moved : StartMove runner s i action next)
    (holds : Launched runner s) : Launched runner next := by
  -- Only a launched goroutine moves, and no move takes it back to unlaunched.
  obtain ⟨bound, starters, watchers⟩ := holds
  have own := starters i
  cases moved with
  | leave phase =>
    rw [RunState.record_eq]
    refine ⟨bound, ?_, watchers⟩
    intro j
    by_cases same : j = i <;> simp_all [RunState.emit]
  | _ phase =>
    refine ⟨bound, ?_, watchers⟩
    intro j
    by_cases same : j = i <;> simp_all [RunState.emit, RunState.cancel]

/-- A watcher that moves is past its launch and stays there. -/
theorem launched_watch {runner : ApplicationRunner} {s next : RunState} {i : Nat}
    {action : WatchAction} (moved : WatchMove runner s i action next)
    (holds : Launched runner s) : Launched runner next := by
  -- Only a launched watcher moves, and no move takes it back to unlaunched.
  obtain ⟨bound, starters, watchers⟩ := holds
  have own := watchers i
  cases moved with
  | leave phase =>
    rw [RunState.record_eq]
    refine ⟨bound, starters, ?_⟩
    intro j
    by_cases same : j = i <;> simp_all [RunState.emit]
  | _ phase =>
    refine ⟨bound, starters, ?_⟩
    intro j
    by_cases same : j = i <;> simp_all [RunState.cancel]

/-- The launch loop advances its bound together with what it launches. -/
theorem launched_main {runner : ApplicationRunner} {s next : RunState} {action : MainAction}
    (moved : MainMove runner s action next) (holds : Launched runner s) :
    Launched runner next := by
  obtain ⟨bound, starters, watchers⟩ := holds
  cases moved with
  | @launch i phase within =>
    simp only [phase, MainPhase.launched, MainPhase.guarded] at bound starters watchers
    refine ⟨within, ?_, watchers⟩
    intro j
    by_cases same : j = i
    · subst same
      simp [MainPhase.launched]
    · simp only [MainPhase.launched, update_other s.starter StartPhase.launched same, starters j]
      omega
  | @guard i phase =>
    simp only [phase, MainPhase.launched, MainPhase.guarded] at bound starters watchers
    refine ⟨bound, starters, ?_⟩
    intro j
    simp only [MainPhase.guarded]
    by_cases same : j = i
    · subst same
      -- The loop has just decided this service, so only an unwatched one stays unlaunched.
      by_cases watch : runner.watched j
      · simp [watch]
      · simp [watch, watchers j]
    · have kept : (if runner.watched i then update s.watcher i .launched else s.watcher) j =
          s.watcher j := by
        split <;> simp [same]
      rw [kept, watchers j]
      have shifted : i ≤ j ↔ i + 1 ≤ j := by omega
      rw [shifted]
  | @wait i phase past =>
    simp only [phase, MainPhase.launched, MainPhase.guarded] at bound starters watchers
    -- The loop ends exactly when every service has been launched.
    have all : i = runner.services.length := by omega
    subst all
    exact ⟨Nat.le_refl _, starters, watchers⟩
  | callStop phase =>
    rw [RunState.expire_eq]
    constructor <;> simp_all [RunState.emit, MainPhase.launched, MainPhase.guarded]
  | _ phase =>
    constructor <;>
      simp_all [RunState.emit, RunState.cancel, MainPhase.launched, MainPhase.guarded]

/-- Every move of the main goroutine keeps the start-phase trace in step. -/
theorem startTrace_main {runner : ApplicationRunner} {s next : RunState} {action : MainAction}
    (moved : MainMove runner s action next) (fresh : Launched runner s)
    (holds : StartTrace runner s) : StartTrace runner next := by
  obtain ⟨calls, returns, hooks, handed, watchers, failures⟩ := holds
  cases moved with
  | @launch i phase within =>
    -- A goroutine that did not exist has shown nothing, and a new one shows nothing yet.
    have new : s.starter i = .unlaunched := by
      rw [fresh.starters i, phase]
      exact Nat.le_refl i
    exact ⟨calls.shift (by simp [new]), returns.shift (by simp [new]),
      hooks.shift (by simp [new]), handed.shift (by simp [new]), watchers, failures⟩
  | @guard i phase =>
    refine ⟨calls, returns, hooks, handed, ?_, failures⟩
    have new : s.watcher i = .unlaunched := by
      rw [fresh.watchers i, phase]
      exact .inl (Nat.le_refl i)
    show Tracks _ _ (if runner.watched i then update s.watcher i .launched else s.watcher) _
    split
    · exact watchers.shift (by simp [new])
    · exact watchers
  | callStop phase =>
    rw [RunState.expire_eq]
    apply StartTrace.silent
    · exact ⟨calls, returns, hooks, handed, watchers, failures⟩
    · rfl
  | stopReturns phase =>
    apply StartTrace.silent
    · exact ⟨calls, returns, hooks, handed, watchers, failures⟩
    · rfl
  | report phase =>
    apply StartTrace.silent
    · exact ⟨calls, returns, hooks, handed, watchers, failures⟩
    · rfl
  | collectLogged phase logs =>
    apply StartTrace.silent
    · exact ⟨calls, returns, hooks, handed, watchers, failures⟩
    · rfl
  | _ phase => exact ⟨calls, returns, hooks, handed, watchers, failures⟩

/--
What the goroutines of one service do to the rest of a run.

Besides their own phases they change the trace, the service context, and what the group knows.
-/
inductive GroupMove (s : RunState) (i : Nat) : RunState → Prop
  | quiet {starter : Nat → StartPhase} {watcher : Nat → WatchPhase} :
    GroupMove s i { s with starter, watcher }
  | shows {starter : Nat → StartPhase} {watcher : Nat → WatchPhase} {event : RunEvent}
      (inner : event.outside = false) : GroupMove s i ({ s with starter, watcher }.emit event)
  | cancels {starter : Nat → StartPhase} {watcher : Nat → WatchPhase} {cause : Err} :
    GroupMove s i ({ s with starter, watcher }.cancel (.service i) cause)
  | hands {starter : Nat → StartPhase} {watcher : Nat → WatchPhase} {result : Option Err}
      {event : RunEvent} (inner : event.outside = false) :
    GroupMove s i (({ s with starter, watcher }.record result).emit event)

/-- Every move of a start goroutine is one of these. -/
theorem StartMove.group {runner : ApplicationRunner} {s next : RunState} {i : Nat}
    {action : StartAction} (moved : StartMove runner s i action next) : GroupMove s i next := by
  -- By what the move shows to the others.
  cases moved with
  | call phase => exact .shows rfl
  | returns phase => exact .shows rfl
  | report phase => exact .shows rfl
  | cancel phase => exact .cancels
  | leave phase => exact .hands rfl

/-- Every move of a readiness watcher is one of these. -/
theorem WatchMove.group {runner : ApplicationRunner} {s next : RunState} {i : Nat}
    {action : WatchAction} (moved : WatchMove runner s i action next) : GroupMove s i next := by
  -- A watcher shows nothing before it hands on its result.
  cases moved with
  | cancel phase => exact .cancels
  | leave phase => exact .hands rfl
  | _ phase => exact .quiet

/-- The goroutines of the start phase move neither the clock nor the main goroutine. -/
theorem GroupMove.main_now {s next : RunState} {i : Nat} (moved : GroupMove s i next) :
    next.main = s.main ∧ next.now = s.now := by
  cases moved with
  | hands inner =>
    -- Handing over a failure may cancel the group, and changes nothing else.
    rw [RunState.record_eq]
    exact ⟨rfl, rfl⟩
  | _ => exact ⟨rfl, rfl⟩

/-- The goroutines of the start phase do not touch the aggregator. -/
theorem GroupMove.aggregator {s next : RunState} {i : Nat} (moved : GroupMove s i next) :
    next.aggregator = s.aggregator := by
  -- The aggregator is wired by the main goroutine.
  cases moved with
  | hands inner => rw [RunState.record_eq]; rfl
  | _ => rfl

end Bootkit
