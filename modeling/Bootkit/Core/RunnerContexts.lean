import Bootkit.Core.RunnerErrors

/-! Which contexts of a run are done, and what made them so. -/

namespace Bootkit

open Go

/-- Whether a context is done. -/
def RunState.done (s : RunState) (scope : Scope) : Bool :=
  (s.contexts scope).isSome

/-- Cancelling makes exactly one subtree done. -/
@[simp] theorem RunState.done_cancel (s : RunState) (root scope : Scope) (cause : Err) :
    (s.cancel root cause).done scope = (s.done scope || scope.below root) := by
  simp [RunState.done, RunState.cancel]

/-- A service's own context lies inside the start group. -/
theorem Scope.below_group {scope : Scope} {i : Nat} (inside : scope.below (.service i) = true) :
    scope.below .group = true := by
  cases scope <;> simp [Scope.below] at inside ⊢

/-- Recording a result reaches no context outside the start group. -/
theorem record_outside {s : RunState} {scope : Scope} (result : Option Err)
    (outside : scope.below .group = false) :
    (s.record result).contexts scope = s.contexts scope := by
  -- A failure cancels the group context at most, whatever the group knew before.
  rw [RunState.record_eq]
  dsimp only
  split
  · exact cancelTree_outside _ outside
  · rfl

/-- A service's cancel reaches no context outside the start group. -/
theorem cancel_outside {s : RunState} {scope : Scope} {i : Nat} (cause : Err)
    (outside : scope.below .group = false) :
    (s.cancel (.service i) cause).contexts scope = s.contexts scope := by
  apply cancelTree_outside
  -- Being below the service would put the context below the group.
  cases inside : scope.below (.service i) with
  | false => rfl
  | true => simp [Scope.below_group inside] at outside

/-- The goroutines of the start phase reach no context outside the start group. -/
theorem GroupMove.outside {s next : RunState} {i : Nat} (moved : GroupMove s i next) {scope : Scope}
    (outside : scope.below .group = false) : next.contexts scope = s.contexts scope := by
  -- Two moves cancel something, and both stay below the group.
  cases moved with
  | cancels => exact cancel_outside _ outside
  | hands inner => exact record_outside _ outside
  | _ => rfl

/-- A firing timer does not move the main goroutine. -/
theorem expire_main (s : RunState) : s.expire.main = s.main := by
  rw [RunState.expire_eq]

/-- Whether a step ends the signal context: the caller cancels, or a signal arrives. -/
def RunLabel.interrupts : RunLabel → Bool
  | .cancelCaller _ | .signal => true
  | _ => false

/-- Whether the signal context has not been derived yet. -/
@[simp] def MainPhase.early : MainPhase → Bool
  | .wiring | .crashed | .entering => true
  | _ => false

/-- The signal context is done exactly when something has interrupted the run. -/
structure SignalHistory (labels : List RunLabel) (s : RunState) : Prop where
  caller : s.main.early = true → s.done .caller = labels.any RunLabel.interrupts
  signal : s.main.listening = true → s.done .signal = labels.any RunLabel.interrupts

/-- A step that interrupts nothing keeps the history while it keeps the two contexts. -/
theorem SignalHistory.frame {labels : List RunLabel} {label : RunLabel} {s next : RunState}
    (holds : SignalHistory labels s) (quiet : label.interrupts = false)
    (early : next.main.early = true → s.main.early = true)
    (listening : next.main.listening = true → s.main.listening = true)
    (caller : next.contexts .caller = s.contexts .caller)
    (signal : next.contexts .signal = s.contexts .signal) :
    SignalHistory (labels ++ [label]) next := by
  -- The new label adds nothing to the history, and the contexts are those of before.
  constructor
  · intro before
    have known := holds.caller (early before)
    simpa [RunState.done, caller, quiet] using known
  · intro during
    have known := holds.signal (listening during)
    simpa [RunState.done, signal, quiet] using known

/-- The main goroutine derives the signal context from the caller's and interrupts nothing. -/
theorem signalHistory_main {runner : ApplicationRunner} {labels : List RunLabel}
    {s next : RunState} {action : MainAction} (moved : MainMove runner s action next)
    (holds : SignalHistory labels s) : SignalHistory (labels ++ [.main action]) next := by
  cases moved with
  | enter phase =>
    constructor
    · simp
    · intro _
      -- The new context is as done as the one it was derived from.
      have known := holds.caller (by simp [phase])
      simpa [RunState.done, derive, RunLabel.interrupts] using known
  | @callStop i phase =>
    refine holds.frame rfl (by rw [RunState.expire_eq]; simp [RunState.emit])
      (by simp [phase, MainPhase.listening]) ?_ ?_
    · exact RunState.expire_outside (by simp)
    · exact RunState.expire_outside (by simp)
  | finish phase => exact ⟨by simp, by simp [MainPhase.listening]⟩
  | _ phase =>
    refine holds.frame rfl ?_ ?_ rfl rfl <;> simp [phase, RunState.emit, MainPhase.listening]

/-- The signal history is right in every state a run reaches. -/
theorem signalHistory_run {runner : ApplicationRunner} {labels : List RunLabel} {s : RunState}
    (reached : (runMachine runner).run (RunState.init runner) labels = some s) :
    SignalHistory labels s := by
  refine (runMachine runner).run_history SignalHistory ?_ ?_ labels s reached
  · constructor <;> simp [RunState.init, RunState.done]
  · intro labels s label next _ holds taken
    cases label with
    | tick d =>
      cases taken
      refine holds.frame rfl (by rw [expire_main]; exact id) (by rw [expire_main]; exact id) ?_ ?_
      · exact RunState.expire_outside (by simp)
      · exact RunState.expire_outside (by simp)
    | cancelCaller cause =>
      cases taken
      constructor <;> simp [Scope.below, RunLabel.interrupts]
    | signal =>
      simp only [runMachine, runStep] at taken
      split at taken <;> cases taken
      rename_i listening
      constructor
      · -- No signal is awaited before the context that awaits it.
        intro before
        cases phase : s.main <;> simp_all [RunState.cancel, MainPhase.listening]
      · simp [Scope.below, RunLabel.interrupts]
    | becomeReady i =>
      cases taken
      exact holds.frame rfl id id rfl rfl
    | main action => exact signalHistory_main (mainStep_move taken) holds
    | start i action =>
      have moved := (startStep_move taken).group
      rcases moved.main_now with ⟨main, _⟩
      exact holds.frame rfl (by rw [main]; exact id) (by rw [main]; exact id)
        (moved.outside rfl) (moved.outside rfl)
    | watch i action =>
      have moved := (watchStep_move taken).group
      rcases moved.main_now with ⟨main, _⟩
      exact holds.frame rfl (by rw [main]; exact id) (by rw [main]; exact id)
        (moved.outside rfl) (moved.outside rfl)

/-- The `Stop` whose context exists: its service, when it was called, and its budget. -/
@[simp] def MainPhase.inFlight : MainPhase → Option (Nat × Nat × Int)
  | .inStop i start budget | .stopReturned i start budget _ | .stopReported i start budget _
  | .stopCollected i start budget => some (i, start, budget)
  | _ => none

/-- The context of a running `Stop` is done when the run was interrupted or the budget is spent. -/
def StopContext (s : RunState) : Prop :=
  ∀ i start budget, s.main.inFlight = some (i, start, budget) →
    s.done (.stop i) = (s.done .signal || decide (start + budget ≤ s.now))

/-- The stop context stays as it is while its phase, its parent, and the clock do. -/
theorem StopContext.frame {s next : RunState} (holds : StopContext s)
    (flying : next.main.inFlight = s.main.inFlight) (now : next.now = s.now)
    (signal : next.contexts .signal = s.contexts .signal)
    (stop : ∀ i, next.contexts (.stop i) = s.contexts (.stop i)) : StopContext next := by
  -- Both sides of the equation are the ones of before.
  intro i start budget running
  have known := holds i start budget (flying ▸ running)
  simpa only [RunState.done, signal, stop, now] using known

/-- Without a running `Stop` there is no timer. -/
theorem expire_idle {s : RunState} (idle : s.main.inFlight = none) : s.expire = s := by
  -- Only a stop that is running has a deadline.
  unfold RunState.expire
  cases phase : s.main <;> simp_all

/-- The timer of the running `Stop` reaches its context exactly when the budget is used up. -/
theorem expire_inFlight {s : RunState} {i start : Nat} {budget : Int}
    (flying : s.main.inFlight = some (i, start, budget)) :
    s.expire.done (.stop i) = (s.done (.stop i) || decide (start + budget ≤ s.now)) := by
  -- All four phases with a running context treat the timer alike.
  have expired : s.expire = if start + budget ≤ s.now
      then s.cancel (.stop i) (.new deadlineExceeded) else s := by
    unfold RunState.expire
    cases phase : s.main <;> simp_all
  rw [expired]
  split
  · rename_i passed
    simp [Scope.below, passed]
  · rename_i waiting
    simp [waiting]

/-- Looking at the timer makes the stop context right, if it was right but for the timer. -/
theorem stopContext_expire {s : RunState}
    (inherits : ∀ i start budget, s.main.inFlight = some (i, start, budget) →
      s.done .signal = true → s.done (.stop i) = true)
    (justified : ∀ i start budget, s.main.inFlight = some (i, start, budget) →
      s.done (.stop i) = true → s.done .signal = true ∨ start + budget ≤ s.now) :
    StopContext s.expire := by
  -- Looking at the timer adds the used-up budget to the reasons, and removes none.
  intro i start budget running
  have now : s.expire.now = s.now := by rw [RunState.expire_eq]
  have signal : s.expire.done .signal = s.done .signal :=
    congrArg Option.isSome (RunState.expire_outside (by simp))
  rw [expire_main] at running
  rw [expire_inFlight running, signal, now, Bool.eq_iff_iff]
  simp only [Bool.or_eq_true, decide_eq_true_eq]
  constructor
  · rintro (stopped | passed)
    · exact justified i start budget running stopped
    · exact .inr passed
  · rintro (interrupted | passed)
    · exact .inl (inherits i start budget running interrupted)
    · exact .inr passed

/-- The main goroutine derives each stop context from the signal context. -/
theorem stopContext_main {runner : ApplicationRunner} {s next : RunState} {action : MainAction}
    (moved : MainMove runner s action next) (holds : StopContext s) : StopContext next := by
  cases moved with
  | @callStop i phase =>
    -- The fresh context is as done as its parent, and then its timer is looked at once.
    refine StopContext.frame (stopContext_expire ?_ ?_) rfl rfl rfl fun _ => rfl
    all_goals
      intro j start budget running
      obtain ⟨rfl, _, _⟩ : i = j ∧ s.now = start ∧ _ = budget := by simpa using running
      simp only [RunState.done, derive, update_self]
    · exact id
    · exact .inl
  | stopReturns phase => exact holds.frame (by simp [phase, RunState.emit]) rfl rfl fun _ => rfl
  | report phase => exact holds.frame (by simp [phase, RunState.emit]) rfl rfl fun _ => rfl
  | collectNothing phase => exact holds.frame (by simp [phase]) rfl rfl fun _ => rfl
  | collectQuietly phase logs => exact holds.frame (by simp [phase]) rfl rfl fun _ => rfl
  | collectLogged phase logs =>
    exact holds.frame (by simp [phase, RunState.emit]) rfl rfl fun _ => rfl
  | _ phase =>
    intro i start budget running
    simp at running

/-- The stop context is right in every state a run reaches. -/
theorem stopContext_run {runner : ApplicationRunner} {labels : List RunLabel} {s : RunState}
    (reached : (runMachine runner).run (RunState.init runner) labels = some s) :
    StopContext s := by
  refine (runMachine runner).run_invariant ?_ ?_ reached
  · intro i start budget running
    simp [RunState.init] at running
  · intro s label next holds taken
    cases label with
    | tick d =>
      cases taken
      apply stopContext_expire
      · intro i start budget running interrupted
        have known := holds i start budget running
        rw [show s.done .signal = true from interrupted, Bool.true_or] at known
        exact known
      · intro i start budget running stopped
        have known := holds i start budget running
        rw [show s.done (.stop i) = true from stopped] at known
        simp only [Bool.true_eq, Bool.or_eq_true, decide_eq_true_eq] at known
        -- A deadline that has passed stays passed.
        rcases known with interrupted | passed
        · exact .inl interrupted
        · right
          push_cast
          omega
    | cancelCaller cause =>
      cases taken
      intro i start budget running
      simp [Scope.below]
    | signal =>
      simp only [runMachine, runStep] at taken
      split at taken <;> cases taken
      intro i start budget running
      simp [Scope.below]
    | becomeReady i =>
      cases taken
      exact holds.frame rfl rfl rfl fun _ => rfl
    | main action => exact stopContext_main (mainStep_move taken) holds
    | start i action =>
      have moved := (startStep_move taken).group
      rcases moved.main_now with ⟨main, now⟩
      exact holds.frame (by rw [main]) now (moved.outside rfl) fun _ => moved.outside rfl
    | watch i action =>
      have moved := (watchStep_move taken).group
      rcases moved.main_now with ⟨main, now⟩
      exact holds.frame (by rw [main]) now (moved.outside rfl) fun _ => moved.outside rfl

/--
Within its budget the context of a running `Stop` is live exactly when nothing interrupted the run.

The moment of the call is the case in which no time has passed since the start.
-/
theorem stop_context_live (runner : ApplicationRunner) (labels : List RunLabel) (s : RunState)
    (i start : Nat) (budget : Int)
    (reached : (runMachine runner).run (RunState.init runner) labels = some s)
    (flying : s.main.inFlight = some (i, start, budget)) (within : s.now < start + budget) :
    s.done (.stop i) = false ↔ ∀ label ∈ labels, label.interrupts = false := by
  -- Within the budget only the signal context decides, and its history is the labels.
  have listening : s.main.listening = true := by
    cases phase : s.main <;> simp_all [MainPhase.listening]
  have history := (signalHistory_run reached).signal listening
  have unspent : ¬ (start + budget ≤ s.now) := by omega
  rw [stopContext_run reached i start budget flying, history]
  simp [unspent]

/-- One service that announces no readiness. -/
def oneService : ApplicationRunner :=
  newApplicationRunner [.withServices [⟨"db", false, none⟩]]

/-- A service that ends on its own is stopped under a live context. -/
theorem stop_context_live_one : ∃ s,
    (runMachine oneService).run (RunState.init oneService) (launchLabels 1 ++ startLabels 0 none ++
      [.main .waitReturns, .main .callStop]) = some s ∧
    s.main = .inStop 0 0 (15 * second) ∧ s.done (.stop 0) = false := by
  -- The run ends at the call itself, before any time has passed.
  obtain ⟨s, reached, phase, now⟩ := (runMachine oneService).run_observe (RunState.init oneService)
    (launchLabels 1 ++ startLabels 0 none ++ [.main .waitReturns, .main .callStop])
    (fun s => s.main = .inStop 0 0 (15 * second) ∧ s.now = 0) (by decide +kernel)
  refine ⟨s, reached, phase, ?_⟩
  refine (stop_context_live oneService _ s 0 0 (15 * second) reached ?_ ?_).mpr ?_
  · rw [phase]
    rfl
  · rw [now]
    decide
  · decide

/-- After the caller cancelled, `Stop` is called with a context that is already done. -/
theorem stop_context_dead : ∃ labels s i start budget,
    (runMachine oneService).run (RunState.init oneService) labels = some s ∧
    s.main = .inStop i start budget ∧ 0 < budget ∧ s.now < start + budget ∧
    s.done (.stop i) = true := by
  -- The cancellation comes first, so the stop context is derived from a dead one.
  obtain ⟨s, reached, phase, now, dead⟩ := (runMachine oneService).run_observe
    (RunState.init oneService)
    (launchLabels 1 ++ [.cancelCaller canceled] ++ startLabels 0 (some (.new canceled)) ++
      [.main .waitReturns, .main .callStop])
    (fun s => s.main = .inStop 0 0 (15 * second) ∧ s.now = 0 ∧ s.done (.stop 0) = true)
    (by decide +kernel)
  refine ⟨_, s, 0, 0, _, reached, phase, by decide, ?_, dead⟩
  rw [now]
  decide

/-- Whether the start supervisor is running. -/
@[simp] def MainPhase.starting : MainPhase → Bool
  | .launching _ | .guarding _ | .waiting => true
  | _ => false

/-- Whether the start goroutine has run its deferred cancel. -/
def StartPhase.cancelled : StartPhase → Bool
  | .leaving _ | .done _ => true
  | _ => false

/-- Whether the watcher has cancelled its service because the deadline passed. -/
def WatchPhase.cancelled : WatchPhase → Bool
  | .leaving late _ | .done late _ => late
  | _ => false

/-- What the contexts of the start group are done for, while the supervisor runs. -/
structure StartContexts (s : RunState) : Prop where
  group : s.done .group = (s.done .signal || s.groupErr.isSome)
  services : ∀ i, s.starter i ≠ .unlaunched →
    s.done (.service i) = (s.done .group || (s.starter i).cancelled || (s.watcher i).cancelled)

/-- Interrupting the run makes every context of the group done. -/
theorem startContexts_interrupt {s : RunState} {root : Scope} (cause : Err)
    (above : Scope.below .signal root = true) : StartContexts (s.cancel root cause) := by
  -- Whatever ends the signal context ends everything derived from it.
  have below : ∀ scope : Scope, scope ≠ .caller → scope.below root = true := by
    intro scope inner
    cases root <;> cases scope <;> simp_all [Scope.below]
  constructor
  · simp [below]
  · intro i _
    simp [below]

/-- A goroutine's failure makes every context of the group done, and nothing else does. -/
theorem StartContexts.record {s : RunState} (holds : StartContexts s) (result : Option Err) :
    StartContexts (s.record result) := by
  -- Only the first failure cancels, and a later one finds the contexts done.
  rcases holds with ⟨group, services⟩
  cases result with
  | none => exact ⟨group, services⟩
  | some err =>
    cases known : s.groupErr with
    | some first =>
      simp only [RunState.record, known]
      exact ⟨group, services⟩
    | none =>
      simp only [RunState.record, known]
      constructor
      · simp [RunState.done, RunState.cancel, Scope.below]
      · intro i _
        simp [RunState.done, RunState.cancel, Scope.below]

/-- A phase change that cancels nothing keeps what the contexts are done for. -/
theorem StartContexts.shift {s : RunState} (holds : StartContexts s)
    {starter : Nat → StartPhase} {watcher : Nat → WatchPhase} {trace : List RunEvent}
    (launched : ∀ i, starter i ≠ .unlaunched → s.starter i ≠ .unlaunched)
    (starters : ∀ i, (starter i).cancelled = (s.starter i).cancelled)
    (watchers : ∀ i, (watcher i).cancelled = (s.watcher i).cancelled) :
    StartContexts { s with starter, watcher, trace } := by
  -- A context is done for its own phases only through what they have cancelled.
  rcases holds with ⟨group, services⟩
  refine ⟨group, ?_⟩
  intro i known
  have before := services i (launched i known)
  simpa only [RunState.done, starters, watchers] using before

/-- A goroutine that cancels its own service makes only that service's context done. -/
theorem StartContexts.cancel {s : RunState} (holds : StartContexts s) {i : Nat} (cause : Err)
    {starter : Nat → StartPhase} {watcher : Nat → WatchPhase}
    (launched : ∀ j, starter j ≠ .unlaunched → s.starter j ≠ .unlaunched)
    (others : ∀ j, j ≠ i → (starter j).cancelled = (s.starter j).cancelled ∧
      (watcher j).cancelled = (s.watcher j).cancelled)
    (own : ((starter i).cancelled || (watcher i).cancelled) = true) :
    StartContexts ({ s with starter, watcher }.cancel (.service i) cause) := by
  -- The other services keep their reasons, and this one gains the reason it needs.
  rcases holds with ⟨group, services⟩
  constructor
  · simpa [RunState.done, RunState.cancel, Scope.below] using group
  · intro j known
    by_cases same : j = i
    · subst same
      rw [Bool.or_eq_true] at own
      rw [RunState.done_cancel, Bool.or_assoc]
      simp [RunState.cancel, Scope.below, own]
    · have before := services j (launched j known)
      rw [← (others j same).1, ← (others j same).2] at before
      simpa [RunState.done, RunState.cancel, Scope.below, same] using before

/-- A start goroutine keeps what the contexts are done for. -/
theorem startContexts_start {runner : ApplicationRunner} {s next : RunState} {i : Nat}
    {action : StartAction} (moved : StartMove runner s i action next)
    (holds : StartContexts s) : StartContexts next := by
  -- Only the deferred cancel and the handing over of a failure reach a context.
  have launched : ∀ phase, s.starter i ≠ .unlaunched → ∀ j,
      update s.starter i phase j ≠ .unlaunched → s.starter j ≠ .unlaunched := by
    intro phase known j
    by_cases same : j = i
    · subst same
      exact fun _ => known
    · simp [same]
  have kept : ∀ phase : StartPhase, phase.cancelled = (s.starter i).cancelled → ∀ j,
      (update s.starter i phase j).cancelled = (s.starter j).cancelled :=
    fun _ => update_seen StartPhase.cancelled
  cases moved with
  | cancel phase =>
    refine holds.cancel _ (launched _ (by simp [phase])) ?_ (by simp [StartPhase.cancelled])
    intro j other
    exact ⟨by simp [other], rfl⟩
  | leave phase =>
    refine StartContexts.shift (StartContexts.record (StartContexts.shift holds
      (launched _ (by simp [phase])) (kept _ (by rw [phase]; rfl)) fun _ => rfl) _)
      (fun _ known => known) (fun _ => rfl) fun _ => rfl
  | _ phase =>
    exact holds.shift (launched _ (by simp [phase])) (kept _ (by rw [phase]; rfl)) fun _ => rfl

/-- A readiness watcher keeps what the contexts are done for. -/
theorem startContexts_watch {runner : ApplicationRunner} {s next : RunState} {i : Nat}
    {action : WatchAction} (moved : WatchMove runner s i action next)
    (holds : StartContexts s) : StartContexts next := by
  -- Only the deadline branch and the handing over of a failure reach a context.
  have kept : ∀ phase : WatchPhase, phase.cancelled = (s.watcher i).cancelled → ∀ j,
      (update s.watcher i phase j).cancelled = (s.watcher j).cancelled :=
    fun _ => update_seen WatchPhase.cancelled
  cases moved with
  | cancel phase =>
    refine holds.cancel _ (fun _ known => known) ?_ (by simp [WatchPhase.cancelled])
    intro j other
    exact ⟨rfl, by simp [other]⟩
  | leave phase =>
    refine StartContexts.shift (StartContexts.record (StartContexts.shift holds
      (fun _ known => known) (fun _ => rfl) (kept _ (by rw [phase]; rfl))) _)
      (fun _ known => known) (fun _ => rfl) fun _ => rfl
  | _ phase =>
    exact holds.shift (fun _ known => known) (fun _ => rfl) (kept _ (by rw [phase]; rfl))

/-- Before the launch loop nothing was handed to the group. -/
theorem groupErr_of_entering {runner : ApplicationRunner} {s : RunState}
    (fresh : Launched runner s) (recorded : GroupRecords s) (phase : s.main = .entering) :
    s.groupErr = none := by
  cases known : s.groupErr with
  | none => rfl
  | some err =>
    -- A recorded error comes from a goroutine, and none has been launched.
    have starters : ∀ i, s.starter i = .unlaunched := by
      intro i
      rw [fresh.starters i, phase]
      exact Nat.zero_le i
    have watchers : ∀ i, s.watcher i = .unlaunched := by
      intro i
      rw [fresh.watchers i, phase]
      exact .inl (Nat.zero_le i)
    have failed := recorded.mp (by simp [known])
    simp [GroupFailed, starters, watchers] at failed

/-- The launch loop derives each service's context from the group's. -/
theorem startContexts_main {runner : ApplicationRunner} {s next : RunState} {action : MainAction}
    (moved : MainMove runner s action next) (fresh : Launched runner s)
    (recorded : GroupRecords s) (holds : s.main.starting = true → StartContexts s)
    (starting : next.main.starting = true) : StartContexts next := by
  -- Contexts are derived in `enter` and `launch`; the other steps of the loop leave them.
  cases moved with
  | enter phase =>
    constructor
    · simp [RunState.done, derive, groupErr_of_entering fresh recorded phase]
    · intro i known
      have absent : s.starter i = .unlaunched := by
        rw [fresh.starters i, phase]
        exact Nat.zero_le i
      exact absurd absent known
  | @launch i phase within =>
    rcases holds (by simp [phase]) with ⟨group, services⟩
    have unwatched : s.watcher i = .unlaunched := by
      rw [fresh.watchers i, phase]
      exact .inl (Nat.le_refl i)
    constructor
    · simpa [RunState.done, derive] using group
    · intro j known
      by_cases same : j = i
      · subst same
        simp [RunState.done, derive, unwatched, StartPhase.cancelled, WatchPhase.cancelled]
      · have before := services j (by simpa [same] using known)
        simpa [RunState.done, derive, same] using before
  | @guard i phase =>
    have unwatched : s.watcher i = .unlaunched := by
      rw [fresh.watchers i, phase]
      exact .inl (Nat.le_refl i)
    have kept : ∀ j, ((if runner.watched i then update s.watcher i .launched else s.watcher)
        j).cancelled = (s.watcher j).cancelled := by
      intro j
      by_cases same : j = i
      · subst same
        split <;> simp [unwatched, WatchPhase.cancelled]
      · split <;> simp [same]
    have shifted : StartContexts { s with
        watcher := if runner.watched i then update s.watcher i .launched else s.watcher } :=
      StartContexts.shift (holds (by simp [phase])) (fun _ known => known) (fun _ => rfl) kept
    exact ⟨shifted.group, shifted.services⟩
  | wait phase past =>
    rcases holds (by simp [phase]) with ⟨group, services⟩
    exact ⟨group, services⟩
  | callStop phase =>
    rw [RunState.expire_eq] at starting
    simp [RunState.emit] at starting
  | _ phase => simp [RunState.emit] at starting

/-- While the supervisor runs, the contexts are done for the reasons given. -/
theorem startContexts_run {runner : ApplicationRunner} {labels : List RunLabel} {s : RunState}
    (reached : (runMachine runner).run (RunState.init runner) labels = some s) :
    s.main.starting = true → StartContexts s := by
  refine (runMachine runner).run_history (fun _ s => s.main.starting = true → StartContexts s)
    ?_ ?_ labels s reached
  · simp [RunState.init]
  · intro labels s label next prior holds taken starting
    cases label with
    | tick d =>
      cases taken
      -- No `Stop` is running, so there is no timer to look at.
      rw [expire_main] at starting
      have idle : s.main.inFlight = none := by cases phase : s.main <;> simp_all
      rw [expire_idle (s := { s with now := s.now + d }) idle]
      rcases holds starting with ⟨group, services⟩
      exact ⟨group, services⟩
    | cancelCaller cause =>
      cases taken
      exact startContexts_interrupt _ rfl
    | signal =>
      simp only [runMachine, runStep] at taken
      split at taken <;> cases taken
      exact startContexts_interrupt _ rfl
    | becomeReady i =>
      cases taken
      rcases holds starting with ⟨group, services⟩
      exact ⟨group, services⟩
    | main action =>
      exact startContexts_main (mainStep_move taken) (runInvariant_run prior).fresh
        (groupRecords_run prior) holds starting
    | start i action =>
      have moved := startStep_move taken
      rw [moved.group.main_now.1] at starting
      exact startContexts_start moved (holds starting)
    | watch i action =>
      have moved := watchStep_move taken
      rw [moved.group.main_now.1] at starting
      exact startContexts_watch moved (holds starting)

/-- A start goroutine whose `Start` did not fail reaches no context but its own service's. -/
theorem StartMove.succeeded_outside {runner : ApplicationRunner} {s next : RunState} {i : Nat}
    {action : StartAction} (moved : StartMove runner s i action next)
    (succeeded : ∀ err, (s.starter i).result = some (some err) → err.is canceled = true)
    {scope : Scope} (other : scope ≠ .service i) : next.contexts scope = s.contexts scope := by
  -- The deferred cancel is the one cancellation left, and it is the service's own.
  cases moved with
  | cancel phase =>
    apply cancelTree_outside
    cases scope <;> simp_all [Scope.below]
  | @leave err phase =>
    have silent : startResult (runner.nameOf i) err = none := by
      rw [startResult_eq_none]
      rintro cause rfl
      exact succeeded cause (by simp [phase])
    rw [silent]
    rfl
  | _ phase => rfl

/--
While the supervisor runs, a service's context is done exactly when the run was interrupted, a
goroutine of the group has returned a failure, or one of the service's own goroutines cancelled it.

A service that ends without a failure therefore ends no other service.
-/
theorem service_context_done (runner : ApplicationRunner) (labels : List RunLabel) (s : RunState)
    (i : Nat) (reached : (runMachine runner).run (RunState.init runner) labels = some s)
    (starting : s.main.starting = true) (launched : s.starter i ≠ .unlaunched) :
    (s.done (.service i) = true ↔ s.done .signal = true ∨ GroupFailed s ∨
      (s.starter i).cancelled = true ∨ (s.watcher i).cancelled = true) ∧
    ((∀ err, (s.starter i).result = some (some err) → err.is canceled = true) →
      ∀ action next, startStep runner s i action = some next →
        ∀ scope, scope ≠ .service i → next.contexts scope = s.contexts scope) := by
  -- The invariant gives the reasons, and the record of the group names the failures.
  rcases startContexts_run reached starting with ⟨group, services⟩
  constructor
  · have recorded : s.groupErr.isSome = true ↔ GroupFailed s := groupRecords_run reached
    rw [services i launched, group, ← recorded]
    simp only [Bool.or_eq_true, or_assoc]
  · intro succeeded action next taken scope other
    exact (startStep_move taken).succeeded_outside succeeded other

/-- A service that ended without a failure ended its own context, and leaves the other's alone. -/
theorem service_context_done_first : ∃ s,
    (runMachine twoServices).run (RunState.init twoServices) (launchLabels 2 ++
      [.start 0 .call, .start 0 (.returns none), .start 0 .report, .start 0 .cancel]) = some s ∧
    s.done (.service 0) = true ∧ ∀ action next, startStep twoServices s 0 action = some next →
      next.contexts (.service 1) = s.contexts (.service 1) := by
  -- The run stops right after the deferred cancel, with the supervisor still running.
  obtain ⟨s, reached, starting, phase⟩ := (runMachine twoServices).run_observe
    (RunState.init twoServices) (launchLabels 2 ++
      [.start 0 .call, .start 0 (.returns none), .start 0 .report, .start 0 .cancel])
    (fun s => s.main.starting = true ∧ s.starter 0 = .leaving none) (by decide +kernel)
  have law := service_context_done twoServices _ s 0 reached starting (by simp [phase])
  refine ⟨s, reached, law.1.mpr ?_, ?_⟩
  · exact .inr (.inr (.inl (by rw [phase]; rfl)))
  · intro action next taken
    refine law.2 ?_ action next taken (.service 1) (by simp)
    intro err known
    simp [phase] at known

/-- Between the return of `Start` and the deferred cancel a service's context is still live. -/
theorem service_context_lingers : ∃ labels s i err,
    (runMachine oneService).run (RunState.init oneService) labels = some s ∧
    s.main.starting = true ∧ RunEvent.startReturned i err ∈ s.trace ∧
    s.done (.service i) = false := by
  -- The run stops between the return of `Start` and the deferred cancel.
  obtain ⟨s, reached, starting, returned, live⟩ := (runMachine oneService).run_observe
    (RunState.init oneService) (launchLabels 1 ++ [.start 0 .call, .start 0 (.returns none)])
    (fun s => s.main.starting = true ∧ RunEvent.startReturned 0 none ∈ s.trace ∧
      s.done (.service 0) = false)
    (by decide +kernel)
  exact ⟨_, s, 0, none, reached, starting, returned, live⟩

end Bootkit
