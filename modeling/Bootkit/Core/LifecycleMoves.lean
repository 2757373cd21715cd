import Bootkit.Core.Lifecycle

/-! What one step on a lifecycle can do, and who holds its mutex meanwhile. -/

namespace Bootkit

open Go

/-- The steps of a call of `Start`, as a relation between states. -/
inductive StarterMove (connectSet : Bool) (s : LifecycleState) (k : Nat) :
    StarterAction → LifecycleState → Prop
  | enter (phase : s.starters k = .idle) (set : connectSet = true) :
    StarterMove connectSet s k .enter (s.initReady.setStarter k .connecting)
  | unset (phase : s.starters k = .idle) (missing : connectSet = false) :
    StarterMove connectSet s k .enter (s.initReady.setStarter k (.returned (some connectUnset)))
  | connectFails {err : Err} (phase : s.starters k = .connecting) :
    StarterMove connectSet s k (.connect (.error err)) (s.setStarter k (.returned (some err)))
  | connects {closure : Bool} (phase : s.starters k = .connecting) :
    StarterMove connectSet s k (.connect (.ok closure))
      (s.setStarter k (.connected (if closure then some k else none)))
  | lock {stop : Option Nat} (phase : s.starters k = .connected stop) (free : s.mu = none) :
    StarterMove connectSet s k .lock
      { s.setStarter k (.locked stop) with mu := some (.start k) }
  | spurn {stop : Option Nat} (phase : s.starters k = .locked stop) (late : s.stopped = true) :
    StarterMove connectSet s k .decide { s.setStarter k (.spurned stop) with mu := none }
  | store {stop : Option Nat} (phase : s.starters k = .locked stop) (live : s.stopped = false) :
    StarterMove connectSet s k .decide
      { s.setStarter k .stored with mu := none, stopFunc := stop }
  | skip (phase : s.starters k = .spurned none) :
    StarterMove connectSet s k .clean (s.setStarter k (.returned none))
  | clean {stop : Nat} (phase : s.starters k = .spurned (some stop)) :
    StarterMove connectSet s k .clean ((s.setStarter k (.cleaning stop)).invoke stop)
  | cleaned {stop : Nat} {err : Option Err} (phase : s.starters k = .cleaning stop) :
    StarterMove connectSet s k (.cleaned err) (s.setStarter k (.returned err))
  | panic (phase : s.starters k = .stored) (closed : s.ready = .closed) :
    StarterMove connectSet s k .announce (s.setStarter k .panicked)
  | announce (phase : s.starters k = .stored) (waiting : s.ready ≠ .closed) :
    StarterMove connectSet s k .announce { s.setStarter k .blocked with ready := .closed }
  | finish {err : Err} (phase : s.starters k = .blocked) (done : s.contexts k = some err) :
    StarterMove connectSet s k .finish (s.setStarter k (.returned (some err)))

/-- Every step of a call of `Start` is one of its moves. -/
theorem starterStep_move {connectSet : Bool} {s next : LifecycleState} {k : Nat}
    {action : StarterAction} (taken : starterStep connectSet s k action = some next) :
    StarterMove connectSet s k action next := by
  cases action with
  | enter =>
    simp only [starterStep] at taken
    split at taken
    · cases set : connectSet <;> simp only [set] at taken <;> cases taken
      · exact .unset (by assumption) rfl
      · exact .enter (by assumption) rfl
    · cases taken
  | connect result =>
    simp only [starterStep] at taken
    split at taken <;> cases taken
    · exact .connectFails (by assumption)
    · exact .connects (by assumption)
  | lock =>
    simp only [starterStep] at taken
    split at taken <;> cases taken
    exact .lock (by assumption) (by assumption)
  | decide =>
    simp only [starterStep] at taken
    split at taken
    · -- The flag decides whether the closure is stored or handed back.
      split at taken <;> cases taken
      · exact .spurn (by assumption) (by assumption)
      · exact .store (by assumption) (by simpa using ‹¬ s.stopped = true›)
    · cases taken
  | clean =>
    simp only [starterStep] at taken
    split at taken <;> cases taken
    · exact .skip (by assumption)
    · exact .clean (by assumption)
  | cleaned err =>
    simp only [starterStep] at taken
    split at taken <;> cases taken
    exact .cleaned (by assumption)
  | announce =>
    simp only [starterStep] at taken
    split at taken
    · split at taken <;> cases taken
      · exact .panic (by assumption) (by assumption)
      · exact .announce (by assumption) (by assumption)
    · cases taken
  | finish =>
    simp only [starterStep] at taken
    split at taken <;> cases taken
    exact .finish (by assumption) (by assumption)

/-- The steps of a call of `Stop`, as a relation between states. -/
inductive StopperMove (s : LifecycleState) (k : Nat) : StopperAction → LifecycleState → Prop
  | call (phase : s.stoppers k = .idle) :
    StopperMove s k .call (s.setStopper k .called)
  | lock (phase : s.stoppers k = .called) (free : s.mu = none) :
    StopperMove s k .lock { s.setStopper k .locked with mu := some (.stop k) }
  | again (phase : s.stoppers k = .locked) (late : s.stopped = true) :
    StopperMove s k .decide (s.setStopper k (.returning none))
  | bare (phase : s.stoppers k = .locked) (live : s.stopped = false)
      (empty : s.stopFunc = none) :
    StopperMove s k .decide { s.setStopper k (.returning none) with stopped := true }
  | release {stop : Nat} (phase : s.stoppers k = .locked) (live : s.stopped = false)
      (stored : s.stopFunc = some stop) :
    StopperMove s k .decide { (s.setStopper k (.releasing stop)).invoke stop with stopped := true }
  | released {stop : Nat} {err : Option Err} (phase : s.stoppers k = .releasing stop) :
    StopperMove s k (.released err) (s.setStopper k (.returning err))
  | unlock {err : Option Err} (phase : s.stoppers k = .returning err) :
    StopperMove s k .unlock { s.setStopper k (.returned err) with mu := none }

/-- Every step of a call of `Stop` is one of its moves. -/
theorem stopperStep_move {s next : LifecycleState} {k : Nat} {action : StopperAction}
    (taken : stopperStep s k action = some next) : StopperMove s k action next := by
  cases action with
  | call =>
    simp only [stopperStep] at taken
    split at taken <;> cases taken
    exact .call (by assumption)
  | lock =>
    simp only [stopperStep] at taken
    split at taken <;> cases taken
    exact .lock (by assumption) (by assumption)
  | decide =>
    simp only [stopperStep] at taken
    split at taken
    · split at taken
      · cases taken
        exact .again (by assumption) (by assumption)
      · -- The first `Stop` sets the flag, with or without a closure to call.
        have live : s.stopped = false := by simpa using ‹¬ s.stopped = true›
        split at taken <;> cases taken
        · exact .bare (by assumption) live (by assumption)
        · exact .release (by assumption) live (by assumption)
    · cases taken
  | released err =>
    simp only [stopperStep] at taken
    split at taken <;> cases taken
    exact .released (by assumption)
  | unlock =>
    simp only [stopperStep] at taken
    split at taken <;> cases taken
    exact .unlock (by assumption)

/-- Whether a call of `Start` is between its lock and its unlock. -/
def StarterPhase.holds : StarterPhase → Bool
  | .locked _ => true
  | _ => false

/-- Whether a call of `Stop` is between its lock and its unlock. -/
def StopperPhase.holds : StopperPhase → Bool
  | .locked | .releasing _ | .returning _ => true
  | _ => false

/-- Whether a call is between its lock and its unlock. -/
def LifecycleState.inside (s : LifecycleState) : LifecycleCall → Bool
  | .start k => (s.starters k).holds
  | .stop k => (s.stoppers k).holds

/-- Moving a call of `Start` changes whether it is inside, and nothing about the others. -/
theorem inside_setStarter {s : LifecycleState} {k : Nat} {phase : StarterPhase}
    (call : LifecycleCall) : (s.setStarter k phase).inside call =
      if call = .start k then phase.holds else s.inside call := by
  -- A `Stop` is looked up elsewhere, and another `Start` under its old phase.
  cases call with
  | start j =>
    by_cases same : j = k
    · subst same
      simp [LifecycleState.inside, LifecycleState.setStarter]
    · simp [LifecycleState.inside, LifecycleState.setStarter, same]
  | stop j => simp [LifecycleState.inside, LifecycleState.setStarter]

/-- Moving a call of `Stop` changes whether it is inside, and nothing about the others. -/
theorem inside_setStopper {s : LifecycleState} {k : Nat} {phase : StopperPhase}
    (call : LifecycleCall) : (s.setStopper k phase).inside call =
      if call = .stop k then phase.holds else s.inside call := by
  -- A `Start` is looked up elsewhere, and another `Stop` under its old phase.
  cases call with
  | start j => simp [LifecycleState.inside, LifecycleState.setStopper]
  | stop j =>
    by_cases same : j = k
    · subst same
      simp [LifecycleState.inside, LifecycleState.setStopper]
    · simp [LifecycleState.inside, LifecycleState.setStopper, same]

/-- Creating the readiness channel changes nothing but the channel. -/
@[simp] theorem initReady_frame (s : LifecycleState) :
    s.initReady.mu = s.mu ∧ s.initReady.stopFunc = s.stopFunc ∧
      s.initReady.stopped = s.stopped ∧ s.initReady.starters = s.starters ∧
      s.initReady.stoppers = s.stoppers ∧ s.initReady.invoked = s.invoked := by
  -- The channel is made or it is there already.
  unfold LifecycleState.initReady
  split <;> simp

/-- A channel that was just created is not closed. -/
@[simp] theorem initReady_closed (s : LifecycleState) :
    (s.initReady.ready == .closed) = (s.ready == .closed) := by
  -- A channel that is made is open.
  unfold LifecycleState.initReady
  cases known : s.ready <;> simp [known]

/-- Creating the readiness channel does not close it. -/
theorem initReady_closed_iff (s : LifecycleState) :
    s.initReady.ready = .closed ↔ s.ready = .closed := by
  -- A channel that is made is open.
  unfold LifecycleState.initReady
  cases known : s.ready <;> simp [known]

/-- No step but a call's own moves its `Start`. -/
theorem StarterMove.others {connectSet : Bool} {s next : LifecycleState} {k j : Nat}
    {action : StarterAction} (moved : StarterMove connectSet s k action next) (other : j ≠ k) :
    next.starters j = s.starters j := by
  cases moved <;> simp [LifecycleState.setStarter, LifecycleState.invoke, other]

/-- A step of a `Start` moves no `Stop`, and leaves the flag alone. -/
theorem StarterMove.frame {connectSet : Bool} {s next : LifecycleState} {k : Nat}
    {action : StarterAction} (moved : StarterMove connectSet s k action next) :
    next.stoppers = s.stoppers ∧ next.stopped = s.stopped := by
  cases moved <;> simp [LifecycleState.setStarter, LifecycleState.invoke]

/-- A step of a `Stop` moves no `Start`, and leaves the channel and the closure alone. -/
theorem StopperMove.frame {s next : LifecycleState} {k : Nat} {action : StopperAction}
    (moved : StopperMove s k action next) :
    next.starters = s.starters ∧ next.ready = s.ready ∧ next.stopFunc = s.stopFunc := by
  cases moved <;> exact ⟨rfl, rfl, rfl⟩

/-- A step of one `Stop` leaves the others where they are. -/
theorem StopperMove.others {s next : LifecycleState} {k : Nat} {action : StopperAction}
    (moved : StopperMove s k action next) {j : Nat} (other : j ≠ k) :
    next.stoppers j = s.stoppers j := by
  cases moved <;> exact update_other s.stoppers _ other

/-- Creating the readiness channel takes nobody in or out. -/
theorem initReady_inside (s : LifecycleState) (call : LifecycleCall) :
    s.initReady.inside call = s.inside call := by
  cases call <;> simp [LifecycleState.inside]

/-- A phase change on one side of the mutex keeps the guard. -/
theorem guards_setStarter {s : LifecycleState} {k : Nat} {phase : StarterPhase}
    (guarded : Guards s.mu s.inside) (same : phase.holds = (s.starters k).holds) :
    Guards s.mu (s.setStarter k phase).inside := by
  -- The call that moved is inside exactly when it was before.
  apply guarded.stay
  intro call
  rw [inside_setStarter]
  split
  · subst call
    exact same
  · rfl

/-- A call of `Start` takes the mutex only when it is free, and gives it back. -/
theorem guards_starter {connectSet : Bool} {s next : LifecycleState} {k : Nat}
    {action : StarterAction} (moved : StarterMove connectSet s k action next)
    (guarded : Guards s.mu s.inside) : Guards next.mu next.inside := by
  -- Three moves touch the mutex; every other one stays on its side of it.
  have others : ∀ phase call, call ≠ LifecycleCall.start k →
      (s.setStarter k phase).inside call = s.inside call := by
    intro phase call other
    rw [inside_setStarter, if_neg other]
  have own : ∀ phase, (s.setStarter k phase).inside (.start k) = phase.holds := by
    intro phase
    rw [inside_setStarter, if_pos rfl]
  have created : Guards s.initReady.mu s.initReady.inside := by
    rw [(initReady_frame s).1]
    exact guarded.stay (initReady_inside s)
  cases moved with
  | lock phase free =>
    rw [free] at guarded
    exact guarded.lock (own _) (others _)
  | spurn phase late =>
    rw [(guarded (.start k)).mp (by simp [LifecycleState.inside, phase, StarterPhase.holds])]
      at guarded
    exact guarded.unlock (own _) (others _)
  | store phase live =>
    rw [(guarded (.start k)).mp (by simp [LifecycleState.inside, phase, StarterPhase.holds])]
      at guarded
    exact guarded.unlock (own _) (others _)
  | enter phase set => exact guards_setStarter created (by simp [phase, StarterPhase.holds])
  | unset phase missing => exact guards_setStarter created (by simp [phase, StarterPhase.holds])
  | _ phase => exact guards_setStarter guarded (by rw [phase]; rfl)

/-- A call of `Stop` takes the mutex only when it is free, and gives it back. -/
theorem guards_stopper {s next : LifecycleState} {k : Nat} {action : StopperAction}
    (moved : StopperMove s k action next) (guarded : Guards s.mu s.inside) :
    Guards next.mu next.inside := by
  -- The lock and the deferred unlock touch the mutex; the closure runs in between.
  have others : ∀ phase call, call ≠ LifecycleCall.stop k →
      (s.setStopper k phase).inside call = s.inside call := by
    intro phase call other
    rw [inside_setStopper, if_neg other]
  have own : ∀ phase, (s.setStopper k phase).inside (.stop k) = phase.holds := by
    intro phase
    rw [inside_setStopper, if_pos rfl]
  have stays : ∀ phase : StopperPhase, phase.holds = (s.stoppers k).holds →
      Guards s.mu (s.setStopper k phase).inside := by
    intro phase same
    apply guarded.stay
    intro call
    rw [inside_setStopper]
    split
    · subst call
      exact same
    · rfl
  cases moved with
  | lock phase free =>
    rw [free] at guarded
    exact guarded.lock (own _) (others _)
  | unlock phase =>
    rw [(guarded (.stop k)).mp (by simp [LifecycleState.inside, phase, StopperPhase.holds])]
      at guarded
    exact guarded.unlock (own _) (others _)
  | _ phase => exact stays _ (by rw [phase]; rfl)

/-- In every run the mutex is held by exactly the call that is in its critical section. -/
theorem guards_run {connectSet : Bool} {labels : List LifecycleLabel} {s : LifecycleState}
    (reached : (lifecycleMachine connectSet).run newLifecycle labels = some s) :
    Guards s.mu s.inside := by
  -- Nobody is inside at first, and contexts and readiness take nobody in or out.
  have initial : Guards newLifecycle.mu newLifecycle.inside := by
    intro call
    cases call <;>
      simp [newLifecycle, LifecycleState.inside, StarterPhase.holds, StopperPhase.holds]
  refine (lifecycleMachine connectSet).run_history (fun _ s => Guards s.mu s.inside) initial ?_
    labels s reached
  intro _ s label next _ guarded taken
  cases label with
  | start k action => exact guards_starter (starterStep_move taken) guarded
  | stop k action => exact guards_stopper (stopperStep_move taken) guarded
  | cancel k cause =>
    cases taken
    exact guarded
  | ready =>
    cases taken
    rw [(initReady_frame s).1]
    exact guarded.stay (initReady_inside s)

end Bootkit
