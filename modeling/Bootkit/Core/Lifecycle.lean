import Bootkit.Go.Context
import Bootkit.Go.Mutex

/-! The embeddable lifecycle: one connect closure, a readiness channel, and one release. -/

namespace Bootkit

open Go

/-- A call of `Start` or of `Stop` on one lifecycle, by its number. -/
inductive LifecycleCall where
  | start (k : Nat)
  | stop (k : Nat)
  deriving Repr, DecidableEq

/-- The readiness channel, which the first use creates. -/
inductive ReadyChannel where
  | unset
  | opened
  | closed
  deriving Repr, DecidableEq

/-- Where a call of `Start` is; a stop closure is named by the call whose `Connect` made it. -/
inductive StarterPhase where
  | idle
  -- Inside `Connect`.
  | connecting
  -- `Connect` succeeded with this closure, and the mutex is not held yet.
  | connected (stop : Option Nat)
  -- Holding the mutex, before the stopped flag is read.
  | locked (stop : Option Nat)
  -- The flag was set: the mutex is released, and the closure has not been called.
  | spurned (stop : Option Nat)
  -- Inside the closure that `Start` itself calls.
  | cleaning (stop : Nat)
  -- The closure is stored and the mutex released, and readiness is not announced yet.
  | stored
  -- Readiness is announced, and the call waits for its context.
  | blocked
  | returned (err : Option Err)
  -- The readiness channel was closed a second time.
  | panicked
  deriving Repr, DecidableEq

/-- Where a call of `Stop` is. -/
inductive StopperPhase where
  | idle
  | called
  -- Holding the mutex, before the stopped flag is read.
  | locked
  -- Inside the stored closure, still holding the mutex.
  | releasing (stop : Nat)
  -- The result is known, and the deferred unlock has not run.
  | returning (err : Option Err)
  | returned (err : Option Err)
  deriving Repr, DecidableEq

/-- The state of one lifecycle and of every call on it. -/
structure LifecycleState where
  mu : Option LifecycleCall
  ready : ReadyChannel
  stopFunc : Option Nat
  stopped : Bool
  starters : Nat → StarterPhase
  stoppers : Nat → StopperPhase
  -- The error of the context given to each `Start`, and none while it is live.
  contexts : Nat → Option Err
  -- How often each stop closure was invoked.
  invoked : Nat → Nat

/-- A new lifecycle that nobody has called. -/
def newLifecycle : LifecycleState where
  mu := none
  ready := .unset
  stopFunc := none
  stopped := false
  starters := fun _ => .idle
  stoppers := fun _ => .idle
  contexts := fun _ => none
  invoked := fun _ => 0

/-- What `Start` returns when no connect closure was set. -/
def connectUnset : Err := .wrap "core.Lifecycle: Connect closure is not set" []

namespace LifecycleState

/-- The readiness channel created by its first use. -/
def initReady (s : LifecycleState) : LifecycleState :=
  match s.ready with
  | .unset => { s with ready := .opened }
  | _ => s

/-- One more invocation of a stop closure. -/
def invoke (s : LifecycleState) (stop : Nat) : LifecycleState :=
  { s with invoked := update s.invoked stop (s.invoked stop + 1) }

/-- One call of `Start` moved to a phase. -/
def setStarter (s : LifecycleState) (k : Nat) (phase : StarterPhase) : LifecycleState :=
  { s with starters := update s.starters k phase }

/-- One call of `Stop` moved to a phase. -/
def setStopper (s : LifecycleState) (k : Nat) (phase : StopperPhase) : LifecycleState :=
  { s with stoppers := update s.stoppers k phase }

end LifecycleState

/-- The steps of a call of `Start`. -/
inductive StarterAction where
  | enter
  -- `Connect` returns an error, or nil with a closure that may itself be nil.
  | connect (result : Except Err Bool)
  | lock
  -- The flag is read, the closure is stored if it is clear, and the mutex is released.
  | decide
  | clean
  -- The closure called by `Start` returns.
  | cleaned (err : Option Err)
  | announce
  | finish

/-- The steps of a call of `Stop`. -/
inductive StopperAction where
  | call
  | lock
  | decide
  -- The stored closure returns.
  | released (err : Option Err)
  | unlock
  deriving Repr, DecidableEq

/-- Who takes the next step on a lifecycle. -/
inductive LifecycleLabel where
  | start (k : Nat) (action : StarterAction)
  | stop (k : Nat) (action : StopperAction)
  -- The context given to a call of `Start` becomes done.
  | cancel (k : Nat) (cause : Sentinel)
  -- Somebody asks for the readiness channel.
  | ready

/-- One step of a call of `Start`, on a lifecycle whose connect closure may be unset. -/
def starterStep (connectSet : Bool) (s : LifecycleState) (k : Nat) :
    StarterAction → Option LifecycleState
  | .enter =>
    match s.starters k with
    | .idle => some (s.initReady.setStarter k
        (if connectSet then .connecting else .returned (some connectUnset)))
    | _ => none
  | .connect result =>
    match s.starters k, result with
    | .connecting, .error err => some (s.setStarter k (.returned (some err)))
    -- The closure is named by this call, unless it is nil.
    | .connecting, .ok closure => some (s.setStarter k
        (.connected (if closure then some k else none)))
    | _, _ => none
  | .lock =>
    match s.starters k, s.mu with
    | .connected stop, none => some { s.setStarter k (.locked stop) with mu := some (.start k) }
    | _, _ => none
  | .decide =>
    match s.starters k with
    | .locked stop =>
      if s.stopped then some { s.setStarter k (.spurned stop) with mu := none }
      else some { s.setStarter k .stored with mu := none, stopFunc := stop }
    | _ => none
  | .clean =>
    match s.starters k with
    | .spurned none => some (s.setStarter k (.returned none))
    | .spurned (some stop) => some ((s.setStarter k (.cleaning stop)).invoke stop)
    | _ => none
  | .cleaned err =>
    match s.starters k with
    | .cleaning _ => some (s.setStarter k (.returned err))
    | _ => none
  | .announce =>
    match s.starters k with
    | .stored =>
      -- Closing a closed channel is a run-time panic.
      if s.ready = .closed then some (s.setStarter k .panicked)
      else some { s.setStarter k .blocked with ready := .closed }
    | _ => none
  | .finish =>
    match s.starters k, s.contexts k with
    | .blocked, some err => some (s.setStarter k (.returned (some err)))
    | _, _ => none

/-- One step of a call of `Stop`. -/
def stopperStep (s : LifecycleState) (k : Nat) : StopperAction → Option LifecycleState
  | .call =>
    match s.stoppers k with
    | .idle => some (s.setStopper k .called)
    | _ => none
  | .lock =>
    match s.stoppers k, s.mu with
    | .called, none => some { s.setStopper k .locked with mu := some (.stop k) }
    | _, _ => none
  | .decide =>
    match s.stoppers k with
    | .locked =>
      if s.stopped then some (s.setStopper k (.returning none))
      else match s.stopFunc with
        | none => some { s.setStopper k (.returning none) with stopped := true }
        -- The closure runs while the mutex is held.
        | some stop =>
          some { (s.setStopper k (.releasing stop)).invoke stop with stopped := true }
    | _ => none
  | .released err =>
    match s.stoppers k with
    | .releasing _ => some (s.setStopper k (.returning err))
    | _ => none
  | .unlock =>
    match s.stoppers k with
    | .returning err => some { s.setStopper k (.returned err) with mu := none }
    | _ => none

/-- One step on a lifecycle. -/
def lifecycleStep (connectSet : Bool) (s : LifecycleState) :
    LifecycleLabel → Option LifecycleState
  | .start k action => starterStep connectSet s k action
  | .stop k action => stopperStep s k action
  -- A context that is done keeps its error.
  | .cancel k cause => some { s with
      contexts := update s.contexts k ((s.contexts k).or (some (.new cause))) }
  | .ready => some s.initReady

/-- The machine whose runs interleave every call on one lifecycle. -/
def lifecycleMachine (connectSet : Bool) : Machine LifecycleState LifecycleLabel where
  step := lifecycleStep connectSet

/-- The branches of the select in `WaitReady`. -/
inductive WaitBranch where
  | ready
  | done
  deriving Repr, DecidableEq

/-- What `WaitReady` returns through a branch of its select, if the branch can be taken. -/
def waitReady (ready : ReadyChannel) (ctx : Option Err) : WaitBranch → Option (Option Err)
  | .ready => if ready = .closed then some none else none
  | .done => ctx.map some

end Bootkit
