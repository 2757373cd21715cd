import Bootkit.Go.Errors
import Bootkit.Go.Machine

/-!
The worker server: its stop closure waits for the `Shutdown` of asynq, or for its context.

Nothing is assumed about asynq. Its `Shutdown` may return at any time, with or without handlers
that still run, or never.
-/

namespace Bootkit

open Go

/-- Where the goroutine is that the stop closure launches. -/
inductive DrainPhase where
  | unlaunched
  -- About to call `Shutdown`, or inside it.
  | draining
  -- `Shutdown` has returned, and the channel is closed.
  | done
  deriving Repr, DecidableEq

/-- Where the stop closure is. -/
inductive AsynqStop where
  | uncalled
  | selecting
  -- The context was done with this error, and `Stop` has not returned.
  | forcing (err : Err)
  -- The goroutine was done first, and nil is returned.
  | drained
  -- `Stop` has returned, and so does the closure, with the error of the context.
  | forced (err : Err)
  deriving Repr, DecidableEq

/-- A worker server: whether it has started, and where its stop closure and its goroutine are. -/
structure AsynqServer where
  started : Bool
  drain : DrainPhase
  stop : AsynqStop
  deriving Repr, DecidableEq

/-- A new worker server. -/
def newAsynqServer : AsynqServer where
  started := false
  drain := .unlaunched
  stop := .uncalled

/-- What can happen on a worker server. -/
inductive AsynqAction where
  | start
  -- The stop closure is called, and launches its goroutine.
  | call
  -- `Shutdown` returns to the goroutine, which closes the channel.
  | drained
  -- The branches of the select.
  | done
  | giveUp (err : Err)
  -- `Stop` returns.
  | force
  deriving Repr, DecidableEq

/-- What the stop closure returns when its context is done. -/
def shutdownTimedOut (err : Err) : Err :=
  err.annotate "asynq server shutdown timed out"

/-- One step on a worker server. -/
def asynqStep (s : AsynqServer) : AsynqAction → Option AsynqServer
  | .start =>
    match s.started with
    | false => some { s with started := true }
    | true => none
  | .call =>
    match s.stop, s.started with
    -- The closure exists once the server has started.
    | .uncalled, true => some { s with stop := .selecting, drain := .draining }
    | _, _ => none
  | .drained =>
    match s.drain with
    | .draining => some { s with drain := .done }
    | _ => none
  | .done =>
    match s.stop, s.drain with
    | .selecting, .done => some { s with stop := .drained }
    | _, _ => none
  | .giveUp err =>
    match s.stop with
    | .selecting => some { s with stop := .forcing err }
    | _ => none
  | .force =>
    match s.stop with
    | .forcing err => some { s with stop := .forced err }
    | _ => none

/-- The steps on a worker server, as a relation between states. -/
inductive AsynqMove (s : AsynqServer) : AsynqAction → AsynqServer → Prop
  | start (new : s.started = false) : AsynqMove s .start { s with started := true }
  | call (uncalled : s.stop = .uncalled) (started : s.started = true) :
    AsynqMove s .call { s with stop := .selecting, drain := .draining }
  | drained (draining : s.drain = .draining) : AsynqMove s .drained { s with drain := .done }
  | done (selecting : s.stop = .selecting) (drained : s.drain = .done) :
    AsynqMove s .done { s with stop := .drained }
  | giveUp {err : Err} (selecting : s.stop = .selecting) :
    AsynqMove s (.giveUp err) { s with stop := .forcing err }
  | force {err : Err} (forcing : s.stop = .forcing err) :
    AsynqMove s .force { s with stop := .forced err }

/-- Every step on a worker server is one of its moves. -/
theorem asynqStep_move {s next : AsynqServer} {action : AsynqAction}
    (taken : asynqStep s action = some next) : AsynqMove s action next := by
  -- Each action reads the phases it needs, and every branch that succeeds is one move.
  cases action <;> simp only [asynqStep] at taken <;> split at taken <;> cases taken <;>
    constructor <;> assumption

/-- What holds on a worker server whatever asynq does. -/
structure AsynqInvariant (s : AsynqServer) : Prop where
  unstarted : s.started = false → s.stop = .uncalled
  returned : s.stop = .drained → s.drain = .done

/-- Every step on a worker server keeps what holds on it. -/
theorem asynqInvariant_move {s next : AsynqServer} {action : AsynqAction}
    (moved : AsynqMove s action next) (holds : AsynqInvariant s) : AsynqInvariant next := by
  -- Whoever is past the call of the closure was called on a server that has started.
  have called : s.stop ≠ .uncalled → s.started = true := by
    intro past
    by_contra new
    exact past (holds.unstarted (by simpa using new))
  cases moved with
  | start new => exact ⟨by simp, holds.returned⟩
  | call uncalled started => exact ⟨by simp [started], by simp⟩
  | drained draining => exact ⟨holds.unstarted, fun _ => rfl⟩
  | done selecting drained =>
    exact ⟨by simp [called (by simp [selecting])], fun _ => drained⟩
  | giveUp selecting => exact ⟨by simp [called (by simp [selecting])], by simp⟩
  | force forcing => exact ⟨by simp [called (by simp [forcing])], by simp⟩

/-- What the stop closure returns, once it does. -/
def AsynqStop.result : AsynqStop → Option (Option Err)
  | .drained => some none
  | .forced err => some (some (shutdownTimedOut err))
  | _ => none

/-- The error with which the context was done, if that branch was taken. -/
def AsynqStop.abandoned : AsynqStop → Option Err
  | .forcing err | .forced err => some err
  | _ => none

/-- What the stop closure has returned does not change. -/
theorem AsynqMove.result {s next : AsynqServer} {action : AsynqAction}
    (moved : AsynqMove s action next) {result : Option Err}
    (ended : s.stop.result = some result) : next.stop.result = some result := by
  -- Every move of the stop itself starts from a phase without a result.
  cases moved with
  | call phase | done phase | giveUp phase | force phase =>
    simp [phase, AsynqStop.result] at ended
  | _ => exact ended

/-- Only the branch of the context ends in having given up. -/
theorem AsynqMove.abandoned {s next : AsynqServer} {action : AsynqAction}
    (moved : AsynqMove s action next) {err : Err} (ended : next.stop.abandoned = some err) :
    s.stop.abandoned = some err ∨ action = .giveUp err := by
  -- Stopping the server hands on the error with which the branch was taken.
  cases moved with
  | giveUp phase =>
    obtain rfl : _ = err := Option.some.inj ended
    exact .inr rfl
  | force phase =>
    rw [phase]
    exact .inl ended
  | call | done => cases ended
  | _ => exact .inl ended

/-- Only a start starts a server. -/
theorem AsynqMove.unstarted {s next : AsynqServer} {action : AsynqAction}
    (moved : AsynqMove s action next) (new : s.started = false) (other : action ≠ .start) :
    next.started = false := by
  -- Only the start does this.
  cases moved with
  | start => exact absurd rfl other
  | _ => exact new

end Bootkit
