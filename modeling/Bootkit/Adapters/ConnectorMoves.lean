import Bootkit.Adapters.Connector
import Bootkit.Core.LifecycleMoves

/-! What one step on an adapter can do, and what every call of its connect closure keeps. -/

namespace Bootkit

open Go

/-- The steps of the connect closure, as a relation between states. -/
inductive ClosureMove (connector : Connector) (s : ConnectorState) (k : Nat) :
    ConnectAction → ConnectorState → Prop
  | retry {action : RetryAction} {retry : RetryPhase}
      (allowed : (s.connects k).attempt.allows action = true)
      (moved : RetryMove connector.policy s.now (s.lifecycle.contexts k) (s.connects k).retry
        action retry) :
    ClosureMove connector s k (.retry action) (s.setConnect k { s.connects k with
      retry, attempt := (s.connects k).attempt.after action })
  | create (phase : (s.connects k).attempt = .creating) :
    ClosureMove connector s k (.create none) { s.setConnect k { s.connects k with
      attempt := .pinging s.created } with
      created := s.created + 1, live := update s.live s.created true }
  | refuse {err : Err} (phase : (s.connects k).attempt = .creating)
      (fallible : connector.createFails = true) :
    ClosureMove connector s k (.create (some err)) (s.setConnect k { s.connects k with
      attempt := .answering (some err) })
  | ping {client : Nat} (phase : (s.connects k).attempt = .pinging client) :
    ClosureMove connector s k (.ping none) { s.setConnect k { s.connects k with
      attempt := .answering none, captured := some client } with
      pinged := update s.pinged client true }
  | lose {client : Nat} {err : Err} (phase : (s.connects k).attempt = .pinging client) :
    ClosureMove connector s k (.ping (some err)) (s.setConnect k { s.connects k with
      attempt := .closing client err })
  | close {client : Nat} {err : Err} (phase : (s.connects k).attempt = .closing client err) :
    ClosureMove connector s k .close ((s.close client).setConnect k { s.connects k with
      attempt := .answering (some err) })
  | assign (ended : (s.connects k).retry.result = some none)
      (first : (s.connects k).assigned = false) :
    ClosureMove connector s k .assign { s.setConnect k { s.connects k with
      assigned := true } with field := (s.connects k).captured }

/-- Every step of the connect closure is one of its moves, inside `Connect`. -/
theorem connectStep_move {connector : Connector} {s next : ConnectorState} {k : Nat}
    {action : ConnectAction} (taken : connectStep connector s k action = some next) :
    s.lifecycle.starters k = .connecting ∧ ClosureMove connector s k action next := by
  -- Each action has one phase in which it is taken, and the guard of the step is its premise.
  unfold connectStep at taken
  split at taken
  · refine ⟨by assumption, ?_⟩
    cases action with
    | retry action =>
      simp only [closureStep] at taken
      split at taken
      · obtain ⟨retry, moved, rfl⟩ := Option.map_eq_some_iff.mp taken
        exact .retry (by assumption) (retryStep_move moved)
      · cases taken
    | create err =>
      simp only [closureStep] at taken
      split at taken
      · cases taken
        exact .create (by assumption)
      · split at taken <;> cases taken
        exact .refuse (by assumption) (by assumption)
      · cases taken
    | ping err =>
      simp only [closureStep] at taken
      split at taken <;> cases taken
      · exact .ping (by assumption)
      · exact .lose (by assumption)
    | close =>
      simp only [closureStep] at taken
      split at taken <;> cases taken
      exact .close (by assumption)
    | assign =>
      simp only [closureStep] at taken
      split at taken
      · rename_i guarded
        cases taken
        exact .assign guarded.1 guarded.2
      · cases taken
  · cases taken

/-- A step on the lifecycle of an adapter is permitted and is a step on the lifecycle. -/
theorem lifecycleStep_permitted {connector : Connector} {s next : ConnectorState}
    {label : LifecycleLabel} (taken : connectorStep connector s (.lifecycle label) = some next) :
    connector.permits s label = true ∧ ∃ lifecycle,
      lifecycleStep true s.lifecycle label = some lifecycle ∧
      next = { s.affected label with lifecycle } := by
  -- The adapter lets a step of the lifecycle pass only when its own closure is ready for it.
  simp only [connectorStep] at taken
  split at taken
  · obtain ⟨lifecycle, moved, rfl⟩ := Option.map_eq_some_iff.mp taken
    exact ⟨by assumption, lifecycle, moved, rfl⟩
  · cases taken

/-- What a schedule of an adapter is for its lifecycle. -/
def ConnectorLabel.onLifecycle : ConnectorLabel → Option LifecycleLabel
  | .lifecycle label => some label
  | _ => none

/-- The connect closure leaves the lifecycle, the clock, and the other calls alone. -/
theorem ClosureMove.frame {connector : Connector} {s next : ConnectorState} {k : Nat}
    {action : ConnectAction} (moved : ClosureMove connector s k action next) :
    next.lifecycle = s.lifecycle ∧ next.crashed = s.crashed ∧
      ∀ j, j ≠ k → next.connects j = s.connects j := by
  -- A closure writes to its own record of `Connect` only.
  have others : ∀ call j, j ≠ k → update s.connects k call j = s.connects j :=
    fun call j other => update_other s.connects call other
  cases moved <;> exact ⟨rfl, rfl, others _⟩

/-- The lifecycle of an adapter makes runs of a lifecycle. -/
theorem lifecycle_run {connector : Connector} {labels : List ConnectorLabel} {s : ConnectorState}
    (reached : (connectorMachine connector).run newConnector labels = some s) :
    (lifecycleMachine true).run newLifecycle (labels.filterMap ConnectorLabel.onLifecycle) =
      some s.lifecycle := by
  -- Steps of the closures are invisible to the lifecycle, and the others are its own.
  refine (connectorMachine connector).run_project ConnectorState.lifecycle
    ConnectorLabel.onLifecycle ?_ reached
  intro s label next taken
  cases label with
  | tick d =>
    cases taken
    rfl
  | lifecycle label =>
    obtain ⟨-, lifecycle, moved, rfl⟩ := lifecycleStep_permitted taken
    exact moved
  | connect k action => exact (connectStep_move taken).2.frame.1

/-- `retry.Do` is neither inside its function nor over with a success. -/
def RetryPhase.waiting : RetryPhase → Bool
  | .calling _ | .returned none | .fellOut => false
  | _ => true

/-- How the parts of a call of the connect closure fit together. -/
inductive Attempting : ConnectCall → Prop
  | waiting {retry : RetryPhase} (outside : retry.waiting = true) :
    Attempting ⟨retry, .idle, none, false⟩
  | creating {attempt : Nat} : Attempting ⟨.calling attempt, .creating, none, false⟩
  | pinging {attempt client : Nat} : Attempting ⟨.calling attempt, .pinging client, none, false⟩
  | closing {attempt client : Nat} {err : Err} :
    Attempting ⟨.calling attempt, .closing client err, none, false⟩
  | failed {attempt : Nat} {err : Err} :
    Attempting ⟨.calling attempt, .answering (some err), none, false⟩
  | succeeded {attempt client : Nat} :
    Attempting ⟨.calling attempt, .answering none, some client, false⟩
  | connected {client : Nat} {assigned : Bool} :
    Attempting ⟨.returned none, .idle, some client, assigned⟩

/-- The client that a call of the connect closure has in its hands. -/
def ConnectCall.current (call : ConnectCall) : Option Nat :=
  match call.attempt with
  | .pinging client | .closing client _ => some client
  | _ => call.captured

/-- A step of `retry.Do` keeps the parts together and the client in hand. -/
theorem RetryMove.attempting {policy : RetryPolicy} {now : Nat} {ctx : Option Err}
    {call : ConnectCall} {action : RetryAction} {retry : RetryPhase}
    (moved : RetryMove policy now ctx call.retry action retry)
    (allowed : call.attempt.allows action = true) (bounded : call.retry.Bounded policy)
    (holds : Attempting call) :
    Attempting { call with retry, attempt := call.attempt.after action } ∧
      ConnectCall.current { call with retry, attempt := call.attempt.after action } =
        call.current := by
  cases holds with
  | waiting outside =>
    cases moved with
    | fall past => exact absurd bounded past
    | call => exact ⟨.creating, rfl⟩
    | succeed | exhaust | fail => simp [RetryPhase.waiting] at outside
    | _ => exact ⟨.waiting rfl, rfl⟩
  | failed =>
    -- The function has failed, and this is what is heard of it.
    cases moved with
    | succeed => simp [AttemptPhase.allows] at allowed
    | exhaust last => exact ⟨.waiting rfl, rfl⟩
    | fail more => exact ⟨.waiting rfl, rfl⟩
  | succeeded =>
    cases moved with
    | succeed => exact ⟨.connected, rfl⟩
    | exhaust | fail => simp [AttemptPhase.allows] at allowed
  | creating | pinging | closing => cases moved <;> simp [AttemptPhase.allows] at allowed
  | connected => cases moved

/-- The open clients are the ones that somebody has in hand, at most one. -/
def Owns (live : Nat → Bool) (owner : Option Nat) : Prop :=
  ∀ client, live client = true ↔ owner = some client

/-- Opening a client when none is open leaves that one. -/
theorem Owns.opened {live : Nat → Bool} (owned : Owns live none) (client : Nat) :
    Owns (update live client true) (some client) := by
  -- Every other client was closed before.
  intro other
  by_cases same : other = client
  · simp [same]
  · have closed : live other = false := by simpa using owned other
    simp [same, closed, Ne.symm same]

/-- Closing the one client that is open leaves none. -/
theorem Owns.closed {live : Nat → Bool} {client : Nat} (owned : Owns live (some client)) :
    Owns (update live client false) none := by
  -- The only open client is the one that is closed now.
  intro other
  by_cases same : other = client
  · simp [same]
  · have closed := owned other
    simpa [same, Ne.symm same] using closed

/-- A step of the connect closure keeps its parts together. -/
theorem ClosureMove.attempting {connector : Connector} {s next : ConnectorState} {k : Nat}
    {action : ConnectAction} (moved : ClosureMove connector s k action next)
    (bounded : (s.connects k).retry.Bounded connector.policy)
    (holds : Attempting (s.connects k)) :
    Attempting (next.connects k) ∧
      (Owns s.live (s.connects k).current → Owns next.live (next.connects k).current) := by
  cases moved with
  | retry allowed moved =>
    obtain ⟨kept, same⟩ := moved.attempting allowed bounded holds
    simp only [ConnectorState.setConnect, update_self]
    exact ⟨kept, fun owned => same ▸ owned⟩
  | create phase =>
    simp only [ConnectorState.setConnect, update_self]
    generalize s.connects k = call at phase holds
    cases holds <;> cases phase
    exact ⟨.pinging, fun owned => Owns.opened owned _⟩
  | refuse phase fallible =>
    simp only [ConnectorState.setConnect, update_self]
    generalize s.connects k = call at phase holds
    cases holds <;> cases phase
    exact ⟨.failed, id⟩
  | ping phase =>
    simp only [ConnectorState.setConnect, update_self]
    generalize s.connects k = call at phase holds
    cases holds <;> cases phase
    exact ⟨.succeeded, id⟩
  | lose phase =>
    simp only [ConnectorState.setConnect, update_self]
    generalize s.connects k = call at phase holds
    cases holds <;> cases phase
    exact ⟨.closing, id⟩
  | close phase =>
    simp only [ConnectorState.setConnect, ConnectorState.close, update_self]
    generalize s.connects k = call at phase holds
    cases holds <;> cases phase
    exact ⟨.failed, fun owned => Owns.closed owned⟩
  | assign ended first =>
    simp only [ConnectorState.setConnect, update_self]
    generalize s.connects k = call at ended holds
    cases holds with
    | @waiting retry outside =>
      -- Only a success makes `retry.Do` return nil.
      cases retry with
      | returned err => cases err <;> simp_all [RetryPhase.result, RetryPhase.waiting]
      | _ => simp_all [RetryPhase.result, RetryPhase.waiting]
    | connected => exact ⟨.connected, id⟩
    | _ => simp [RetryPhase.result] at ended

end Bootkit
