import Bootkit.Core.Lifecycle
import Bootkit.Core.Retry

/-! Adapters that embed a lifecycle and connect a client with retries. -/

namespace Bootkit

open Go

/-- What tells the connect closures of the adapters apart. -/
structure Connector where
  retryAttempts : Int
  -- A duration in nanoseconds.
  retryBackoff : Int
  -- Whether creating a client can fail, before it is pinged.
  createFails : Bool
  -- Whether the stop closure hands on what closing the client returns.
  closeFails : Bool
  -- The words that an error of connecting is wrapped with.
  failure : String
  deriving Repr, DecidableEq

/-- Both values of the option must be positive to take effect. -/
def Connector.withConnectRetry (connector : Connector) (maxAttempts backoff : Int) : Connector :=
  if 0 < maxAttempts ∧ 0 < backoff then
    { connector with retryAttempts := maxAttempts, retryBackoff := backoff }
  else connector

/-- What the connect closure passes to `retry.Do`: without the option there is one attempt. -/
def Connector.policy (connector : Connector) : RetryPolicy where
  maxAttempts := if connector.retryAttempts ≤ 0 then 1 else connector.retryAttempts
  baseBackoff := connector.retryBackoff

/-- Where the function is that `retry.Do` calls; a client is named by its number. -/
inductive AttemptPhase where
  | idle
  | creating
  | pinging (client : Nat)
  -- The ping failed with this error, and the client has not been closed.
  | closing (client : Nat) (err : Err)
  -- The function returns this to `retry.Do`.
  | answering (err : Option Err)
  deriving Repr, DecidableEq

/-- One call of the connect closure. -/
structure ConnectCall where
  -- The call of `retry.Do` it makes.
  retry : RetryPhase
  attempt : AttemptPhase
  -- The variable of the closure that a successful attempt assigns.
  captured : Option Nat
  -- Whether the field of the adapter was assigned from it.
  assigned : Bool
  deriving Repr, DecidableEq

/-- A call of the connect closure that has not begun. -/
def ConnectCall.init : ConnectCall where
  retry := .entered
  attempt := .idle
  captured := none
  assigned := false

/-- An adapter, its lifecycle, and the clients that exist. -/
structure ConnectorState where
  now : Nat
  lifecycle : LifecycleState
  -- The call of the connect closure that each call of `Start` makes.
  connects : Nat → ConnectCall
  -- The field of the adapter that holds its client.
  field : Option Nat
  -- How many clients were created.
  created : Nat
  -- Which clients are open.
  live : Nat → Bool
  -- Which clients have answered a ping.
  pinged : Nat → Bool
  -- A stop closure found the field unset.
  crashed : Bool

/-- A new adapter: no client exists. -/
def newConnector : ConnectorState where
  now := 0
  lifecycle := newLifecycle
  connects := fun _ => .init
  field := none
  created := 0
  live := fun _ => false
  pinged := fun _ => false
  crashed := false

/-- The steps of the connect closure. -/
inductive ConnectAction where
  -- A step of `retry.Do`.
  | retry (action : RetryAction)
  -- A client is created, or creating it fails.
  | create (err : Option Err)
  | ping (err : Option Err)
  | close
  -- The field of the adapter is assigned.
  | assign
  deriving Repr, DecidableEq

/-- Who takes the next step on an adapter. -/
inductive ConnectorLabel where
  -- Time passes.
  | tick (d : Nat)
  -- A step on the embedded lifecycle.
  | lifecycle (label : LifecycleLabel)
  -- A step of the connect closure inside a call of `Start`.
  | connect (k : Nat) (action : ConnectAction)

namespace ConnectorState

/-- One call of the connect closure moved on. -/
def setConnect (s : ConnectorState) (k : Nat) (call : ConnectCall) : ConnectorState :=
  { s with connects := update s.connects k call }

/-- One client closed. -/
def close (s : ConnectorState) (client : Nat) : ConnectorState :=
  { s with live := update s.live client false }

/-- The body of a stop closure: the client in the field is closed. -/
def closeField (s : ConnectorState) : ConnectorState :=
  match s.field with
  | some client => s.close client
  | none => { s with crashed := true }

end ConnectorState

/-- Where the function is after a step of `retry.Do`. -/
def AttemptPhase.after (attempt : AttemptPhase) : RetryAction → AttemptPhase
  | .call => .creating
  | .answer _ => .idle
  | _ => attempt

/-- What `retry.Do` hears from its function is what the function returns. -/
def AttemptPhase.allows (attempt : AttemptPhase) : RetryAction → Bool
  | .answer err => attempt == .answering err
  | _ => true

/-- One step of the connect closure that a call of `Start` is inside of. -/
def closureStep (connector : Connector) (s : ConnectorState) (k : Nat) (call : ConnectCall) :
    ConnectAction → Option ConnectorState
  | .retry action =>
    if call.attempt.allows action then
      (retryStep connector.policy s.now (s.lifecycle.contexts k) call.retry action).map
        fun retry => s.setConnect k { call with retry, attempt := call.attempt.after action }
    else none
  | .create err =>
    match call.attempt, err with
    | .creating, none => some { s.setConnect k { call with attempt := .pinging s.created } with
        created := s.created + 1
        live := update s.live s.created true }
    | .creating, some err =>
      if connector.createFails then
        some (s.setConnect k { call with attempt := .answering (some err) })
      else none
    | _, _ => none
  | .ping err =>
    match call.attempt, err with
    | .pinging client, none => some { s.setConnect k { call with
        attempt := .answering none, captured := some client } with
        pinged := update s.pinged client true }
    | .pinging client, some err =>
      some (s.setConnect k { call with attempt := .closing client err })
    | _, _ => none
  | .close =>
    match call.attempt with
    | .closing client err =>
      some ((s.close client).setConnect k { call with attempt := .answering (some err) })
    | _ => none
  | .assign =>
    if call.retry.result = some none ∧ call.assigned = false then
      some { s.setConnect k { call with assigned := true } with field := call.captured }
    else none

/-- One step of the connect closure of a call of `Start`. -/
def connectStep (connector : Connector) (s : ConnectorState) (k : Nat) (action : ConnectAction) :
    Option ConnectorState :=
  if s.lifecycle.starters k = .connecting then closureStep connector s k (s.connects k) action
  else none

/-- What the adapter makes of a step on its lifecycle that depends on the closures it gave it. -/
def Connector.permits (connector : Connector) (s : ConnectorState) : LifecycleLabel → Bool
  -- The connect closure succeeds with a stop closure once the field is assigned.
  | .start k (.connect (.ok closure)) => closure && (s.connects k).assigned
  | .start k (.connect (.error err)) =>
    match (s.connects k).retry.result with
    | some (some cause) => err == cause.annotate connector.failure
    | _ => false
  | .start _ (.cleaned err) | .stop _ (.released err) => err.isNone || connector.closeFails
  | _ => true

/-- What a step on the lifecycle does to the clients: a stop closure that returns closes one. -/
def ConnectorState.affected (s : ConnectorState) : LifecycleLabel → ConnectorState
  | .start _ (.cleaned _) | .stop _ (.released _) => s.closeField
  | _ => s

/-- One step on an adapter. -/
def connectorStep (connector : Connector) (s : ConnectorState) :
    ConnectorLabel → Option ConnectorState
  | .tick d => some { s with now := s.now + d }
  | .lifecycle label =>
    if connector.permits s label then
      (lifecycleStep true s.lifecycle label).map fun lifecycle =>
        { s.affected label with lifecycle }
    else none
  | .connect k action => connectStep connector s k action

/-- The machine whose runs interleave every call on one adapter. -/
def connectorMachine (connector : Connector) : Machine ConnectorState ConnectorLabel where
  step := connectorStep connector

end Bootkit
