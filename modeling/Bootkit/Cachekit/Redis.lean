import Bootkit.Adapters.Connector

/-! The Redis adapter and the operations of a cache on it. -/

namespace Bootkit

open Go

/-- How `NewRedisCache` connects: a client is made, pinged, and closed again if that fails. -/
def redisConnector (retryAttempts retryBackoff : Int) : Connector where
  retryAttempts := retryAttempts
  retryBackoff := retryBackoff
  -- Making a client does not touch the network and always succeeds.
  createFails := false
  closeFails := true
  failure := "failed to connect to Redis"

/-- What the driver returns for a key that does not exist. -/
def redisNil : Sentinel := ⟨"redis", "redis: nil"⟩

/-- What a cache returns for a key that is not found. -/
def errCacheMiss : Sentinel := ⟨"cachekit", "cache miss"⟩

/-- The operations of a cache. -/
inductive CacheOperation where
  | get (key : String)
  | set
  | delete
  | exists_
  deriving Repr, DecidableEq

/-- What an operation returns, given the error of the driver and that of decoding the value. -/
def CacheOperation.outcome (reply decoded : Option Err) : CacheOperation → Option Err
  | .get key =>
    match reply with
    | some err => if err.is redisNil then some ((Err.new errCacheMiss).annotate key) else some err
    | none => decoded
  | .set | .delete | .exists_ => reply

/-- Where an operation is. -/
inductive CachePhase where
  | idle
  -- Before the value to be set is encoded.
  | encoding
  -- About to use the client.
  | ready (op : CacheOperation)
  -- Inside a command of this client.
  | using (op : CacheOperation) (client : Nat)
  | returned (err : Option Err)
  -- The client was nil.
  | panicked
  deriving Repr, DecidableEq

/-- The adapter with the operations issued to it. -/
structure CacheState where
  adapter : ConnectorState
  operations : Nat → CachePhase

/-- A new cache without operations. -/
def newRedisCache : CacheState where
  adapter := newConnector
  operations := fun _ => .idle

/-- The steps of an operation. -/
inductive CacheAction where
  | issue (op : CacheOperation)
  -- The codec encodes the value to be set, or fails.
  | encode (err : Option Err)
  -- The field of the adapter is read and its client is used.
  | use
  | reply (err decoded : Option Err)
  deriving Repr, DecidableEq

/-- Who takes the next step. -/
inductive CacheLabel where
  | adapter (label : ConnectorLabel)
  | operation (j : Nat) (action : CacheAction)

/-- One operation moved to a phase. -/
def CacheState.setOperation (s : CacheState) (j : Nat) (phase : CachePhase) : CacheState :=
  { s with operations := update s.operations j phase }

/-- One step of an operation. -/
def cacheOperationStep (s : CacheState) (j : Nat) : CacheAction → Option CacheState
  | .issue op =>
    match s.operations j with
    -- Only `Set` has something to do before it needs the client.
    | .idle => some (s.setOperation j (if op = .set then .encoding else .ready op))
    | _ => none
  | .encode err =>
    match s.operations j, err with
    | .encoding, none => some (s.setOperation j (.ready .set))
    | .encoding, some err => some (s.setOperation j (.returned (some err)))
    | _, _ => none
  | .use =>
    match s.operations j, s.adapter.field with
    | .ready op, some client => some (s.setOperation j (.using op client))
    -- A method of a nil client dereferences it.
    | .ready _, none => some (s.setOperation j .panicked)
    | _, _ => none
  | .reply err decoded =>
    match s.operations j with
    | .using op _ => some (s.setOperation j (.returned (op.outcome err decoded)))
    | _ => none

/-- One step of the adapter or of an operation. -/
def cacheStep (connector : Connector) (s : CacheState) : CacheLabel → Option CacheState
  | .adapter label => (connectorStep connector s.adapter label).map fun adapter =>
      { s with adapter }
  | .operation j action => cacheOperationStep s j action

/-- The machine whose runs interleave starting, stopping, and operations of a cache. -/
def cacheMachine (retryAttempts retryBackoff : Int) : Machine CacheState CacheLabel where
  step := cacheStep (redisConnector retryAttempts retryBackoff)

end Bootkit
