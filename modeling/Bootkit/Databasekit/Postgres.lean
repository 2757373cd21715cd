import Bootkit.Adapters.Connector
import Bootkit.Databasekit.TxManager

/-! The Postgres adapter, and the operations that a transaction manager sends to it. -/

namespace Bootkit

open Go

/-- How `NewPostgresDB` connects: a pool is created, pinged, and closed again if that fails. -/
def postgresConnector (retryAttempts retryBackoff : Int) : Connector where
  retryAttempts := retryAttempts
  retryBackoff := retryBackoff
  createFails := true
  -- Closing a pool returns nothing, and the stop closure returns nil.
  closeFails := false
  failure := "failed to connect to database"

/-- What is asked of a manager outside a transaction. -/
inductive DatabaseOperation where
  | exec
  | query
  | queryRow
  | withTx
  deriving Repr, DecidableEq

/-- What an operation of the adapter itself fails with while it has no pool. -/
def poolUninitialized : Err := .wrap "database pool is not initialized" []

/-- What the caller of an operation sees of a missing pool. -/
def DatabaseOperation.uninitialized : DatabaseOperation → Err
  | .withTx => poolUninitialized.annotate "failed to begin transaction"
  -- The row of `QueryRow` carries the error to its `Scan`.
  | .exec | .query | .queryRow => poolUninitialized

/-- Where an operation is. -/
inductive DatabasePhase where
  | idle
  -- Waiting for readiness or for its own context.
  | gated (op : DatabaseOperation)
  -- Past the gate, before the pool is looked up.
  | admitted (op : DatabaseOperation)
  -- Turned away at the gate.
  | refused (err : Err)
  -- Handed on to a pool.
  | delegated (op : DatabaseOperation) (pool : Nat)
  -- The adapter had no pool.
  | failed (err : Err)
  deriving Repr, DecidableEq

/-- The adapter with the operations issued to it. -/
structure DatabaseState where
  adapter : ConnectorState
  operations : Nat → DatabasePhase
  -- The error of each operation's own context, once it is done.
  contexts : Nat → Option Err

/-- The steps of an operation. -/
inductive DatabaseAction where
  -- The readiness channel is asked for, which creates it.
  | issue (op : DatabaseOperation)
  -- The context of the operation becomes done.
  | cancel (cause : Sentinel)
  -- The branch of the wait that reads the readiness channel.
  | pass
  -- The branch of the wait that reads the context.
  | giveUp
  -- The field of the adapter is read.
  | resolve
  deriving Repr, DecidableEq

/-- Who takes the next step. -/
inductive DatabaseLabel where
  | adapter (label : ConnectorLabel)
  | operation (j : Nat) (action : DatabaseAction)

/-- One operation moved to a phase. -/
def DatabaseState.setOperation (s : DatabaseState) (j : Nat) (phase : DatabasePhase) :
    DatabaseState :=
  { s with operations := update s.operations j phase }

end Bootkit
