import Bootkit.Databasekit.Postgres

/-! The seam between callers and the driver: the adapters, and what each call returns. -/

namespace Bootkit

open Go

/-- What the driver calls a single-row query without a row. -/
def pgxErrNoRows : Sentinel := ⟨"pgx", "no rows in result set"⟩

/-- What the framework calls a single-row query without a row. -/
def errNoRows : Sentinel := ⟨"databasekit", "databasekit: no rows in result set"⟩

/-- A value of the seam on which statements are issued and transactions are begun. -/
inductive SeamProvider where
  -- What `NewPoolProvider` makes of a pool.
  | poolAdapter
  -- What `PostgresDB.TxProvider` hands out; the pool is looked up at every call.
  | txProviderAdapter
  -- A transaction, or a savepoint inside one.
  | pgxTxAdapter (tx : Nat)
  deriving Repr, DecidableEq

/-- A method of the seam, with the value it is called on. -/
inductive SeamCall where
  | exec (on : SeamProvider)
  | query (on : SeamProvider)
  | queryRow (on : SeamProvider)
  | begin (on : SeamProvider)
  | commit (tx : Nat)
  | rollback (tx : Nat)
  -- The deferred result of a single-row query.
  | rowScan (row : Nat)
  | rowsNext (rows : Nat)
  | rowsScan (rows : Nat)
  | rowsErr (rows : Nat)
  | rowsClose (rows : Nat)
  deriving Repr, DecidableEq

/-- What a method of the driver returns; each has the parts that its signature names. -/
structure PgxReply where
  affected : Int
  more : Bool
  err : Option Err
  deriving Repr, DecidableEq

/-- A reply of the driver that is only an error, or the lack of one. -/
def PgxReply.outcome (err : Option Err) : PgxReply where
  affected := 0
  more := false
  err := err

/-- What a method of the seam returns. -/
inductive SeamResult where
  | count (affected : Int) (err : Option Err)
  | rows (rows : Except Err Nat)
  | row (row : Nat)
  | tx (tx : Except Err Nat)
  | outcome (err : Option Err)
  | more (more : Bool)
  | closed
  deriving Repr, DecidableEq

/-- The error that a caller of the seam is told. -/
def SeamResult.err : SeamResult → Option Err
  | .count _ err | .outcome err => err
  | .rows (.error err) | .tx (.error err) => some err
  | .rows (.ok _) | .tx (.ok _) | .row _ | .more _ | .closed => none

/-- A row that has been handed out. -/
inductive SeamRow where
  -- The driver's row, and whether it was asked for on a closed transaction.
  | pgxRowAdapter (closed : Bool)
  -- A row that only carries an error to its `Scan`.
  | errRow (err : Err)
  deriving Repr, DecidableEq

/-- A call that returned: what the driver failed with behind it, and what the caller got. -/
structure Delivery where
  call : SeamCall
  driver : Option Err
  result : SeamResult
  deriving Repr, DecidableEq

/-- The values of the seam that have been handed out, and every call made on them. -/
structure SeamState where
  -- Whether the database adapter has a pool.
  pooled : Bool
  -- The transactions and savepoints are numbered in the order in which they were begun.
  begun : Nat
  closed : Nat → Bool
  row : List SeamRow
  -- How many multi-row results have been handed out.
  rows : Nat
  deliveries : List Delivery

/-- A seam with its two providers, before any call. -/
def newSeam : SeamState where
  pooled := false
  begun := 0
  closed := fun _ => false
  row := []
  rows := 0
  deliveries := []

/-- The provider that a call is made on. -/
def SeamCall.provider : SeamCall → Option SeamProvider
  | .exec on | .query on | .queryRow on | .begin on => some on
  | .commit tx | .rollback tx => some (.pgxTxAdapter tx)
  | .rowScan _ | .rowsNext _ | .rowsScan _ | .rowsErr _ | .rowsClose _ => none

/-- Whether the driver's method behind a call returns an error. -/
def SeamCall.fallible : SeamCall → Bool
  | .queryRow _ | .rowsNext _ | .rowsClose _ => false
  | _ => true

namespace SeamState

/-- Whether a provider has been handed out. -/
def handedOut (s : SeamState) : SeamProvider → Bool
  | .poolAdapter | .txProviderAdapter => true
  | .pgxTxAdapter tx => decide (tx < s.begun)

/-- Whether a provider has a value of the driver behind it. -/
def backed (s : SeamState) : SeamProvider → Bool
  | .txProviderAdapter => s.pooled
  | .poolAdapter | .pgxTxAdapter _ => true

/-- Whether a provider is a transaction that has been committed or rolled back. -/
def spent (s : SeamState) : SeamProvider → Bool
  | .poolAdapter | .txProviderAdapter => false
  | .pgxTxAdapter tx => s.closed tx

/-- Whether a call is made on something that has been handed out. -/
def callable (s : SeamState) (c : SeamCall) : Bool :=
  match c with
  | .rowScan row => decide (row < s.row.length)
  | .rowsNext rows | .rowsScan rows | .rowsErr rows | .rowsClose rows => decide (rows < s.rows)
  | _ => c.provider.any s.handedOut

/-- Whether a call gets as far as the driver. -/
def reaches (s : SeamState) (c : SeamCall) : Bool :=
  match c with
  | .rowScan row =>
    match s.row[row]? with
    | some (.errRow _) => false
    | _ => true
  | _ => c.provider.all s.backed

/-- Whether the driver finds the transaction of a call closed. -/
def stale (s : SeamState) (c : SeamCall) : Bool :=
  match c with
  | .rowScan row => s.row[row]? == some (.pgxRowAdapter true)
  | _ => c.provider.any s.spent

/--
Whether the driver can reply so.

A closed transaction is answered with the driver's own error, and everything else with any error.
-/
def permits (s : SeamState) (c : SeamCall) (reply : PgxReply) : Bool :=
  if !c.fallible then reply.err.isNone
  else if s.stale c then reply.err == some (.new pgxErrTxClosed)
  else true

end SeamState

/-- `Scan` of a single row names a missing row in the framework's words. -/
def rowAdapterScan (err : Option Err) : Option Err :=
  err.map fun err => if err.is pgxErrNoRows then .new errNoRows else err

/-- `Rollback` names a closed transaction in the framework's words. -/
def txAdapterRollback (err : Option Err) : Option Err :=
  err.map fun err => if err.is pgxErrTxClosed then .new errTxClosed else err

/-- One call: what it changes, and what it returns. -/
def seamCall (s : SeamState) (c : SeamCall) (reply : PgxReply) : SeamState × SeamResult :=
  match c with
  | .exec on =>
    if s.backed on then (s, .count reply.affected reply.err)
    else (s, .count 0 (some poolUninitialized))
  | .query on =>
    if s.backed on then
      match reply.err with
      | some err => (s, .rows (.error err))
      | none => ({ s with rows := s.rows + 1 }, .rows (.ok s.rows))
    else (s, .rows (.error poolUninitialized))
  | .queryRow on =>
    let row := if s.backed on then .pgxRowAdapter (s.spent on) else .errRow poolUninitialized
    ({ s with row := s.row ++ [row] }, .row s.row.length)
  | .begin on =>
    if s.backed on then
      match reply.err with
      | some err => (s, .tx (.error err))
      | none => ({ s with begun := s.begun + 1 }, .tx (.ok s.begun))
    else (s, .tx (.error poolUninitialized))
  -- The driver closes a transaction even when the command fails.
  | .commit tx => ({ s with closed := update s.closed tx true }, .outcome reply.err)
  | .rollback tx =>
    ({ s with closed := update s.closed tx true }, .outcome (txAdapterRollback reply.err))
  | .rowScan row =>
    match s.row[row]? with
    | some (.errRow err) => (s, .outcome (some err))
    | _ => (s, .outcome (rowAdapterScan reply.err))
  | .rowsNext _ => (s, .more reply.more)
  | .rowsScan _ => (s, .outcome reply.err)
  | .rowsErr _ => (s, .outcome reply.err)
  | .rowsClose _ => (s, .closed)

/-- What happens around the seam. -/
inductive SeamLabel where
  -- The database adapter stores its pool.
  | connected
  | call (c : SeamCall) (reply : PgxReply)
  deriving Repr, DecidableEq

/-- One call with the driver's reply, appended to the calls before it. -/
def seamStep (s : SeamState) : SeamLabel → Option SeamState
  | .connected => some { s with pooled := true }
  | .call c reply =>
    if s.callable c && s.permits c reply then
      let (next, result) := seamCall s c reply
      some { next with
        deliveries := s.deliveries ++ [⟨c, if s.reaches c then reply.err else none, result⟩] }
    else none

/-- The machine whose runs are sequences of calls of the seam, over any driver. -/
def seamMachine : Machine SeamState SeamLabel where
  step := seamStep

end Bootkit
