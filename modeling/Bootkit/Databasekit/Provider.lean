import Bootkit.Go.Context

/-! Transactions and savepoints as the database driver provides them. -/

namespace Bootkit

open Go

/-- What the driver calls a closed transaction. -/
def pgxErrTxClosed : Sentinel := ⟨"pgx", "tx is closed"⟩

/-- What the framework calls a closed transaction. -/
def errTxClosed : Sentinel := ⟨"databasekit", "databasekit: transaction is closed"⟩

/-- The key under which the active transaction travels: one for the whole package. -/
inductive TxKey where
  | txKey
  deriving Repr, DecidableEq

/-- A context that may carry an active transaction, named by its handle. -/
abbrev TxContext := Context TxKey Nat

/-- How a function ended: by returning, or by a panic. -/
inductive Exit where
  | returned (err : Option Err)
  | panicked (value : String)
  deriving Repr, DecidableEq

/-- A statement that took effect, with the transaction through which it was executed. -/
structure Write (Stmt : Type) where
  tx : Option Nat
  stmt : Stmt
  deriving Repr, DecidableEq

/-- A transaction or a savepoint inside one. -/
structure TxHandle (Provider Stmt : Type) where
  provider : Provider
  -- The transaction whose connection carries everything below it.
  root : Nat
  -- The handle itself, then the ones around it, up to the root.
  chain : List Nat
  -- The uncommitted writes of the connection when the handle was opened.
  snapshot : List (Write Stmt)
  closed : Bool
  deriving Repr, DecidableEq

/-- A transaction just begun on a provider. -/
def TxHandle.begin {Provider Stmt : Type} (p : Provider) (tx : Nat) : TxHandle Provider Stmt where
  provider := p
  root := tx
  chain := [tx]
  snapshot := []
  closed := false

/-- A savepoint just opened inside a handle, with the writes made so far. -/
def TxHandle.savepoint {Provider Stmt : Type} (handle : TxHandle Provider Stmt) (tx : Nat)
    (work : List (Write Stmt)) : TxHandle Provider Stmt :=
  { handle with chain := tx :: handle.chain, snapshot := work, closed := false }

/-- A handle after its commit or rollback. -/
def TxHandle.close {Provider Stmt : Type} (handle : TxHandle Provider Stmt) :
    TxHandle Provider Stmt :=
  { handle with closed := true }

/-- What an observer of the managers and of the driver sees, in order. -/
inductive TxEvent (Manager Provider Stmt : Type) where
  -- A manager opened a transaction or a savepoint on a provider.
  | begun (m : Manager) (p : Provider) (tx : Nat)
  -- A statement of a manager was issued to a transaction, or to the provider itself.
  | executed (m : Manager) (p : Provider) (target : Option Nat) (stmt : Stmt)
  -- The body of a block ended while the block's context had the given error.
  | ended (tx : Nat) (err : Option Err)
  -- A commit or a rollback closed its handle.
  | closed (tx : Nat)
  -- A commit or a rollback found its handle closed.
  | idle (tx : Nat)
  -- A block was left; without a handle it never began.
  | exited (tx : Option Nat) (exit : Exit)
  deriving Repr, DecidableEq

/-- The databases of several providers, and every transaction ever begun on them. -/
structure TxWorld (Manager Provider Stmt : Type) where
  now : Nat
  -- The committed writes of each provider.
  durable : Provider → List (Write Stmt)
  handles : Nat → Option (TxHandle Provider Stmt)
  begun : Nat
  -- The uncommitted writes of each root transaction.
  work : Nat → List (Write Stmt)
  trace : List (TxEvent Manager Provider Stmt)

/-- Which provider each manager has, what a provider answers to a statement, and its driver. -/
structure Site (Manager Provider Stmt Result : Type) where
  provider : Manager → Provider
  -- The answer depends on the writes the statement can see.
  respond : Provider → List Stmt → Stmt → Except Err Result
  -- What the driver makes of the error of a context that was done before a command was sent, to
  -- the pool or on the connection of a transaction.
  contextDone : Option Nat → Err → Err

namespace TxWorld

variable {Manager Provider Stmt Result : Type}

/-- Empty databases, and no transaction begun. -/
def init : TxWorld Manager Provider Stmt where
  now := 0
  durable := fun _ => []
  handles := fun _ => none
  begun := 0
  work := fun _ => []
  trace := []

/-- One operation takes one unit of time. -/
def tick (w : TxWorld Manager Provider Stmt) : TxWorld Manager Provider Stmt :=
  { w with now := w.now + 1 }

/-- One event appended to what the observer has seen. -/
def emit (w : TxWorld Manager Provider Stmt) (event : TxEvent Manager Provider Stmt) :
    TxWorld Manager Provider Stmt :=
  { w with trace := w.trace ++ [event] }

/-- Whether a handle was opened and not closed since. -/
def isOpen (w : TxWorld Manager Provider Stmt) (tx : Nat) : Bool :=
  match w.handles tx with
  | some handle => !handle.closed
  | none => false

/-- Why an operation on a handle is not sent, if it is not. -/
def unsent (w : TxWorld Manager Provider Stmt) (site : Site Manager Provider Stmt Result)
    (ctx : TxContext) (handle : TxHandle Provider Stmt) : Option Err :=
  -- A savepoint passes every operation through the handles around it.
  if handle.chain.all w.isOpen then (ctx.err w.now).map (site.contextDone (some handle.root))
  else some (.new pgxErrTxClosed)

/-- The handle marked closed, and the fact observed. -/
def close (w : TxWorld Manager Provider Stmt) (tx : Nat) (handle : TxHandle Provider Stmt) :
    TxWorld Manager Provider Stmt :=
  { w with handles := update w.handles tx (some handle.close) }.emit (.closed tx)

variable [DecidableEq Provider]

/-- A statement issued to a provider outside any transaction takes effect at once. -/
def poolExec (site : Site Manager Provider Stmt Result) (ctx : TxContext) (p : Provider)
    (stmt : Stmt) (w : TxWorld Manager Provider Stmt) :
    TxWorld Manager Provider Stmt × Except Err Result :=
  match ctx.err w.now with
  | some err => (w.tick, .error (site.contextDone none err))
  | none =>
    match site.respond p ((w.durable p).map Write.stmt) stmt with
    | .error err => (w.tick, .error err)
    | .ok result =>
      ({ w.tick with durable := update w.durable p (w.durable p ++ [⟨none, stmt⟩]) }, .ok result)

/-- A statement issued to a transaction sees and extends the writes of its connection. -/
def txExec (site : Site Manager Provider Stmt Result) (ctx : TxContext) (tx : Nat) (stmt : Stmt)
    (w : TxWorld Manager Provider Stmt) :
    TxWorld Manager Provider Stmt × Except Err Result :=
  match w.handles tx with
  | none => (w.tick, .error (.new pgxErrTxClosed))
  | some handle =>
    match w.unsent site ctx handle with
    | some err => (w.tick, .error err)
    | none =>
      match site.respond handle.provider
          ((w.durable handle.provider ++ w.work handle.root).map Write.stmt) stmt with
      | .error err => (w.tick, .error err)
      | .ok result =>
        ({ w.tick with
          work := update w.work handle.root (w.work handle.root ++ [⟨some tx, stmt⟩]) },
          .ok result)

/-- A new transaction on a provider, unless its context is done or the provider refuses. -/
def poolBegin (site : Site Manager Provider Stmt Result) (ctx : TxContext) (p : Provider)
    (refusal : Option Err) (w : TxWorld Manager Provider Stmt) :
    TxWorld Manager Provider Stmt × Except Err Nat :=
  match ((ctx.err w.now).map (site.contextDone none)).or refusal with
  | some err => (w.tick, .error err)
  | none =>
    ({ w.tick with
      handles := update w.handles w.begun (some (TxHandle.begin p w.begun))
      work := update w.work w.begun []
      begun := w.begun + 1 }, .ok w.begun)

/-- A new savepoint inside a transaction, which remembers the writes made so far. -/
def txBegin (site : Site Manager Provider Stmt Result) (ctx : TxContext) (tx : Nat)
    (refusal : Option Err) (w : TxWorld Manager Provider Stmt) :
    TxWorld Manager Provider Stmt × Except Err Nat :=
  match w.handles tx with
  | none => (w.tick, .error (.new pgxErrTxClosed))
  | some handle =>
    match (w.unsent site ctx handle).or refusal with
    | some err => (w.tick, .error err)
    | none =>
      ({ w.tick with
        handles := update w.handles w.begun (some (handle.savepoint w.begun (w.work handle.root)))
        begun := w.begun + 1 }, .ok w.begun)

/-- A commit: a root makes its writes durable, and a savepoint leaves them to its parent. -/
def txCommit (site : Site Manager Provider Stmt Result) (ctx : TxContext) (tx : Nat)
    (w : TxWorld Manager Provider Stmt) : TxWorld Manager Provider Stmt × Option Err :=
  match w.handles tx with
  | none => (w.tick.emit (.idle tx), some (.new pgxErrTxClosed))
  | some handle =>
    if handle.closed then (w.tick.emit (.idle tx), some (.new pgxErrTxClosed))
    else
      -- The handle is closed even when the command was not sent.
      match w.unsent site ctx handle with
      | some err =>
        -- A root whose command was not sent loses its connection, and with it its writes.
        ((if handle.root = tx then { w.tick with work := update w.work tx [] }
          else w.tick).close tx handle, some err)
      | none =>
        ((if handle.root = tx then { w.tick with
            durable := update w.durable handle.provider
              (w.durable handle.provider ++ w.work tx)
            work := update w.work tx [] }
          else w.tick).close tx handle, none)

/-- A rollback: the writes since the handle was opened are undone, if the command is sent. -/
def pgxRollback (site : Site Manager Provider Stmt Result) (ctx : TxContext) (tx : Nat)
    (w : TxWorld Manager Provider Stmt) : TxWorld Manager Provider Stmt × Option Err :=
  match w.handles tx with
  | none => (w.tick.emit (.idle tx), some (.new pgxErrTxClosed))
  | some handle =>
    if handle.closed then (w.tick.emit (.idle tx), some (.new pgxErrTxClosed))
    else
      match w.unsent site ctx handle with
      | some err =>
        ((if handle.root = tx then { w.tick with work := update w.work tx [] }
          else w.tick).close tx handle, some err)
      | none =>
        ({ w.tick with work := update w.work handle.root handle.snapshot }.close tx handle, none)

/-- The framework's rollback names a closed transaction in its own words. -/
def txRollback (site : Site Manager Provider Stmt Result) (ctx : TxContext) (tx : Nat)
    (w : TxWorld Manager Provider Stmt) : TxWorld Manager Provider Stmt × Option Err :=
  let rolled := w.pgxRollback site ctx tx
  (rolled.1, rolled.2.map fun err => if err.is pgxErrTxClosed then .new errTxClosed else err)

end TxWorld

end Bootkit
