import Bootkit.Databasekit.Provider

/-! The transaction manager: statements and blocks resolved through the context. -/

namespace Bootkit

open Go

/--
A function of a context, as a tree of what it does and how it continues.

What the surroundings decide is part of the tree: when a derived context becomes done, what the
readiness gate of a provider says, and whether a provider refuses to begin.
-/
inductive Body (Manager Stmt Result : Type) where
  | ret (err : Option Err)
  | panic (value : String)
  -- A statement run through the querier that a manager finds on the context.
  | exec (m : Manager) (stmt : Stmt) (gate : Option Err)
      (next : Except Err Result → Body Manager Stmt Result)
  -- A block run under the context, or under one derived from it with a limit.
  | withTx (m : Manager) (limit : Option (Nat × Sentinel)) (gate refusal : Option Err)
      (fn : Body Manager Stmt Result) (next : Option Err → Body Manager Stmt Result)
  -- A function called with a deferred recover.
  | attempt (fn : Body Manager Stmt Result) (next : Exit → Body Manager Stmt Result)

/-- The active transaction of a context, if any. -/
def txFromContext (ctx : TxContext) : Option Nat :=
  ctx.value .txKey

/-- The error of a readiness gate. -/
def poolNotReady (err : Err) : Err := err.annotate "pool not ready"

/-- The error of a block whose body failed and whose rollback failed too. -/
def transactionFailed (fnErr rollbackErr : Err) : Err :=
  .wrap ("transaction failed: " ++ fnErr.text ++ ", rollback failed: " ++ rollbackErr.text)
    [fnErr, rollbackErr]

/-- The context handed to a block: the given one, or one derived from it. -/
def limited (ctx : TxContext) : Option (Nat × Sentinel) → TxContext
  | none => ctx
  | some (instant, cause) => ctx.withCancel instant cause

/-- What a manager hands out to run statements on. -/
inductive Querier (Provider : Type) where
  | tx (tx : Nat)
  -- The provider itself, behind its readiness gate when it has one.
  | provider (p : Provider)

section Manager

variable {Manager Provider Stmt Result : Type}

/-- The event of a manager that opened a handle. -/
def TxWorld.noteBegun (w : TxWorld Manager Provider Stmt) (m : Manager) (tx : Nat) :
    TxWorld Manager Provider Stmt :=
  match w.handles tx with
  | some handle => w.emit (.begun m handle.provider tx)
  | none => w

/-- The event of a manager that issued a statement to a handle. -/
def TxWorld.noteExecuted (w : TxWorld Manager Provider Stmt) (m : Manager) (tx : Nat)
    (stmt : Stmt) : TxWorld Manager Provider Stmt :=
  match w.handles tx with
  | some handle => w.emit (.executed m handle.provider (some tx) stmt)
  | none => w

variable [DecidableEq Provider]

/-- The active transaction if one is on the context, otherwise the manager's provider. -/
def querierFromContext (site : Site Manager Provider Stmt Result) (m : Manager)
    (ctx : TxContext) : Querier Provider :=
  match txFromContext ctx with
  -- The transaction was put there by whichever manager opened it.
  | some tx => .tx tx
  | none => .provider (site.provider m)

/-- A statement of a manager issued to a querier. -/
def Querier.exec (site : Site Manager Provider Stmt Result) (m : Manager) (stmt : Stmt)
    (gate : Option Err) (ctx : TxContext) (w : TxWorld Manager Provider Stmt) :
    Querier Provider → TxWorld Manager Provider Stmt × Except Err Result
  | .tx active => (w.noteExecuted m active stmt).txExec site ctx active stmt
  | .provider p =>
    match gate with
    | some err => (w, .error (poolNotReady err))
    | none => (w.emit (.executed m p none stmt)).poolExec site ctx p stmt

/-- The beginning of a block: a savepoint when a transaction is active, and else a transaction. -/
def beginBlock (site : Site Manager Provider Stmt Result) (m : Manager)
    (gate refusal : Option Err) (ctx : TxContext) (w : TxWorld Manager Provider Stmt) :
    TxWorld Manager Provider Stmt × Except Err Nat :=
  match txFromContext ctx with
  | some existing =>
    match w.txBegin site ctx existing refusal with
    | (begun, .ok tx) => (begun.noteBegun m tx, .ok tx)
    | (begun, .error err) =>
      (begun, .error (err.annotate "failed to begin nested transaction (savepoint)"))
  | none =>
    match gate with
    | some err => (w, .error (poolNotReady err))
    | none =>
      match w.poolBegin site ctx (site.provider m) refusal with
      | (begun, .ok tx) => (begun.noteBegun m tx, .ok tx)
      | (begun, .error err) => (begun, .error (err.annotate "failed to begin transaction"))

/-- What a block does once its body has ended, before the deferred rollback. -/
def settle (site : Site Manager Provider Stmt Result) (ctx : TxContext) (tx : Nat) (exit : Exit)
    (w : TxWorld Manager Provider Stmt) : TxWorld Manager Provider Stmt × Exit :=
  match exit with
  -- A panic goes straight to the deferred rollback.
  | .panicked value => (w, .panicked value)
  | .returned (some fnErr) =>
    let rolled := w.txRollback site ctx tx
    match rolled.2 with
    | some err =>
      if err.is errTxClosed then (rolled.1, .returned (some fnErr))
      else (rolled.1, .returned (some (transactionFailed fnErr err)))
    | none => (rolled.1, .returned (some fnErr))
  | .returned none =>
    let committed := w.txCommit site ctx tx
    (committed.1,
      .returned (committed.2.map fun err => err.annotate "failed to commit transaction"))

/-- A block: begin, run the body with the transaction on its context, settle, roll back anyway. -/
def withTx (site : Site Manager Provider Stmt Result) (m : Manager) (gate refusal : Option Err)
    (ctx : TxContext)
    (fn : TxContext → TxWorld Manager Provider Stmt → TxWorld Manager Provider Stmt × Exit)
    (w : TxWorld Manager Provider Stmt) : TxWorld Manager Provider Stmt × Exit :=
  match beginBlock site m gate refusal ctx w with
  | (begun, .error err) =>
    (begun.emit (.exited none (.returned (some err))), .returned (some err))
  | (begun, .ok tx) =>
    let ran := fn (ctx.withValue .txKey tx) begun
    let settled := settle site ctx tx ran.2 (ran.1.emit (.ended tx (ctx.err ran.1.now)))
    -- The deferred rollback runs on every way out.
    let cleaned := settled.1.txRollback site ctx tx
    (cleaned.1.emit (.exited (some tx) settled.2), settled.2)

/-- A function run under a context. -/
def runBody (site : Site Manager Provider Stmt Result) : Body Manager Stmt Result →
    TxContext → TxWorld Manager Provider Stmt → TxWorld Manager Provider Stmt × Exit
  | .ret err, _, w => (w, .returned err)
  | .panic value, _, w => (w, .panicked value)
  | .exec m stmt gate next, ctx, w =>
    let queried := (querierFromContext site m ctx).exec site m stmt gate ctx w
    runBody site (next queried.2) ctx queried.1
  | .withTx m limit gate refusal fn next, ctx, w =>
    let left := withTx site m gate refusal (limited ctx limit) (runBody site fn) w
    match left.2 with
    | .returned err => runBody site (next err) ctx left.1
    -- A panic leaves the enclosing function as well.
    | .panicked value => (left.1, .panicked value)
  | .attempt fn next, ctx, w =>
    let tried := runBody site fn ctx w
    runBody site (next tried.2) ctx tried.1

end Manager

/-- One manager over one database that accepts every statement. -/
def oneDatabase : Site Unit Unit String Unit where
  provider := id
  respond := fun _ _ _ => .ok ()
  contextDone := fun _ err => err.annotate "context already done"

end Bootkit
