import Bootkit.Databasekit.TxManager

/-! What a statement, the beginning of a block, and its end can do to the databases. -/

namespace Bootkit

open Go

section Moves

variable {Manager Provider Stmt Result : Type}

/-- The provider that a manager's work lands on under a context. -/
def hostOf (site : Site Manager Provider Stmt Result) (m : Manager) (ctx : TxContext)
    (w : TxWorld Manager Provider Stmt) : Option Provider :=
  match txFromContext ctx with
  | none => some (site.provider m)
  | some tx => (w.handles tx).map TxHandle.provider

/-- What running a statement can do. -/
inductive Queries [DecidableEq Provider] (site : Site Manager Provider Stmt Result) (m : Manager)
    (stmt : Stmt) (ctx : TxContext) (w : TxWorld Manager Provider Stmt) :
    TxWorld Manager Provider Stmt × Except Err Result → Prop
  -- The statement reaches no database.
  | unissued {later : Nat} {err : Err} :
    Queries site m stmt ctx w ({ w with now := later }, .error err)
  | failed {later : Nat} {err : Err} {p : Provider} (host : hostOf site m ctx w = some p) :
    Queries site m stmt ctx w ({ w with
      now := later
      trace := w.trace ++ [.executed m p (txFromContext ctx) stmt] }, .error err)
  | stored {later : Nat} {result : Result} (absent : txFromContext ctx = none) :
    Queries site m stmt ctx w ({ w with
      now := later
      durable := update w.durable (site.provider m)
        (w.durable (site.provider m) ++ [⟨none, stmt⟩])
      trace := w.trace ++ [.executed m (site.provider m) none stmt] }, .ok result)
  | written {later tx : Nat} {handle : TxHandle Provider Stmt} {result : Result}
      (active : txFromContext ctx = some tx) (found : w.handles tx = some handle) :
    Queries site m stmt ctx w ({ w with
      now := later
      work := update w.work handle.root (w.work handle.root ++ [⟨some tx, stmt⟩])
      trace := w.trace ++ [.executed m handle.provider (some tx) stmt] }, .ok result)

/-- Every statement does one of these. -/
theorem exec_queries [DecidableEq Provider] (site : Site Manager Provider Stmt Result) (m : Manager)
    (stmt : Stmt) (gate : Option Err) (ctx : TxContext) (w : TxWorld Manager Provider Stmt) :
    Queries site m stmt ctx w ((querierFromContext site m ctx).exec site m stmt gate ctx w) := by
  -- The querier is the active transaction, or else the provider behind its gate.
  cases active : txFromContext ctx with
  | none =>
    have host : hostOf site m ctx w = some (site.provider m) := by simp [hostOf, active]
    simp only [querierFromContext, active, Querier.exec]
    cases gate with
    | some err =>
      show Queries site m stmt ctx w ({ w with now := w.now }, _)
      exact .unissued
    | none =>
      simp only [TxWorld.poolExec]
      split
      · exact active ▸ Queries.failed host
      · split
        · exact active ▸ Queries.failed host
        · exact .stored active
  | some tx =>
    simp only [querierFromContext, active, Querier.exec, TxWorld.noteExecuted, TxWorld.txExec]
    cases found : w.handles tx with
    | none =>
      simp only [found]
      exact .unissued
    | some handle =>
      have host : hostOf site m ctx w = some handle.provider := by
        simp [hostOf, active, found]
      simp only [TxWorld.emit, found]
      split
      · exact active ▸ Queries.failed host
      · split
        · exact active ▸ Queries.failed host
        · exact .written active found

/-- What the beginning of a block can do. -/
inductive Begins (site : Site Manager Provider Stmt Result) (m : Manager) (ctx : TxContext)
    (w : TxWorld Manager Provider Stmt) :
    TxWorld Manager Provider Stmt × Except Err Nat → Prop
  | failed {later : Nat} {err : Err} :
    Begins site m ctx w ({ w with now := later }, .error err)
  | root {later : Nat} (absent : txFromContext ctx = none) :
    Begins site m ctx w ({ w with
      now := later
      handles := update w.handles w.begun (some (TxHandle.begin (site.provider m) w.begun))
      work := update w.work w.begun []
      begun := w.begun + 1
      trace := w.trace ++ [.begun m (site.provider m) w.begun] }, .ok w.begun)
  | savepoint {later existing : Nat} {handle : TxHandle Provider Stmt}
      (active : txFromContext ctx = some existing) (found : w.handles existing = some handle)
      (sent : w.unsent site ctx handle = none) :
    Begins site m ctx w ({ w with
      now := later
      handles := update w.handles w.begun (some (handle.savepoint w.begun (w.work handle.root)))
      begun := w.begun + 1
      trace := w.trace ++ [.begun m handle.provider w.begun] }, .ok w.begun)

/-- Every block begins in one of these ways. -/
theorem beginBlock_begins (site : Site Manager Provider Stmt Result) (m : Manager)
    (gate refusal : Option Err) (ctx : TxContext) (w : TxWorld Manager Provider Stmt) :
    Begins site m ctx w (beginBlock site m gate refusal ctx w) := by
  -- The context decides between a savepoint and a transaction; what is refused opens nothing.
  cases active : txFromContext ctx with
  | none =>
    simp only [beginBlock, active]
    cases gate with
    | some err =>
      show Begins site m ctx w ({ w with now := w.now }, _)
      exact .failed
    | none =>
      simp only [TxWorld.poolBegin]
      cases ((ctx.err w.now).map (site.contextDone none)).or refusal with
      | some err => exact .failed
      | none =>
        simp only [TxWorld.noteBegun, TxWorld.emit, update_self]
        exact .root active
  | some existing =>
    simp only [beginBlock, active, TxWorld.txBegin]
    cases found : w.handles existing with
    | none => exact .failed
    | some handle =>
      simp only
      cases sent : w.unsent site ctx handle with
      | some err => exact .failed
      | none =>
        cases refusal with
        | some err => exact .failed
        | none =>
          simp only [Option.or_none, TxWorld.noteBegun, TxWorld.emit, update_self]
          exact .savepoint active found sent

/-- What the cleanup of a block sends after its body, in the order in which it is seen. -/
def closingEvents (tx : Nat) : Exit → List (TxEvent Manager Provider Stmt)
  -- After a panic only the deferred rollback runs, and it finds the handle open.
  | .panicked _ => [.closed tx]
  | .returned _ => [.closed tx, .idle tx]

/-- What the end of a block can do, from the end of its body to the deferred rollback. -/
inductive Closes [DecidableEq Provider] (site : Site Manager Provider Stmt Result)
    (ctx : TxContext) (tx : Nat) (handle : TxHandle Provider Stmt)
    (w : TxWorld Manager Provider Stmt) : Exit → TxWorld Manager Provider Stmt × Exit → Prop
  -- A commit that was sent makes the writes of a root durable.
  | committed {later : Nat} (sent : w.unsent site ctx handle = none) (top : handle.root = tx) :
    Closes site ctx tx handle w (.returned none) ({ w with
      now := later
      durable := update w.durable handle.provider (w.durable handle.provider ++ w.work tx)
      work := update w.work tx []
      handles := update w.handles tx (some handle.close)
      trace := w.trace ++ [.closed tx, .idle tx] }, .returned none)
  -- The commit of a savepoint leaves its writes where they are.
  | released {later : Nat} (sent : w.unsent site ctx handle = none) (inner : handle.root ≠ tx) :
    Closes site ctx tx handle w (.returned none) ({ w with
      now := later
      handles := update w.handles tx (some handle.close)
      trace := w.trace ++ [.closed tx, .idle tx] }, .returned none)
  -- A rollback that was sent takes the connection back to where the handle was opened.
  | undone {later : Nat} {exit : Exit} (sent : w.unsent site ctx handle = none)
      (failed : exit ≠ .returned none) :
    Closes site ctx tx handle w exit ({ w with
      now := later
      work := update w.work handle.root handle.snapshot
      handles := update w.handles tx (some handle.close)
      trace := w.trace ++ closingEvents tx exit }, exit)
  -- A root whose last command was not sent is lost.
  | dropped {later : Nat} {exit left : Exit} {err : Err}
      (unsent : w.unsent site ctx handle = some err)
      (top : handle.root = tx) (failed : left ≠ .returned none) :
    Closes site ctx tx handle w exit ({ w with
      now := later
      work := update w.work tx []
      handles := update w.handles tx (some handle.close)
      trace := w.trace ++ closingEvents tx exit }, left)
  -- A savepoint whose last command was not sent is closed, and its writes stay.
  | leaked {later : Nat} {exit left : Exit} {err : Err}
      (unsent : w.unsent site ctx handle = some err)
      (inner : handle.root ≠ tx) (failed : left ≠ .returned none) :
    Closes site ctx tx handle w exit ({ w with
      now := later
      handles := update w.handles tx (some handle.close)
      trace := w.trace ++ closingEvents tx exit }, left)

/-- A rollback after the command that closed the handle is seen, and does nothing. -/
theorem txRollback_closed (site : Site Manager Provider Stmt Result) (ctx : TxContext) (tx : Nat)
    (handle : TxHandle Provider Stmt) (w : TxWorld Manager Provider Stmt) :
    ((w.close tx handle).txRollback site ctx tx).1 = { w with
      now := w.now + 1
      handles := update w.handles tx (some handle.close)
      trace := w.trace ++ [.closed tx, .idle tx] } := by
  -- A handle that is closed stays so, and the deferred rollback only finds it closed.
  simp [TxWorld.txRollback, TxWorld.pgxRollback, TxWorld.close, TxHandle.close, TxWorld.tick,
    TxWorld.emit]

/-- A block whose handle is still open at the end of its body closes it in one of these ways. -/
theorem settle_closes [DecidableEq Provider] {site : Site Manager Provider Stmt Result}
    {ctx : TxContext} {tx : Nat} {handle : TxHandle Provider Stmt}
    {w : TxWorld Manager Provider Stmt} (exit : Exit)
    (found : w.handles tx = some handle) (opened : handle.closed = false) :
    Closes site ctx tx handle w exit
      (((settle site ctx tx exit w).1.txRollback site ctx tx).1,
        (settle site ctx tx exit w).2) := by
  -- The first command closes the handle whether or not it was sent; a second one is idle.
  cases exit with
  | panicked value =>
    simp only [settle, TxWorld.txRollback, TxWorld.pgxRollback, found, opened]
    cases sent : w.unsent site ctx handle with
    | none => exact .undone sent (by simp)
    | some err =>
      by_cases top : handle.root = tx
      · simp only [if_pos top]
        exact .dropped sent top (by simp)
      · simp only [if_neg top]
        exact .leaked sent top (by simp)
  | returned err =>
    cases err with
    | none =>
      simp only [settle, TxWorld.txCommit, found, opened]
      cases sent : w.unsent site ctx handle with
      | none =>
        by_cases top : handle.root = tx
        · simp only [if_pos top, Bool.false_eq_true, if_false, txRollback_closed]
          exact .committed sent top
        · simp only [if_neg top, Bool.false_eq_true, if_false, txRollback_closed]
          exact .released sent top
      | some err =>
        by_cases top : handle.root = tx
        · simp only [if_pos top, Bool.false_eq_true, if_false, txRollback_closed]
          exact .dropped sent top (by simp)
        · simp only [if_neg top, Bool.false_eq_true, if_false, txRollback_closed]
          exact .leaked sent top (by simp)
    | some fnErr =>
      -- Both ways of reporting the failure name an error.
      have reported : (settle site ctx tx (.returned (some fnErr)) w).2 ≠ .returned none := by
        simp only [settle]
        split
        · split <;> simp
        · simp
      have rolled : (settle site ctx tx (.returned (some fnErr)) w).1 =
          (w.pgxRollback site ctx tx).1 := by
        simp only [settle, TxWorld.txRollback]
        split
        · split <;> rfl
        · rfl
      rw [rolled]
      cases sent : w.unsent site ctx handle with
      | none =>
        have kept : (settle site ctx tx (.returned (some fnErr)) w).2 = .returned (some fnErr) := by
          simp [settle, TxWorld.txRollback, TxWorld.pgxRollback, found, opened, sent]
        rw [kept]
        simp only [TxWorld.pgxRollback, found, opened, sent, Bool.false_eq_true, if_false,
          txRollback_closed]
        exact .undone sent (by simp)
      | some err =>
        simp only [TxWorld.pgxRollback, found, opened, sent, Bool.false_eq_true, if_false,
          txRollback_closed]
        by_cases top : handle.root = tx
        · simp only [if_pos top]
          exact .dropped sent top reported
        · simp only [if_neg top]
          exact .leaked sent top reported

/-- A block that does not begin returns the error of its beginning. -/
theorem withTx_refused [DecidableEq Provider] {site : Site Manager Provider Stmt Result}
    {m : Manager} {gate refusal : Option Err} {ctx : TxContext}
    {fn : TxContext → TxWorld Manager Provider Stmt → TxWorld Manager Provider Stmt × Exit}
    {w begun : TxWorld Manager Provider Stmt} {err : Err}
    (refused : beginBlock site m gate refusal ctx w = (begun, .error err)) :
    withTx site m gate refusal ctx fn w =
      (begun.emit (.exited none (.returned (some err))), .returned (some err)) := by
  simp only [withTx, refused]

/-- A block that begins runs its body and closes its handle, if the body left it open. -/
theorem withTx_begun [DecidableEq Provider] {site : Site Manager Provider Stmt Result}
    {m : Manager} {gate refusal : Option Err} {ctx : TxContext}
    {fn : TxContext → TxWorld Manager Provider Stmt → TxWorld Manager Provider Stmt × Exit}
    {w begun ran : TxWorld Manager Provider Stmt} {tx : Nat} {exit : Exit}
    {handle : TxHandle Provider Stmt}
    (began : beginBlock site m gate refusal ctx w = (begun, .ok tx))
    (body : fn (ctx.withValue .txKey tx) begun = (ran, exit))
    (found : ran.handles tx = some handle) (opened : handle.closed = false) :
    ∃ last, Closes site ctx tx handle (ran.emit (.ended tx (ctx.err ran.now))) exit last ∧
      withTx site m gate refusal ctx fn w =
        (last.1.emit (.exited (some tx) last.2), last.2) := by
  -- The block after its body is the settlement of an open handle.
  refine ⟨_, settle_closes exit found opened, ?_⟩
  simp only [withTx, began, body]

end Moves

end Bootkit
