import Bootkit.Databasekit.TxStack

/-! Nested transactions as they are meant, and the manager's blocks as an implementation of them. -/

namespace Bootkit

open Go

/-- What a function did, in order: the statements that took effect, and the blocks it left. -/
inductive Deeds (Stmt : Type) where
  | done
  | wrote (stmt : Stmt) (rest : Deeds Stmt)
  -- A block that never began has nothing inside.
  | block (exit : Exit) (inside rest : Deeds Stmt)
  deriving Repr, DecidableEq

namespace Deeds

variable {Stmt : Type}

/-- One series of deeds after another. -/
def append : Deeds Stmt → Deeds Stmt → Deeds Stmt
  | .done, more => more
  | .wrote stmt rest, more => .wrote stmt (rest.append more)
  | .block exit inside rest, more => .block exit inside (rest.append more)

/-- The statements that survive: those whose blocks all returned nil. -/
def survivors : Deeds Stmt → List Stmt
  | .done => []
  | .wrote stmt rest => stmt :: rest.survivors
  | .block exit inside rest =>
    (if exit = .returned none then inside.survivors else []) ++ rest.survivors

/-- How every block was left, in the order in which they were left. -/
def outcomes : Deeds Stmt → List Exit
  | .done => []
  | .wrote _ rest => rest.outcomes
  | .block exit inside rest => inside.outcomes ++ exit :: rest.outcomes

/-- The survivors of two series are the survivors of each. -/
@[simp] theorem survivors_append (first second : Deeds Stmt) :
    (first.append second).survivors = first.survivors ++ second.survivors := by
  -- Only the rest of each deed grows.
  induction first with
  | done => rfl
  | wrote stmt rest ih => simp [append, survivors, ih]
  | block exit inside rest _ ih => simp [append, survivors, ih]

/-- The blocks of two series are left one series after the other. -/
@[simp] theorem outcomes_append (first second : Deeds Stmt) :
    (first.append second).outcomes = first.outcomes ++ second.outcomes := by
  -- As for the survivors, only the rest of each deed grows.
  induction first with
  | done => rfl
  | wrote stmt rest ih => simp [append, outcomes, ih]
  | block exit inside rest _ ih => simp [append, outcomes, ih]

end Deeds

section Reference

variable {Manager Provider Stmt Result : Type}

/-- Why a block does not begin, if it does not: only the outermost one waits for readiness. -/
def refusedBlock (nested : Bool) (gate refusal : Option Err) : Option Err :=
  if nested then
    refusal.map fun err => err.annotate "failed to begin nested transaction (savepoint)"
  else match gate with
    | some err => some (poolNotReady err)
    | none => refusal.map fun err => err.annotate "failed to begin transaction"

/-- The answer to a statement, given the statements whose effects it can see. -/
def answer (site : Site Manager Provider Stmt Result) (p : Provider) (nested : Bool)
    (gate : Option Err) (view : List Stmt) (stmt : Stmt) : Except Err Result :=
  if nested then site.respond p view stmt
  else match gate with
    | some err => .error (poolNotReady err)
    | none => site.respond p view stmt

/--
The reference meaning of a program over one provider.

Blocks only matter for what they keep: a statement sees what was there before the program and
what has survived of the program so far.
-/
def reference (site : Site Manager Provider Stmt Result) (p : Provider) :
    Body Manager Stmt Result → Bool → List Stmt → Deeds Stmt × Exit
  | .ret err, _, _ => (.done, .returned err)
  | .panic value, _, _ => (.done, .panicked value)
  | .exec _ stmt gate next, nested, view =>
    match answer site p nested gate view stmt with
    | .error err => reference site p (next (.error err)) nested view
    | .ok result =>
      let rest := reference site p (next (.ok result)) nested (view ++ [stmt])
      (.wrote stmt rest.1, rest.2)
  | .withTx _ _ gate refusal fn next, nested, view =>
    match refusedBlock nested gate refusal with
    | some err =>
      let rest := reference site p (next (some err)) nested view
      (.block (.returned (some err)) .done rest.1, rest.2)
    | none =>
      let inside := reference site p fn true view
      match inside.2 with
      | .returned err =>
        let rest := reference site p (next err) nested
          (view ++ (Deeds.block (.returned err) inside.1 .done).survivors)
        (.block (.returned err) inside.1 rest.1, rest.2)
      -- A panic goes through the enclosing function as well.
      | .panicked value => (.block (.panicked value) inside.1 .done, .panicked value)
  | .attempt fn next, nested, view =>
    let tried := reference site p fn nested view
    let rest := reference site p (next tried.2) nested (view ++ tried.1.survivors)
    (tried.1.append rest.1, rest.2)

/-- No block of the program derives a context that may become done. -/
def Body.Steady : Body Manager Stmt Result → Prop
  | .ret _ | .panic _ => True
  | .exec _ _ _ next => ∀ result, (next result).Steady
  | .withTx _ limit _ _ fn next => limit = none ∧ fn.Steady ∧ ∀ err, (next err).Steady
  | .attempt fn next => fn.Steady ∧ ∀ exit, (next exit).Steady

/-- The uncommitted writes of the active transaction's connection. -/
def activeWork (ctx : TxContext) (w : TxWorld Manager Provider Stmt) : List (Write Stmt) :=
  match (txFromContext ctx).bind w.handles with
  | some handle => w.work handle.root
  | none => []

/-- The statements whose effects a statement under the given context can see. -/
def visible (p : Provider) (ctx : TxContext) (w : TxWorld Manager Provider Stmt) : List Stmt :=
  (w.durable p ++ activeWork ctx w).map Write.stmt

/-- How a block was left, if the event says so. -/
def leftWith : TxEvent Manager Provider Stmt → Option Exit
  | .exited _ exit => some exit
  | .begun _ _ _ | .executed _ _ _ _ | .ended _ _ | .closed _ | .idle _ => none

/-- The cleanup of a block leaves no block. -/
theorem leftWith_closingEvents (tx : Nat) (exit : Exit) :
    (closingEvents tx exit : List (TxEvent Manager Provider Stmt)).filterMap leftWith = [] := by
  cases exit <;> rfl

end Reference

section Agreement

variable {Manager Provider Stmt Result : Type} {site : Site Manager Provider Stmt Result}
  {p : Provider} {ctx : TxContext} {w : TxWorld Manager Provider Stmt}
  {stack : List (OpenBlock Manager)}

/-- A run agrees with the reference: same visible effects, same way out, same results of blocks. -/
structure Agrees (p : Provider) (ctx : TxContext) (w : TxWorld Manager Provider Stmt)
    (ran : TxWorld Manager Provider Stmt × Exit) (meant : Deeds Stmt × Exit) : Prop where
  seen : visible p ctx ran.1 = visible p ctx w ++ meant.1.survivors
  exit : ran.2 = meant.2
  left : ran.1.trace.filterMap leftWith = w.trace.filterMap leftWith ++ meant.1.outcomes

/-- A part that agrees, after deeds that were done as meant, makes a whole that agrees. -/
theorem Agrees.after {middle : TxWorld Manager Provider Stmt}
    {ran : TxWorld Manager Provider Stmt × Exit} {meant : Deeds Stmt × Exit}
    (agrees : Agrees p ctx middle ran meant) (first : Deeds Stmt)
    (seen : visible p ctx middle = visible p ctx w ++ first.survivors)
    (left : middle.trace.filterMap leftWith = w.trace.filterMap leftWith ++ first.outcomes) :
    Agrees p ctx w ran (first.append meant.1, meant.2) where
  -- What the first deeds left is what the rest has started from.
  seen := by rw [agrees.seen, seen, Deeds.survivors_append, List.append_assoc]
  exit := agrees.exit
  left := by rw [agrees.left, left, Deeds.outcomes_append, List.append_assoc]

/-- Outside any transaction only what is durable is visible. -/
theorem visible_outside (absent : txFromContext ctx = none) :
    visible p ctx w = (w.durable p).map Write.stmt := by
  simp [visible, activeWork, absent]

/-- Inside a transaction the writes of its connection are visible as well. -/
theorem visible_inside {tx : Nat} {handle : TxHandle Provider Stmt}
    (active : txFromContext ctx = some tx) (found : w.handles tx = some handle) :
    visible p ctx w = (w.durable p ++ w.work handle.root).map Write.stmt := by
  simp [visible, activeWork, active, found]

/-- Every handle of a program over one provider is on that provider. -/
theorem Encloses.single {tx : Nat} {handle : TxHandle Provider Stmt}
    (encloses : Encloses site ctx w stack) (single : ∀ m, site.provider m = p)
    (active : txFromContext ctx = some tx) (found : w.handles tx = some handle) :
    handle.provider = p := by
  -- The outermost block was opened by some manager, and all of them share the provider.
  obtain ⟨same, base, held, -, -, provider, -⟩ := encloses.based tx active
  obtain rfl : handle = same := Option.some.inj (found.symm.trans held)
  rw [provider, single]

/-- Under a live context a block begins unless the reference says why it does not. -/
theorem beginBlock_agrees (m : Manager) (gate refusal : Option Err)
    (encloses : Encloses site ctx w stack) (live : ∀ now, ctx.err now = none) :
    match refusedBlock (txFromContext ctx).isSome gate refusal with
    | some err => ∃ later, beginBlock site m gate refusal ctx w =
        ({ w with now := later }, .error err)
    | none => ∃ begun tx, beginBlock site m gate refusal ctx w = (begun, .ok tx) := by
  -- Under a live context only the gate and the provider can refuse.
  cases active : txFromContext ctx with
  | none =>
    simp only [beginBlock, active, refusedBlock, Option.isSome_none, Bool.false_eq_true, if_false]
    cases gate with
    | some err => exact ⟨w.now, rfl⟩
    | none =>
      simp only [TxWorld.poolBegin, live, Option.map_none, Option.none_or]
      cases refusal with
      | some err => exact ⟨w.now + 1, rfl⟩
      | none => exact ⟨_, _, rfl⟩
  | some tx =>
    obtain ⟨handle, base, found, chained, -⟩ := encloses.based tx active
    have sent : w.unsent site ctx handle = none := by
      rw [encloses.unsent chained ctx, live, Option.map_none]
    simp only [beginBlock, active, refusedBlock, Option.isSome_some, if_true, TxWorld.txBegin,
      found, sent, Option.none_or]
    cases refusal with
    | some err => exact ⟨w.now + 1, rfl⟩
    | none => exact ⟨_, _, rfl⟩

/-- The body of a block sees what its surroundings see. -/
theorem visible_begin {m : Manager} {begun : TxWorld Manager Provider Stmt}
    (begins : Begins site m ctx w (begun, .ok w.begun)) :
    visible p (ctx.withValue .txKey w.begun) begun = visible p ctx w := by
  obtain ⟨handle, -, handles, -⟩ := begins.opens
  have found : begun.handles w.begun = some handle := by rw [handles, update_self]
  rw [visible_inside rfl found, begins.durable]
  cases active : txFromContext ctx with
  | none =>
    -- A transaction has written nothing yet.
    obtain ⟨rfl, unwritten⟩ := begins.top active found
    have unwritten : begun.work (TxHandle.begin (site.provider m) w.begun :
        TxHandle Provider Stmt).root = [] := unwritten
    rw [visible_outside active, unwritten, List.append_nil]
  | some existing =>
    -- A savepoint shares the connection of the transaction around it.
    obtain ⟨outer, held, rfl, work⟩ := begins.nested active found
    rw [visible_inside active held, work]
    rfl

variable [DecidableEq Provider]

/-- Under a live context a statement is answered, and takes effect, as in the reference. -/
theorem exec_agrees (m : Manager) (stmt : Stmt) (gate : Option Err)
    (encloses : Encloses site ctx w stack) (single : ∀ m, site.provider m = p)
    (live : ∀ now, ctx.err now = none)
    {queried : TxWorld Manager Provider Stmt × Except Err Result}
    (ran : (querierFromContext site m ctx).exec site m stmt gate ctx w = queried) :
    queried.2 = answer site p (txFromContext ctx).isSome gate (visible p ctx w) stmt ∧
      visible p ctx queried.1 = visible p ctx w ++
        (match queried.2 with | .ok _ => [stmt] | .error _ => []) ∧
      queried.1.trace.filterMap leftWith = w.trace.filterMap leftWith := by
  subst ran
  cases active : txFromContext ctx with
  | none =>
    rw [visible_outside active, visible_outside active]
    simp only [querierFromContext, active, Querier.exec, single, answer, Option.isSome_none,
      Bool.false_eq_true, if_false]
    cases gate with
    | some err => simp
    | none =>
      -- The provider sees what is durable, and makes the statement durable at once.
      simp only [TxWorld.poolExec, live, TxWorld.emit]
      cases response : site.respond p ((w.durable p).map Write.stmt) stmt with
      | error err => simp [TxWorld.tick, leftWith]
      | ok result => simp [TxWorld.tick, leftWith]
  | some tx =>
    obtain ⟨handle, base, found, chained, -⟩ := encloses.based tx active
    have provider := encloses.single single active found
    have sent : w.unsent site ctx handle = none := by
      rw [encloses.unsent chained ctx, live, Option.map_none]
    rw [visible_inside active found]
    simp only [querierFromContext, active, Querier.exec, TxWorld.noteExecuted, found,
      TxWorld.txExec, TxWorld.emit, answer, Option.isSome_some, if_true, provider]
    -- The event just recorded does not change which handles are open.
    have sent : TxWorld.unsent { w with trace := w.trace ++ [.executed m p (some tx) stmt] } site
        ctx handle = none := sent
    rw [sent]
    cases response : site.respond p ((w.durable p ++ w.work handle.root).map Write.stmt) stmt with
    | error err => simp [TxWorld.tick, leftWith, visible, activeWork, active, found]
    | ok result => simp [TxWorld.tick, leftWith, visible, activeWork, active, found]

/--
Under a live context a block keeps what its body did when it returned nil, and else nothing.

It is left as its body was.
-/
theorem closes_agrees {m : Manager} {begun ran : TxWorld Manager Provider Stmt}
    {handle : TxHandle Provider Stmt} {exit : Exit} {err : Option Err}
    {last : TxWorld Manager Provider Stmt × Exit} (encloses : Encloses site ctx w stack)
    (single : ∀ m, site.provider m = p) (live : ∀ now, ctx.err now = none)
    (begins : Begins site m ctx w (begun, .ok w.begun))
    (found : begun.handles w.begun = some handle) (framed : Framed begun ran)
    (held : ran.durable = begun.durable)
    (closes : Closes site ctx w.begun handle (ran.emit (.ended w.begun err)) exit last) :
    last.2 = exit ∧ visible p ctx (last.1.emit (.exited (some w.begun) last.2)) =
      if exit = .returned none then visible p (ctx.withValue .txKey w.begun) ran
      else visible p ctx w := by
  have whole := Closes.framed begins framed closes
  have sent : (ran.emit (.ended w.begun err)).unsent site ctx handle = none :=
    (begins.unsent encloses found framed).trans (by rw [live, Option.map_none])
  have durable : ran.durable = w.durable := held.trans begins.durable
  have inside : visible p (ctx.withValue .txKey w.begun) ran =
      (ran.durable p ++ ran.work handle.root).map Write.stmt := by
    obtain ⟨-, -, -, counted, -⟩ := begins.opens
    exact visible_inside rfl ((framed.handles w.begun (by omega)).trans found)
  cases active : txFromContext ctx with
  | none =>
    obtain ⟨rfl, -⟩ := begins.top active found
    rw [visible_outside active, visible_outside active]
    cases closes with
    | committed _ top =>
      refine ⟨rfl, ?_⟩
      rw [if_pos rfl, inside]
      simp [TxWorld.emit, TxHandle.begin, single]
    | released _ inner => exact absurd rfl inner
    | undone _ failed =>
      refine ⟨rfl, ?_⟩
      rw [if_neg failed, ← durable]
      rfl
    | dropped unsent _ _ => simp [sent] at unsent
    | leaked unsent _ _ => simp [sent] at unsent
  | some existing =>
    have older := begins.root_lt encloses found (by simp [active])
    obtain ⟨outer, around, rfl, -⟩ := begins.nested active found
    have still := (whole.handles existing (encloses.active_lt active)).trans around
    rw [visible_inside active still, visible_inside active around]
    cases closes with
    | committed _ top => omega
    | released _ inner =>
      refine ⟨rfl, ?_⟩
      rw [if_pos rfl, inside]
      rfl
    | undone _ failed =>
      -- The connection is back where the block began.
      refine ⟨rfl, ?_⟩
      rw [if_neg failed, ← durable]
      simp [TxWorld.emit, TxHandle.savepoint]
    | dropped unsent _ _ => simp [sent] at unsent
    | leaked unsent _ _ => simp [sent] at unsent

/-- A block that begins under a live context does what the reference means. -/
theorem withTx_agrees {m : Manager} {gate refusal : Option Err}
    {fn : Body Manager Stmt Result} {begun : TxWorld Manager Provider Stmt} {tx : Nat}
    (encloses : Encloses site ctx w stack) (single : ∀ m, site.provider m = p)
    (live : ∀ now, ctx.err now = none)
    (began : beginBlock site m gate refusal ctx w = (begun, .ok tx))
    (body : ∀ {inner start blocks}, (∀ now, inner.err now = none) →
      Encloses site inner start blocks → Agrees p inner start (runBody site fn inner start)
        (reference site p fn (txFromContext inner).isSome (visible p inner start))) :
    Agrees p ctx w (withTx site m gate refusal ctx (runBody site fn) w)
      (.block (reference site p fn true (visible p ctx w)).2
        (reference site p fn true (visible p ctx w)).1 .done,
        (reference site p fn true (visible p ctx w)).2) := by
  have framed : Framed begun (runBody site fn (ctx.withValue .txKey w.begun) begun).1 :=
    runBody_framed fn _ begun
  rcases ran : runBody site fn (ctx.withValue .txKey w.begun) begun with ⟨after, exit⟩
  rw [ran] at framed
  obtain ⟨handle, last, begins, found, closes, block⟩ := withTx_closes began ran framed
  have inside := encloses.begin begins
  have held : after.durable = begun.durable := by
    have durable := runBody_durable fn inside (by simp)
    rwa [ran] at durable
  have liveInside : ∀ now, (ctx.withValue .txKey w.begun).err now = none := live
  have meant := body liveInside inside
  rw [ran, visible_begin begins] at meant
  obtain ⟨returned, seen⟩ := closes_agrees encloses single live begins found framed held closes
  obtain ⟨opened, -, -, -, tracedBegun⟩ := begins.opens
  obtain ⟨-, -, tracedLast⟩ := closes.closes
  have exited : exit = (reference site p fn true (visible p ctx w)).2 := meant.exit
  rw [block]
  refine ⟨?_, returned.trans exited, ?_⟩
  · -- The survivors of the block are those of its body, or none.
    show visible p ctx (last.1.emit _) = _
    rw [seen, meant.seen, visible_begin begins, exited]
    simp only [Deeds.survivors, List.append_nil]
    split <;> simp
  · have inner : after.trace.filterMap leftWith = w.trace.filterMap leftWith ++
        (reference site p fn true (visible p ctx w)).1.outcomes := by
      have left := meant.left
      rw [tracedBegun] at left
      simpa [leftWith, List.filterMap_cons] using left
    show (last.1.trace ++ _).filterMap leftWith = _
    rw [tracedLast]
    simp [TxWorld.emit, inner, leftWith, List.filterMap_cons, leftWith_closingEvents, returned,
      exited, Deeds.outcomes]

/-- Under a live context every program does what the reference means. -/
theorem runBody_agrees (single : ∀ m, site.provider m = p) (body : Body Manager Stmt Result)
    (steady : body.Steady) (live : ∀ now, ctx.err now = none)
    (encloses : Encloses site ctx w stack) :
    Agrees p ctx w (runBody site body ctx w)
      (reference site p body (txFromContext ctx).isSome (visible p ctx w)) := by
  induction body generalizing ctx w stack with
  | ret err => exact ⟨by simp [runBody, reference, Deeds.survivors], rfl, by
      simp [runBody, reference, Deeds.outcomes]⟩
  | panic value => exact ⟨by simp [runBody, reference, Deeds.survivors], rfl, by
      simp [runBody, reference, Deeds.outcomes]⟩
  | exec m stmt gate next ih =>
    have framed := (exec_queries site m stmt gate ctx w).framed
    rcases ran : (querierFromContext site m ctx).exec site m stmt gate ctx w with ⟨middle, result⟩
    obtain ⟨answered, seen, left⟩ := exec_agrees m stmt gate encloses single live ran
    rw [ran] at framed
    have rest := ih result (steady result) live (encloses.framed framed)
    simp only [runBody, ran, reference, ← answered]
    rw [seen] at rest
    cases result with
    | error err =>
      -- A statement that failed leaves no deed.
      simp only [List.append_nil] at seen rest
      exact rest.after .done (by simp [seen, Deeds.survivors]) (by simp [left, Deeds.outcomes])
    | ok value =>
      exact rest.after (.wrote stmt .done) seen (by simp [left, Deeds.outcomes])
  | withTx m limit gate refusal fn next ihFn ihNext =>
    obtain ⟨rfl, steadyFn, steadyNext⟩ := steady
    have begins := beginBlock_agrees m gate refusal encloses live
    simp only [runBody, reference, limited]
    cases refused : refusedBlock (txFromContext ctx).isSome gate refusal with
    | some err =>
      simp only [refused] at begins
      obtain ⟨later, refusedAt⟩ := begins
      have rest := ihNext (some err) (steadyNext _) live
        (encloses.framed (refused_framed w later err))
      rw [withTx_refused refusedAt]
      exact rest.after (.block (.returned (some err)) .done .done)
        (List.append_nil _).symm (by simp [TxWorld.emit, leftWith, Deeds.outcomes])
    | none =>
      simp only [refused] at begins
      obtain ⟨begun, tx, began⟩ := begins
      have block := withTx_agrees encloses single live began (ihFn steadyFn)
      have framed : Framed w (withTx site m gate refusal ctx (runBody site fn) w).1 :=
        withTx_framed (fun inner start => runBody_framed fn inner start) m gate refusal ctx w
      rcases left : withTx site m gate refusal ctx (runBody site fn) w with ⟨middle, exit⟩
      rw [left] at block framed
      have same : exit = (reference site p fn true (visible p ctx w)).2 := block.exit
      simp only [← same] at block ⊢
      cases exit with
      | returned err =>
        have rest := ihNext err (steadyNext err) live (encloses.framed framed)
        rw [block.seen] at rest
        exact rest.after _ block.seen block.left
      | panicked value => exact ⟨block.seen, rfl, block.left⟩
  | attempt fn next ihFn ihNext =>
    have first := ihFn steady.1 live encloses
    have framed : Framed w (runBody site fn ctx w).1 := runBody_framed fn ctx w
    have rest := ihNext (runBody site fn ctx w).2 (steady.2 _) live (encloses.framed framed)
    rw [first.seen, first.exit] at rest
    simp only [runBody, reference, first.exit]
    exact rest.after _ first.seen first.left

/--
Blocks implement nested transactions, under a context that is never done.

What is durable afterwards, the way out and the results of all blocks are those of the reference.
Every handle is closed again, statements go to the innermost block, and blocks are closed
innermost first; no rollback that comes too late is one of a block that is still open.
-/
theorem withTx_nests (site : Site Manager Provider Stmt Result) (p : Provider)
    (single : ∀ m, site.provider m = p) (body : Body Manager Stmt Result) (steady : body.Steady)
    (ctx : TxContext) (live : ∀ now, ctx.err now = none) (outside : txFromContext ctx = none)
    (w : TxWorld Manager Provider Stmt) :
    ((runBody site body ctx w).1.durable p).map Write.stmt = (w.durable p).map Write.stmt ++
        (reference site p body false ((w.durable p).map Write.stmt)).1.survivors ∧
      (runBody site body ctx w).2 =
        (reference site p body false ((w.durable p).map Write.stmt)).2 ∧
      (∀ tx, w.begun ≤ tx → tx < (runBody site body ctx w).1.begun →
        (runBody site body ctx w).1.isOpen tx = false) ∧
      ∃ events, (runBody site body ctx w).1.trace = w.trace ++ events ∧
        events.filterMap leftWith =
          (reference site p body false ((w.durable p).map Write.stmt)).1.outcomes ∧
        (observer wellNested).run [] events = some [] := by
  -- The agreement gives the results, and the observer gives the order.
  have agrees := runBody_agrees single body steady live (.outside outside w)
  rw [outside, Option.isSome_none, visible_outside outside] at agrees
  obtain ⟨events, grown, accepted⟩ := runBody_observed body ctx w [] (.outside outside w)
  refine ⟨?_, agrees.exit, fun tx since opened => runBody_closed body ctx w since opened, events,
    grown, ?_, observer_weaken ?_ accepted⟩
  · have seen := agrees.seen
    rwa [visible_outside outside, visible_outside outside] at seen
  · have left := agrees.left
    rw [grown, List.filterMap_append] at left
    exact List.append_cancel_left left
  · intro blocks event passed
    exact (Bool.and_eq_true _ _ ▸ passed : _ ∧ _).1

end Agreement

/-- Blocks left in every way: by an ignored error, a recovered panic, a failed begin, and nil. -/
def mixedNesting : Body Unit String Unit :=
  .withTx () none none none
    (.exec () "first" none fun _ =>
      .withTx () none none none (.exec () "failed" none fun _ => .ret (some (.new canceled)))
        fun _ =>
      .attempt (.withTx () none none none (.exec () "lost" none fun _ => .panic "boom") .ret)
        fun _ =>
      .withTx () none none (some (.new deadlineExceeded)) (.exec () "never" none fun _ => .ret none)
        fun _ =>
      .withTx () none none none (.exec () "nested" none fun _ => .ret none) fun _ =>
      .exec () "last" none fun _ => .ret none) .ret

/-- In the mixed program only the statements of blocks that returned nil are durable. -/
theorem withTx_nests_mixed :
    (reference oneDatabase () mixedNesting false []).1.survivors = ["first", "nested", "last"] ∧
      (((runBody oneDatabase mixedNesting .background TxWorld.init).1.durable ()).map Write.stmt =
        (reference oneDatabase () mixedNesting false []).1.survivors ∧
      (runBody oneDatabase mixedNesting .background TxWorld.init).2 =
        (reference oneDatabase () mixedNesting false []).2 ∧
      (∀ tx, 0 ≤ tx → tx < (runBody oneDatabase mixedNesting .background TxWorld.init).1.begun →
        (runBody oneDatabase mixedNesting .background TxWorld.init).1.isOpen tx = false) ∧
      ∃ events, (runBody oneDatabase mixedNesting .background TxWorld.init).1.trace = [] ++ events ∧
        events.filterMap leftWith = (reference oneDatabase () mixedNesting false []).1.outcomes ∧
        (observer wellNested).run [] events = some []) :=
  ⟨by decide +kernel, withTx_nests oneDatabase () (fun _ => rfl) mixedNesting
    (by simp [mixedNesting, Body.Steady]) .background (fun _ => rfl) rfl TxWorld.init⟩

end Bootkit
