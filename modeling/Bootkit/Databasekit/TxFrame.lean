import Bootkit.Databasekit.TxMoves

/-! What a program cannot touch, and the rule by which properties of programs are proved. -/

namespace Bootkit

open Go

section Frame

variable {Manager Provider Stmt Result : Type}

/-- A derived context carries the transaction of the context it was derived from. -/
@[simp] theorem txFromContext_limited (ctx : TxContext) (limit : Option (Nat × Sentinel)) :
    txFromContext (limited ctx limit) = txFromContext ctx := by
  rcases limit with _ | ⟨instant, cause⟩ <;> rfl

/-- The context handed to a body carries the transaction of its block. -/
@[simp] theorem txFromContext_withValue (ctx : TxContext) (tx : Nat) :
    txFromContext (ctx.withValue .txKey tx) = some tx := rfl

/--
What any program leaves alone.

Handles that existed before are as they were, and only blocks begun since have been left.
-/
structure Framed (w later : TxWorld Manager Provider Stmt) : Prop where
  begun_le : w.begun ≤ later.begun
  handles : ∀ tx, tx < w.begun → later.handles tx = w.handles tx
  -- No handle is ever opened ahead of the counter.
  fresh : (∀ tx, w.begun ≤ tx → w.handles tx = none) →
    ∀ tx, later.begun ≤ tx → later.handles tx = none
  trace : ∃ events, later.trace = w.trace ++ events ∧
    ∀ tx exit, .exited (some tx) exit ∈ events → w.begun ≤ tx ∧ tx < later.begun

namespace Framed

variable {w middle later : TxWorld Manager Provider Stmt}

/-- What touches no handle and leaves no block is framed. -/
theorem extend {events : List (TxEvent Manager Provider Stmt)} (counted : later.begun = w.begun)
    (kept : later.handles = w.handles) (grown : later.trace = w.trace ++ events)
    (silent : ∀ tx exit, .exited (some tx) exit ∉ events) : Framed w later where
  -- Nothing is begun or closed, and no block is left.
  begun_le := by omega
  handles := fun tx _ => by rw [kept]
  fresh := fun unopened tx beyond => by
    rw [kept]
    exact unopened tx (by omega)
  trace := ⟨events, grown, fun tx exit left => absurd left (silent tx exit)⟩

/-- Doing nothing is framed. -/
theorem refl (w : TxWorld Manager Provider Stmt) : Framed w w :=
  extend rfl rfl (List.append_nil _).symm (by simp)

/-- One framed part after another is framed. -/
theorem trans (first : Framed w middle) (second : Framed middle later) : Framed w later where
  -- A handle from before the first part is older than the second one, too.
  begun_le := Nat.le_trans first.begun_le second.begun_le
  handles := by
    intro tx older
    have between := first.begun_le
    rw [second.handles tx (by omega), first.handles tx older]
  fresh := fun unopened => second.fresh (first.fresh unopened)
  trace := by
    obtain ⟨before, grownFirst, leftFirst⟩ := first.trace
    obtain ⟨after, grownSecond, leftSecond⟩ := second.trace
    have low := first.begun_le
    have high := second.begun_le
    refine ⟨before ++ after, by rw [grownSecond, grownFirst, List.append_assoc], ?_⟩
    intro tx exit left
    rcases List.mem_append.mp left with left | left
    · have := leftFirst tx exit left
      omega
    · have := leftSecond tx exit left
      omega

/-- An open handle that existed before is still open. -/
theorem isOpen (framed : Framed w later) {tx : Nat} (older : tx < w.begun) :
    later.isOpen tx = w.isOpen tx := by
  simp only [TxWorld.isOpen, framed.handles tx older]

end Framed

/-- A statement is framed. -/
theorem Queries.framed [DecidableEq Provider] {site : Site Manager Provider Stmt Result}
    {m : Manager} {stmt : Stmt} {ctx : TxContext} {w : TxWorld Manager Provider Stmt}
    {result : TxWorld Manager Provider Stmt × Except Err Result}
    (queries : Queries site m stmt ctx w result) : Framed w result.1 := by
  -- At most one event is added, and it leaves no block.
  cases queries with
  | unissued => exact .extend rfl rfl (List.append_nil _).symm (by simp)
  | failed host => exact .extend rfl rfl rfl (by simp)
  | stored absent => exact .extend rfl rfl rfl (by simp)
  | written active found => exact .extend rfl rfl rfl (by simp)

section Begins

variable {site : Site Manager Provider Stmt Result} {m : Manager} {ctx : TxContext}
  {w begun : TxWorld Manager Provider Stmt} {tx : Nat} {handle : TxHandle Provider Stmt}

/-- A block that begins is named by the counter. -/
theorem Begins.named (begins : Begins site m ctx w (begun, .ok tx)) : tx = w.begun := by
  -- Both ways of beginning take the number of the counter.
  cases begins with
  | root absent => rfl
  | savepoint active found sent => rfl

/-- A block that begins opens the next handle, and nothing else changes. -/
theorem Begins.opens (begins : Begins site m ctx w (begun, .ok tx)) :
    ∃ handle, handle.closed = false ∧
      begun.handles = update w.handles w.begun (some handle) ∧ begun.begun = w.begun + 1 ∧
      begun.trace = w.trace ++ [.begun m handle.provider w.begun] := by
  -- Root or savepoint, the new handle is open.
  cases begins with
  | root absent => exact ⟨_, rfl, rfl, rfl, rfl⟩
  | savepoint active found sent => exact ⟨_, rfl, rfl, rfl, rfl⟩

/-- A block that begins inside a transaction opens a savepoint of it. -/
theorem Begins.nested {existing : Nat} (begins : Begins site m ctx w (begun, .ok tx))
    (active : txFromContext ctx = some existing) (found : begun.handles w.begun = some handle) :
    ∃ outer, w.handles existing = some outer ∧
      handle = outer.savepoint w.begun (w.work outer.root) ∧ begun.work = w.work := by
  -- Inside a transaction the other way of beginning is not taken.
  cases begins with
  | root absent => simp [absent] at active
  | savepoint named held sent =>
    obtain rfl := Option.some.inj (named.symm.trans active)
    simp only [update_self, Option.some.injEq] at found
    exact ⟨_, held, found.symm, rfl⟩

/-- A block that begins outside any transaction opens one, on the provider of its manager. -/
theorem Begins.top (begins : Begins site m ctx w (begun, .ok tx))
    (absent : txFromContext ctx = none) (found : begun.handles w.begun = some handle) :
    handle = TxHandle.begin (site.provider m) w.begun ∧ begun.work w.begun = [] := by
  -- Outside a transaction there is no handle to open a savepoint in.
  cases begins with
  | root outside =>
    simp only [update_self, Option.some.injEq] at found
    exact ⟨found.symm, update_self _ _ _⟩
  | savepoint active held sent => simp [absent] at active

/-- Nothing becomes durable when a block begins. -/
theorem Begins.durable (begins : Begins site m ctx w (begun, .ok tx)) :
    begun.durable = w.durable := by
  -- Neither way writes to a database.
  cases begins with
  | root absent => rfl
  | savepoint active held sent => rfl

/-- The beginning of a block is framed. -/
theorem Begins.framed (begins : Begins site m ctx w (begun, .ok tx)) : Framed w begun := by
  -- The one handle that is written is the one at the counter.
  obtain ⟨opened, -, handles, counted, traced⟩ := begins.opens
  refine ⟨by omega, ?_, ?_, ⟨_, traced, by simp⟩⟩
  · intro older below
    rw [handles, update_other _ _ (by omega)]
  · intro unopened ahead beyond
    rw [handles, update_other _ _ (by omega)]
    exact unopened ahead (by omega)

end Begins

/-- The end of a block closes its handle, and no other handle changes. -/
theorem Closes.closes [DecidableEq Provider] {site : Site Manager Provider Stmt Result}
    {ctx : TxContext} {tx : Nat} {handle : TxHandle Provider Stmt}
    {w : TxWorld Manager Provider Stmt} {exit : Exit}
    {last : TxWorld Manager Provider Stmt × Exit} (closes : Closes site ctx tx handle w exit last) :
    last.1.handles = update w.handles tx (some handle.close) ∧ last.1.begun = w.begun ∧
      last.1.trace = w.trace ++ closingEvents tx exit := by
  -- The five ways differ in the writes only.
  cases closes with
  | committed sent top => exact ⟨rfl, rfl, rfl⟩
  | released sent inner => exact ⟨rfl, rfl, rfl⟩
  | undone sent failed => exact ⟨rfl, rfl, rfl⟩
  | dropped unsent top failed => exact ⟨rfl, rfl, rfl⟩
  | leaked unsent inner failed => exact ⟨rfl, rfl, rfl⟩

/-- The cleanup of a block leaves no block. -/
theorem exited_closingEvents (tx other : Nat) (exit left : Exit) :
    TxEvent.exited (some other) left ∉
      (closingEvents tx exit : List (TxEvent Manager Provider Stmt)) := by
  cases exit <;> simp [closingEvents]

/-- A block around a framed body is framed. -/
theorem Closes.framed [DecidableEq Provider] {site : Site Manager Provider Stmt Result}
    {m : Manager} {ctx : TxContext} {w begun ran : TxWorld Manager Provider Stmt} {exit : Exit}
    {handle : TxHandle Provider Stmt} {err : Option Err}
    {last : TxWorld Manager Provider Stmt × Exit}
    (begins : Begins site m ctx w (begun, .ok w.begun)) (body : Framed begun ran)
    (closes : Closes site ctx w.begun handle (ran.emit (.ended w.begun err)) exit last) :
    Framed w (last.1.emit (.exited (some w.begun) last.2)) := by
  obtain ⟨opened, -, -, counted, tracedBegun⟩ := begins.opens
  obtain ⟨handlesLast, countedLast, tracedLast⟩ := closes.closes
  obtain ⟨inside, tracedBody, leftBody⟩ := body.trace
  have both := begins.framed.trans body
  have grown := body.begun_le
  -- The counter has moved on by the block itself and by what its body began.
  have ended : (last.1.emit (.exited (some w.begun) last.2)).begun = ran.begun := countedLast
  refine ⟨by omega, ?_, ?_, ?_⟩
  · intro tx older
    show last.1.handles tx = w.handles tx
    rw [handlesLast, update_other _ _ (by omega)]
    exact both.handles tx older
  · intro unopened tx beyond
    show last.1.handles tx = none
    rw [handlesLast, update_other _ _ (by omega)]
    exact both.fresh unopened tx (by omega)
  · refine ⟨.begun m opened.provider w.begun :: inside ++ .ended w.begun err ::
      (closingEvents w.begun exit ++ [.exited (some w.begun) last.2]), ?_, ?_⟩
    · show last.1.trace ++ _ = _
      rw [tracedLast]
      simp [TxWorld.emit, tracedBody, tracedBegun]
    · intro tx left member
      simp only [List.cons_append, List.mem_cons, List.mem_append, reduceCtorEq, false_or,
        exited_closingEvents, List.not_mem_nil, or_false, TxEvent.exited.injEq,
        Option.some.injEq] at member
      rcases member with member | ⟨rfl, -⟩
      · have := leftBody tx left member
        omega
      · omega

/-- A block that did not begin is framed. -/
theorem refused_framed (w : TxWorld Manager Provider Stmt) (later : Nat) (err : Err) :
    Framed w (({ w with now := later } : TxWorld Manager Provider Stmt).emit
      (.exited none (.returned (some err)))) :=
  .extend rfl rfl rfl (by simp)

end Frame

section Rule

variable {Manager Provider Stmt Result : Type} [DecidableEq Provider]
  {site : Site Manager Provider Stmt Result}

/--
What statements and blocks establish, every program establishes.

The relation may look at the context of the program, which is the same for all its parts.
-/
theorem runBody_rule
    {R : TxContext → TxWorld Manager Provider Stmt → TxWorld Manager Provider Stmt → Prop}
    (refl : ∀ ctx w, R ctx w w)
    (trans : ∀ ctx w middle later, R ctx w middle → R ctx middle later → R ctx w later)
    (exec : ∀ ctx w m stmt result, Queries site m stmt ctx w result → R ctx w result.1)
    (block : ∀ ctx w m limit gate refusal fn,
      (∀ inner start, R inner start (runBody site fn inner start).1) →
      R ctx w (withTx site m gate refusal (limited ctx limit) (runBody site fn) w).1)
    (body : Body Manager Stmt Result) (ctx : TxContext) (w : TxWorld Manager Provider Stmt) :
    R ctx w (runBody site body ctx w).1 := by
  -- Each constructor runs its parts one after the other under the same context.
  induction body generalizing ctx w with
  | ret err => exact refl ctx w
  | panic value => exact refl ctx w
  | exec m stmt gate next ih =>
    exact trans ctx w _ _ (exec ctx w m stmt _ (exec_queries site m stmt gate ctx w)) (ih _ ctx _)
  | withTx m limit gate refusal fn next ihFn ihNext =>
    have first := block ctx w m limit gate refusal fn ihFn
    simp only [runBody]
    split
    · exact trans ctx w _ _ first (ihNext _ ctx _)
    · exact first
  | attempt fn next ihFn ihNext =>
    exact trans ctx w _ _ (ihFn ctx w) (ihNext _ ctx _)

/-- A block that begins around a framed body closes the handle it opened. -/
theorem withTx_closes {m : Manager} {gate refusal : Option Err} {ctx : TxContext}
    {fn : TxContext → TxWorld Manager Provider Stmt → TxWorld Manager Provider Stmt × Exit}
    {w begun ran : TxWorld Manager Provider Stmt} {tx : Nat} {exit : Exit}
    (began : beginBlock site m gate refusal ctx w = (begun, .ok tx))
    (body : fn (ctx.withValue .txKey w.begun) begun = (ran, exit)) (framed : Framed begun ran) :
    ∃ handle last, Begins site m ctx w (begun, .ok w.begun) ∧
      begun.handles w.begun = some handle ∧
      Closes site ctx w.begun handle (ran.emit (.ended w.begun (ctx.err ran.now))) exit last ∧
      withTx site m gate refusal ctx fn w =
        (last.1.emit (.exited (some w.begun) last.2), last.2) := by
  have begins := beginBlock_begins site m gate refusal ctx w
  rw [began] at begins
  obtain rfl : tx = w.begun := begins.named
  obtain ⟨handle, opened, handles, counted, -⟩ := begins.opens
  have found : begun.handles w.begun = some handle := by rw [handles, update_self]
  -- The body cannot close the handle that its block opened.
  have held := framed.handles w.begun (by omega)
  obtain ⟨last, closes, left⟩ := withTx_begun began body (held.trans found) opened
  exact ⟨handle, last, begins, found, closes, left⟩

/-- A block fails to begin, or begins, runs its body and closes its handle. -/
theorem withTx_cases {fn : TxContext → TxWorld Manager Provider Stmt →
      TxWorld Manager Provider Stmt × Exit}
    (framed : ∀ ctx w, Framed w (fn ctx w).1) (m : Manager) (gate refusal : Option Err)
    (ctx : TxContext) (w : TxWorld Manager Provider Stmt) :
    (∃ later err, withTx site m gate refusal ctx fn w =
      (({ w with now := later } : TxWorld Manager Provider Stmt).emit
        (.exited none (.returned (some err))), .returned (some err))) ∨
    ∃ begun ran exit handle last, Begins site m ctx w (begun, .ok w.begun) ∧
      begun.handles w.begun = some handle ∧
      fn (ctx.withValue .txKey w.begun) begun = (ran, exit) ∧
      Closes site ctx w.begun handle (ran.emit (.ended w.begun (ctx.err ran.now))) exit last ∧
      withTx site m gate refusal ctx fn w =
        (last.1.emit (.exited (some w.begun) last.2), last.2) := by
  -- The beginning decides which of the two it is.
  rcases began : beginBlock site m gate refusal ctx w with ⟨begun, err | tx⟩
  · left
    have begins := beginBlock_begins site m gate refusal ctx w
    rw [began] at begins
    cases begins with
    | failed => exact ⟨_, err, withTx_refused began⟩
  · right
    have inside := framed (ctx.withValue .txKey w.begun) begun
    rcases body : fn (ctx.withValue .txKey w.begun) begun with ⟨ran, exit⟩
    rw [body] at inside
    obtain ⟨handle, last, begins, found, closes, left⟩ := withTx_closes began body inside
    exact ⟨begun, ran, exit, handle, last, begins, found, body, closes, left⟩

/-- A block around a framed body is framed. -/
theorem withTx_framed {fn : TxContext → TxWorld Manager Provider Stmt →
      TxWorld Manager Provider Stmt × Exit}
    (framed : ∀ ctx w, Framed w (fn ctx w).1) (m : Manager) (gate refusal : Option Err)
    (ctx : TxContext) (w : TxWorld Manager Provider Stmt) :
    Framed w (withTx site m gate refusal ctx fn w).1 := by
  -- Either only the clock and the trace change, or the block is opened and closed again.
  rcases withTx_cases framed m gate refusal ctx w with
    ⟨later, err, left⟩ | ⟨begun, ran, exit, handle, last, begins, found, body, closes, left⟩
  · rw [left]
    exact refused_framed w later err
  · have inside := framed (ctx.withValue .txKey w.begun) begun
    rw [body] at inside
    rw [left]
    exact Closes.framed begins inside closes

/-- Every program is framed. -/
theorem runBody_framed (body : Body Manager Stmt Result) (ctx : TxContext)
    (w : TxWorld Manager Provider Stmt) : Framed w (runBody site body ctx w).1 := by
  -- Statements and blocks are framed, so the rule applies.
  apply runBody_rule (R := fun _ w later => Framed w later)
  · exact fun _ w => .refl w
  · exact fun _ _ _ _ first second => first.trans second
  · exact fun _ _ _ _ _ queries => queries.framed
  · exact fun ctx w m limit gate refusal fn framed =>
      withTx_framed framed m gate refusal (limited ctx limit) w

/--
What statements and blocks establish, every program establishes, seen from inside a block.

A block is given by how it began, what its body did, and how it closed.
-/
theorem runBody_steps
    {R : TxContext → TxWorld Manager Provider Stmt → TxWorld Manager Provider Stmt → Prop}
    (refl : ∀ ctx w, R ctx w w)
    (trans : ∀ ctx w middle later, Framed w middle → Framed middle later →
      R ctx w middle → R ctx middle later → R ctx w later)
    (exec : ∀ ctx w m stmt result, Queries site m stmt ctx w result → R ctx w result.1)
    (refused : ∀ ctx w later err, R ctx w
      (({ w with now := later } : TxWorld Manager Provider Stmt).emit
        (.exited none (.returned (some err)))))
    (block : ∀ ctx inner w m fn begun handle ran exit last,
      txFromContext inner = txFromContext ctx →
      Begins site m inner w (begun, .ok w.begun) → begun.handles w.begun = some handle →
      runBody site fn (inner.withValue .txKey w.begun) begun = (ran, exit) →
      Framed begun ran → R (inner.withValue .txKey w.begun) begun ran →
      Closes site inner w.begun handle (ran.emit (.ended w.begun (inner.err ran.now))) exit last →
      R ctx w (last.1.emit (.exited (some w.begun) last.2)))
    (body : Body Manager Stmt Result) (ctx : TxContext) (w : TxWorld Manager Provider Stmt) :
    R ctx w (runBody site body ctx w).1 := by
  -- Being framed travels along, since parts in sequence rely on it.
  refine (runBody_rule (R := fun ctx w later => Framed w later ∧ R ctx w later)
    (fun ctx w => ⟨.refl w, refl ctx w⟩) ?_ ?_ ?_ body ctx w).2
  · rintro ctx w middle later ⟨framedFirst, first⟩ ⟨framedSecond, second⟩
    exact ⟨framedFirst.trans framedSecond,
      trans ctx w middle later framedFirst framedSecond first second⟩
  · exact fun ctx w m stmt result queries => ⟨queries.framed, exec ctx w m stmt result queries⟩
  · intro ctx w m limit gate refusal fn ih
    rcases withTx_cases (fun inner start => (ih inner start).1) m gate refusal
      (limited ctx limit) w with
      ⟨later, err, left⟩ | ⟨begun, ran, exit, handle, last, begins, found, body, closes, left⟩
    · rw [left]
      exact ⟨refused_framed w later err, refused ctx w later err⟩
    · obtain ⟨framed, related⟩ := ih ((limited ctx limit).withValue .txKey w.begun) begun
      rw [body] at framed related
      rw [left]
      exact ⟨Closes.framed begins framed closes,
        block ctx (limited ctx limit) w m fn begun handle ran exit last
          (txFromContext_limited ctx limit) begins found body framed related closes⟩

/-- Every handle that a program opens is closed when the program ends. -/
theorem runBody_closed (body : Body Manager Stmt Result) (ctx : TxContext)
    (w : TxWorld Manager Provider Stmt) {tx : Nat} (since : w.begun ≤ tx)
    (opened : tx < (runBody site body ctx w).1.begun) :
    (runBody site body ctx w).1.isOpen tx = false := by
  revert tx
  apply runBody_steps (R := fun _ w later => ∀ {tx}, w.begun ≤ tx → tx < later.begun →
    later.isOpen tx = false)
  · intro ctx w tx since opened
    omega
  · intro ctx w middle later _ framed first second tx since opened
    by_cases early : tx < middle.begun
    · rw [framed.isOpen early]
      exact first since early
    · exact second (by omega) opened
  · intro ctx w m stmt result queries tx since opened
    have counted : result.1.begun = w.begun := by cases queries <;> rfl
    omega
  · intro ctx w later err tx since opened
    have opened : tx < w.begun := opened
    omega
  · intro ctx inner w m fn begun handle ran exit last _ begins _ _ framed body closes tx since
      opened
    obtain ⟨-, -, -, counted, -⟩ := begins.opens
    obtain ⟨handles, countedLast, -⟩ := closes.closes
    have opened : tx < ran.begun := by
      have opened : tx < last.1.begun := opened
      rwa [countedLast] at opened
    show last.1.isOpen tx = false
    simp only [TxWorld.isOpen, handles]
    -- The block closes its own handle, and its body has closed the others.
    by_cases own : tx = w.begun
    · subst own
      simp [TxHandle.close]
    · rw [update_other _ _ own]
      exact body (by omega) opened

end Rule

end Bootkit
