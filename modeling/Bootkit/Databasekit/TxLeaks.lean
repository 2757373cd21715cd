import Bootkit.Databasekit.TxStack

/-! A failed block leaves nothing behind, as long as its cleanup can still be sent. -/

namespace Bootkit

open Go

section Leaks

variable {Manager Provider Stmt Result : Type}

/-- The body of every savepoint ended while the context of its block was live. -/
def EndsLive (w : TxWorld Manager Provider Stmt) : Prop :=
  ∀ tx handle err, w.handles tx = some handle → handle.root ≠ tx → .ended tx (some err) ∉ w.trace

/-- Whether an event is anything but the end of a body under a context that was done. -/
def endedLive : TxEvent Manager Provider Stmt → Bool
  | .ended _ (some _) => false
  | _ => true

/-- A trace in which every body ended under a live context can be read off. -/
theorem endsLive_of_trace {w : TxWorld Manager Provider Stmt}
    (seen : w.trace.all endedLive = true) : EndsLive w := by
  -- An end under a dead context would not have passed.
  intro tx handle err _ _ ended
  have passed := List.all_eq_true.mp seen _ ended
  simp [endedLive] at passed

/-- None of the blocks through which a write was made has failed. -/
def Clean (w : TxWorld Manager Provider Stmt) (write : Write Stmt) : Prop :=
  ∀ tx, write.tx = some tx → ∃ handle, w.handles tx = some handle ∧ tx ∈ handle.chain ∧
    ∀ block ∈ handle.chain, block < w.begun ∧
      ∀ exit, .exited (some block) exit ∈ w.trace → exit = .returned none

/-- Every write that is durable, or that the active transaction may still commit, is clean. -/
structure Spotless (ctx : TxContext) (w : TxWorld Manager Provider Stmt) : Prop where
  durable : ∀ p, ∀ write ∈ w.durable p, Clean w write
  work : ∀ tx handle, txFromContext ctx = some tx → w.handles tx = some handle →
    ∀ write ∈ w.work handle.root, Clean w write

/-- Handles and ways out are numbered below the counter, and no enclosing block was left. -/
structure Orderly (w : TxWorld Manager Provider Stmt) (stack : List (OpenBlock Manager)) :
    Prop where
  fresh : ∀ tx, w.begun ≤ tx → w.handles tx = none
  past : ∀ tx exit, .exited (some tx) exit ∈ w.trace → tx < w.begun
  within : ∀ block ∈ stack, block.tx < w.begun ∧ ∀ exit, .exited (some block.tx) exit ∉ w.trace

variable {w later : TxWorld Manager Provider Stmt} {stack : List (OpenBlock Manager)}

/-- What is framed keeps the order. -/
theorem Orderly.framed (orderly : Orderly w stack) (framed : Framed w later) :
    Orderly later stack := by
  obtain ⟨events, grown, left⟩ := framed.trace
  have counted := framed.begun_le
  refine ⟨framed.fresh orderly.fresh, ?_, ?_⟩
  · intro tx exit member
    rw [grown] at member
    rcases List.mem_append.mp member with before | since
    · have := orderly.past tx exit before
      omega
    · exact (left tx exit since).2
  · intro block member
    obtain ⟨older, unleft⟩ := orderly.within block member
    refine ⟨by omega, ?_⟩
    intro exit seen
    rw [grown] at seen
    -- Only blocks begun since have been left since.
    rcases List.mem_append.mp seen with before | since
    · exact unleft exit before
    · have := (left block.tx exit since).1
      omega

/-- A block that begins has not been left. -/
theorem Orderly.begin {site : Site Manager Provider Stmt Result} {ctx : TxContext} {m : Manager}
    {begun : TxWorld Manager Provider Stmt} (orderly : Orderly w stack)
    (begins : Begins site m ctx w (begun, .ok w.begun)) :
    Orderly begun (⟨m, w.begun⟩ :: stack) := by
  obtain ⟨handle, -, -, counted, grown⟩ := begins.opens
  have kept := orderly.framed begins.framed
  refine ⟨kept.fresh, kept.past, ?_⟩
  intro block member
  rcases List.mem_cons.mp member with rfl | member
  · refine ⟨by simp only [counted]; omega, ?_⟩
    intro exit seen
    -- Its number was not in use before.
    rw [grown, List.mem_append] at seen
    have := orderly.past w.begun exit (by simpa using seen)
    omega
  · exact kept.within block member

/-- A clean write stays clean, whatever program runs after it. -/
theorem Clean.framed {write : Write Stmt} (clean : Clean w write) (framed : Framed w later) :
    Clean later write := by
  -- The blocks of the write are older than everything that happens later.
  intro tx tagged
  obtain ⟨handle, found, own, chain⟩ := clean tx tagged
  obtain ⟨events, grown, left⟩ := framed.trace
  have counted := framed.begun_le
  refine ⟨handle, (framed.handles tx (chain tx own).1).trans found, own, ?_⟩
  intro block member
  obtain ⟨older, kept⟩ := chain block member
  refine ⟨by omega, ?_⟩
  intro exit seen
  rw [grown] at seen
  rcases List.mem_append.mp seen with before | since
  · exact kept exit before
  · have := (left block exit since).1
    omega

/-- A shorter run ended its savepoints live when the longer one did. -/
theorem EndsLive.framed (live : EndsLive later) (framed : Framed w later)
    (fresh : ∀ tx, w.begun ≤ tx → w.handles tx = none) : EndsLive w := by
  intro tx handle err found inner ended
  obtain ⟨events, grown, -⟩ := framed.trace
  -- A handle that is there was opened below the counter, so it is still the same.
  have older : tx < w.begun := by
    by_contra beyond
    have absent := fresh tx (by omega)
    rw [absent] at found
    cases found
  refine live tx handle err ((framed.handles tx older).trans found) inner ?_
  rw [grown]
  exact List.mem_append_left _ ended

variable {site : Site Manager Provider Stmt Result} {ctx inner : TxContext} {m : Manager}

/-- What leaves both kinds of writes where they are leaves them clean. -/
theorem Spotless.framed (spotless : Spotless ctx w) (framed : Framed w later)
    (encloses : Encloses site ctx w stack) (durable : later.durable = w.durable)
    (work : later.work = w.work) : Spotless ctx later where
  -- Neither the databases nor the connections change, so that only the events grow.
  durable := by
    intro p write member
    rw [durable] at member
    exact (spotless.durable p write member).framed framed
  work := by
    intro tx handle active found write member
    rw [work] at member
    rw [framed.handles tx (encloses.active_lt active)] at found
    exact (spotless.work tx handle active found write member).framed framed

/-- A write made through the active transaction is clean. -/
theorem clean_written {tx : Nat} (stmt : Stmt) (encloses : Encloses site ctx w stack)
    (orderly : Orderly w stack) (active : txFromContext ctx = some tx) :
    Clean w ⟨some tx, stmt⟩ := by
  intro other tagged
  obtain rfl : tx = other := Option.some.inj tagged
  obtain ⟨same, base, held, chained, -⟩ := encloses.based tx active
  refine ⟨same, held, ?_, ?_⟩
  · -- The active transaction is the innermost of the enclosing blocks.
    have head := encloses.active.symm.trans active
    obtain ⟨block, first, rfl⟩ := Option.map_eq_some_iff.mp head
    rw [chained]
    exact List.mem_map_of_mem (List.mem_of_head? first)
  · intro other member
    rw [chained] at member
    obtain ⟨block, enclosing, rfl⟩ := List.mem_map.mp member
    obtain ⟨older, unleft⟩ := orderly.within block enclosing
    exact ⟨older, fun exit seen => absurd seen (unleft exit)⟩

/-- A statement keeps every write clean. -/
theorem spotless_exec [DecidableEq Provider] {stmt : Stmt}
    {result : TxWorld Manager Provider Stmt × Except Err Result}
    (queries : Queries site m stmt ctx w result) (encloses : Encloses site ctx w stack)
    (orderly : Orderly w stack) (spotless : Spotless ctx w) : Spotless ctx result.1 := by
  have framed := queries.framed
  cases queries with
  | unissued => exact spotless.framed framed encloses rfl rfl
  | failed host => exact spotless.framed framed encloses rfl rfl
  | stored absent =>
    refine ⟨?_, fun tx handle active => absurd (absent.symm.trans active) (by simp)⟩
    intro p write member
    by_cases here : p = site.provider m
    · subst here
      simp only [update_self, List.mem_append, List.mem_singleton] at member
      rcases member with before | rfl
      · exact (spotless.durable _ write before).framed framed
      · -- A statement outside every block belongs to no transaction.
        intro tx tagged
        cases tagged
    · simp only [update_other _ _ here] at member
      exact (spotless.durable p write member).framed framed
  | written active found =>
    refine ⟨fun p write member => (spotless.durable p write member).framed framed, ?_⟩
    intro tx handle named held write member
    obtain rfl : _ = tx := Option.some.inj (active.symm.trans named)
    obtain rfl : _ = handle := Option.some.inj (found.symm.trans held)
    simp only [update_self, List.mem_append, List.mem_singleton] at member
    rcases member with before | rfl
    · exact (spotless.work _ _ active found write before).framed framed
    · exact (clean_written stmt encloses orderly active).framed framed

/-- The beginning of a block keeps every write clean. -/
theorem spotless_begin {begun : TxWorld Manager Provider Stmt}
    (begins : Begins site m ctx w (begun, .ok w.begun)) (spotless : Spotless ctx w) :
    Spotless (ctx.withValue .txKey w.begun) begun := by
  have framed := begins.framed
  refine ⟨?_, ?_⟩
  · intro p write member
    rw [begins.durable] at member
    exact (spotless.durable p write member).framed framed
  · intro tx handle active found write member
    obtain rfl : w.begun = tx := by simpa using active
    cases outer : txFromContext ctx with
    | none =>
      -- A new transaction has not written anything.
      obtain ⟨rfl, unwritten⟩ := begins.top outer found
      have member : write ∈ begun.work w.begun := member
      simp [unwritten] at member
    | some existing =>
      obtain ⟨around, held, rfl, same⟩ := begins.nested outer found
      rw [same] at member
      exact (spotless.work existing around outer held write member).framed framed

/-- The end of a block that did not fail keeps a clean write clean. -/
theorem Clean.left [DecidableEq Provider] {tx : Nat} {handle : TxHandle Provider Stmt}
    {ran : TxWorld Manager Provider Stmt} {exit : Exit} {err : Option Err}
    {last : TxWorld Manager Provider Stmt × Exit} {write : Write Stmt} (clean : Clean ran write)
    (found : ran.handles tx = some handle)
    (closes : Closes site ctx tx handle (ran.emit (.ended tx err)) exit last)
    (returned : last.2 = .returned none) :
    Clean (last.1.emit (.exited (some tx) last.2)) write := by
  obtain ⟨handles, counted, grown⟩ := closes.closes
  intro other tagged
  obtain ⟨through, held, own, chain⟩ := clean other tagged
  -- Closing a handle does not change the blocks around it.
  have still : ∃ now, last.1.handles other = some now ∧ now.chain = through.chain := by
    by_cases here : other = tx
    · subst here
      obtain rfl : handle = through := Option.some.inj (found.symm.trans held)
      exact ⟨handle.close, by rw [handles, update_self], rfl⟩
    · exact ⟨through, by rw [handles, update_other _ _ here]; exact held, rfl⟩
  obtain ⟨now, present, same⟩ := still
  refine ⟨now, present, by rwa [same], ?_⟩
  intro block member
  rw [same] at member
  obtain ⟨older, kept⟩ := chain block member
  refine ⟨by show block < last.1.begun; rw [counted]; exact older, ?_⟩
  intro other seen
  have seen : .exited (some block) other ∈ last.1.trace ++ [.exited (some tx) last.2] := seen
  simp only [grown, TxWorld.emit, List.mem_append, List.mem_singleton, reduceCtorEq, or_false,
    exited_closingEvents, TxEvent.exited.injEq] at seen
  rcases seen with before | ⟨-, rfl⟩
  · exact kept other before
  · exact returned

/-- The body of a block ended its savepoints live when the whole block did. -/
theorem EndsLive.body [DecidableEq Provider] {tx : Nat} {handle : TxHandle Provider Stmt}
    {ran : TxWorld Manager Provider Stmt} {exit : Exit} {err : Option Err}
    {last : TxWorld Manager Provider Stmt × Exit}
    (live : EndsLive (last.1.emit (.exited (some tx) last.2)))
    (found : ran.handles tx = some handle)
    (closes : Closes site ctx tx handle (ran.emit (.ended tx err)) exit last) : EndsLive ran := by
  obtain ⟨handles, -, grown⟩ := closes.closes
  intro other held cause present inner ended
  have later : .ended other (some cause) ∈ (last.1.emit (.exited (some tx) last.2)).trace := by
    simp [TxWorld.emit, grown, ended]
  -- Closing the block's own handle does not change its root.
  by_cases here : other = tx
  · subst here
    obtain rfl : handle = held := Option.some.inj (found.symm.trans present)
    have closed : last.1.handles other = some handle.close := by
      rw [handles, update_self]
    exact live other handle.close cause closed inner later
  · exact live other held cause
      (by show last.1.handles other = _; rw [handles, update_other _ _ here]; exact present)
      inner later

/-- A block keeps every write clean if its savepoint was not left to a dead context. -/
theorem spotless_block [DecidableEq Provider] {begun ran : TxWorld Manager Provider Stmt}
    {handle : TxHandle Provider Stmt} {exit : Exit}
    {last : TxWorld Manager Provider Stmt × Exit} (encloses : Encloses site inner w stack)
    (begins : Begins site m inner w (begun, .ok w.begun))
    (found : begun.handles w.begun = some handle) (framed : Framed begun ran)
    (held : ran.durable = begun.durable)
    (closes : Closes site inner w.begun handle
      (ran.emit (.ended w.begun (inner.err ran.now))) exit last)
    (live : EndsLive (last.1.emit (.exited (some w.begun) last.2))) (before : Spotless inner w)
    (body : Spotless (inner.withValue .txKey w.begun) ran) :
    Spotless inner (last.1.emit (.exited (some w.begun) last.2)) := by
  have whole := Closes.framed begins framed closes
  have counted : w.begun < begun.begun := by
    obtain ⟨-, -, -, counted, -⟩ := begins.opens
    omega
  have present : ran.handles w.begun = some handle := (framed.handles w.begun counted).trans found
  have durable : ran.durable = w.durable := held.trans begins.durable
  -- What the block wrote is clean after it, if it did not fail.
  have kept : last.2 = .returned none → ∀ write ∈ ran.work handle.root,
      Clean (last.1.emit (.exited (some w.begun) last.2)) write := by
    intro returned write member
    exact (body.work w.begun handle rfl present write member).left present closes returned
  -- What was there before the block is clean after it.
  have older : ∀ p, ∀ write ∈ ran.durable p,
      Clean (last.1.emit (.exited (some w.begun) last.2)) write := by
    intro p write member
    rw [durable] at member
    exact (before.durable p write member).framed whole
  refine ⟨?_, ?_⟩
  · intro p write member
    cases closes with
    | committed sent top =>
      by_cases here : p = handle.provider
      · subst here
        have member : write ∈ ran.durable handle.provider ++ ran.work w.begun := by
          simpa [TxWorld.emit] using member
        rcases List.mem_append.mp member with stored | written
        · exact older _ write stored
        · exact kept rfl write (by rwa [top])
      · have member : write ∈ ran.durable p := by simpa [TxWorld.emit, here] using member
        exact older p write member
    | released sent inner => exact older p write member
    | undone sent failed => exact older p write member
    | dropped unsent top failed => exact older p write member
    | leaked unsent inner failed => exact older p write member
  · intro tx outer active here write member
    have inside := begins.root_lt encloses found (by simp [active])
    rw [whole.handles tx (encloses.active_lt active)] at here
    obtain ⟨same, there, rfl, -⟩ := begins.nested active found
    obtain rfl : outer = same := Option.some.inj (here.symm.trans there)
    have ended : ∀ cause, inner.err ran.now = some cause →
        .ended w.begun (some cause) ∈ (last.1.emit (.exited (some w.begun) last.2)).trace := by
      intro cause dead
      simp [TxWorld.emit, closes.closes.2.2, dead]
    cases closes with
    | committed sent top => omega
    | released sent inner => exact kept rfl write member
    | undone sent failed =>
      -- The connection is back where the block began.
      have member : write ∈ w.work outer.root := by
        simpa [TxWorld.emit, TxHandle.savepoint] using member
      exact (before.work tx outer active here write member).framed whole
    | dropped unsent top failed => omega
    | leaked unsent inner failed =>
      -- The cleanup was not sent because the context was done, which the run excludes.
      have dead := (begins.unsent encloses found framed).symm.trans unsent
      obtain ⟨cause, done, -⟩ := Option.map_eq_some_iff.mp dead
      exact absurd (ended cause done) (live w.begun _ _ (update_self _ _ _) inner)

/-- Every program keeps every write clean, if its savepoints ended live. -/
theorem runBody_spotless [DecidableEq Provider] (body : Body Manager Stmt Result)
    (encloses : Encloses site ctx w stack) (orderly : Orderly w stack)
    (live : EndsLive (runBody site body ctx w).1) (spotless : Spotless ctx w) :
    Spotless ctx (runBody site body ctx w).1 := by
  -- The condition on the run is inherited by its parts, which is why it is a premise here.
  revert encloses orderly live spotless
  revert stack
  apply runBody_steps (R := fun ctx w later => ∀ {stack}, Encloses site ctx w stack →
    Orderly w stack → EndsLive later → Spotless ctx w → Spotless ctx later)
  · exact fun _ _ _ _ _ _ spotless => spotless
  · intro ctx w middle later framedFirst framedSecond first second stack encloses orderly live
      spotless
    have between := orderly.framed framedFirst
    have clean := first encloses orderly (live.framed framedSecond between.fresh) spotless
    exact second (encloses.framed framedFirst) between live clean
  · exact fun ctx w m stmt result queries stack encloses orderly _ spotless =>
      spotless_exec queries encloses orderly spotless
  · intro ctx w later err stack encloses _ _ spotless
    exact spotless.framed (refused_framed w later err) encloses rfl rfl
  · intro ctx inner w m fn begun handle ran exit last same begins found ran_eq framed body closes
      stack encloses orderly live spotless
    have around := encloses.derived same
    have inside := around.begin begins
    have held : ran.durable = begun.durable := by
      have durable := runBody_durable fn inside (by simp)
      rwa [ran_eq] at durable
    have present : ran.handles w.begun = some handle := by
      obtain ⟨-, -, -, counted, -⟩ := begins.opens
      exact (framed.handles w.begun (by omega)).trans found
    have before : Spotless inner w := ⟨spotless.durable, by rw [same]; exact spotless.work⟩
    have after := body inside (orderly.begin begins) (live.body present closes)
      (spotless_begin begins before)
    have done := spotless_block around begins found framed held closes live before after
    exact ⟨done.durable, by rw [← same]; exact done.work⟩

/--
No write made through a failed block is ever durable.

The cleanup of a savepoint runs under the context of its block, so the context has to be live then.
-/
theorem failed_block_leaves_nothing [DecidableEq Provider]
    (site : Site Manager Provider Stmt Result) (body : Body Manager Stmt Result) (ctx : TxContext)
    (outside : txFromContext ctx = none)
    (live : EndsLive (runBody site body ctx TxWorld.init).1) :
    ∀ p, ∀ write ∈ (runBody site body ctx TxWorld.init).1.durable p, ∀ tx, write.tx = some tx →
      ∃ handle, (runBody site body ctx TxWorld.init).1.handles tx = some handle ∧
        tx ∈ handle.chain ∧ ∀ block ∈ handle.chain, ∀ exit,
          .exited (some block) exit ∈ (runBody site body ctx TxWorld.init).1.trace →
            exit = .returned none := by
  -- At the start there are no writes, so all of them are clean.
  have orderly : Orderly (TxWorld.init : TxWorld Manager Provider Stmt) [] :=
    ⟨by simp [TxWorld.init], by simp [TxWorld.init], by simp⟩
  have spotless : Spotless ctx (TxWorld.init : TxWorld Manager Provider Stmt) :=
    ⟨by simp [TxWorld.init], by simp [TxWorld.init]⟩
  have final := runBody_spotless body (.outside outside _) orderly live spotless
  intro p write member tx tagged
  obtain ⟨handle, found, own, chain⟩ := final.durable p write member tx tagged
  exact ⟨handle, found, own, fun block enclosing => (chain block enclosing).2⟩

end Leaks

/--
A block around a statement and a failing block whose error is ignored.

The context of the inner block becomes done at the given instant.
-/
def swallowing (instant : Nat) : Body Unit String Unit :=
  .withTx () none none none
    (.exec () "outer" none fun _ =>
      .withTx () (some (instant, canceled)) none none
        (.exec () "insert" none fun _ => .exec () "update" none fun answer =>
          match answer with
          | .error err => .ret (some err)
          | .ok _ => .ret (some (.new canceled)))
        fun _ => .ret none) .ret

/-- With a context that outlives the inner block, its cleanup is sent and the outer write stays. -/
theorem failed_block_leaves_nothing_swallowed :
    txFromContext .background = none ∧
      EndsLive (runBody oneDatabase (swallowing 9) .background TxWorld.init).1 ∧
      (runBody oneDatabase (swallowing 9) .background TxWorld.init).1.durable () =
        [⟨some 0, "outer"⟩] ∧
      ∀ p, ∀ write ∈ (runBody oneDatabase (swallowing 9) .background TxWorld.init).1.durable p,
        ∀ tx, write.tx = some tx →
        ∃ handle, (runBody oneDatabase (swallowing 9) .background TxWorld.init).1.handles tx =
            some handle ∧
          tx ∈ handle.chain ∧ ∀ block ∈ handle.chain, ∀ exit,
            .exited (some block) exit ∈
                (runBody oneDatabase (swallowing 9) .background TxWorld.init).1.trace →
              exit = .returned none := by
  -- The recorded ends show that both contexts were live.
  have live : EndsLive (runBody oneDatabase (swallowing 9) .background TxWorld.init).1 :=
    endsLive_of_trace (by decide +kernel)
  exact ⟨rfl, live, by decide +kernel,
    failed_block_leaves_nothing oneDatabase (swallowing 9) .background rfl live⟩

/-- A failed inner block whose context was cancelled has its write committed by the outer one. -/
theorem failed_block_leaks :
    let done : Err := .wrap "context already done: context canceled" [.new canceled]
    (runBody oneDatabase (swallowing 4) .background TxWorld.init).2 = .returned none ∧
      .exited (some 1) (.returned (some (transactionFailed done done))) ∈
        (runBody oneDatabase (swallowing 4) .background TxWorld.init).1.trace ∧
      ⟨some 1, "insert"⟩ ∈
        (runBody oneDatabase (swallowing 4) .background TxWorld.init).1.durable () := by
  decide +kernel

end Bootkit
