import Bootkit.Databasekit.TxFrame

/-! The blocks that enclose a point of a program, and an observer that keeps count of them. -/

namespace Bootkit

open Go

/-- A block that has begun and has not been left: who opened it, and under which handle. -/
structure OpenBlock (Manager : Type) where
  manager : Manager
  tx : Nat
  deriving Repr, DecidableEq

/-- The manager of the outermost of the enclosing blocks, or else the given one. -/
def outermost {Manager : Type} (stack : List (OpenBlock Manager)) (m : Manager) : Manager :=
  -- The innermost block comes first.
  (stack.getLast?.map OpenBlock.manager).getD m

/-- A block opened inside others has the same outermost block as they have. -/
theorem outermost_last {Manager : Type} {stack : List (OpenBlock Manager)}
    {block base : OpenBlock Manager} (last : (block :: stack).getLast? = some base) :
    base.manager = outermost stack block.manager := by
  -- The last block of the longer stack is the last of the shorter one, if it has one.
  rw [List.getLast?_cons] at last
  obtain rfl := Option.some.inj last
  cases ends : stack.getLast? <;> simp [outermost, ends]

section Encloses

variable {Manager Provider Stmt Result : Type}

/-- The blocks that enclose a point of a program with the given context, innermost first. -/
structure Encloses (site : Site Manager Provider Stmt Result) (ctx : TxContext)
    (w : TxWorld Manager Provider Stmt) (stack : List (OpenBlock Manager)) : Prop where
  active : txFromContext ctx = stack.head?.map OpenBlock.tx
  -- Everything inside the outermost block happens on its provider and its connection.
  based : ∀ tx, txFromContext ctx = some tx → ∃ handle base, w.handles tx = some handle ∧
    handle.chain = stack.map OpenBlock.tx ∧ stack.getLast? = some base ∧
    handle.provider = site.provider base.manager ∧ handle.root = base.tx
  opened : ∀ block ∈ stack, block.tx < w.begun ∧ w.isOpen block.tx = true

namespace Encloses

variable {site : Site Manager Provider Stmt Result} {ctx inner : TxContext}
  {w later : TxWorld Manager Provider Stmt} {stack : List (OpenBlock Manager)}

/-- No block encloses a point whose context carries no transaction. -/
theorem outside (absent : txFromContext ctx = none) (w : TxWorld Manager Provider Stmt) :
    Encloses site ctx w [] where
  -- Without a transaction in the context there is no block around.
  active := absent
  based := by simp [absent]
  opened := by simp

/-- A derived context is enclosed by the same blocks. -/
theorem derived (encloses : Encloses site ctx w stack)
    (same : txFromContext inner = txFromContext ctx) : Encloses site inner w stack where
  -- The blocks around depend on the transaction that the context carries.
  active := same.trans encloses.active
  based := fun tx active => encloses.based tx (same.symm.trans active)
  opened := encloses.opened

/-- A handle named by the context is older than the counter. -/
theorem active_lt (encloses : Encloses site ctx w stack) {tx : Nat}
    (active : txFromContext ctx = some tx) : tx < w.begun := by
  -- The active transaction is the innermost block, and blocks are older than the counter.
  have head := encloses.active.symm.trans active
  obtain ⟨block, first, rfl⟩ := Option.map_eq_some_iff.mp head
  exact (encloses.opened block (List.mem_of_head? first)).1

/-- The next handle is none of the open ones. -/
theorem fresh (encloses : Encloses site ctx w stack) : w.begun ∉ stack.map OpenBlock.tx := by
  intro member
  obtain ⟨block, enclosing, same⟩ := List.mem_map.mp member
  have older := (encloses.opened block enclosing).1
  omega

/-- What a program does inside the blocks leaves them around it. -/
theorem framed (encloses : Encloses site ctx w stack) (framed : Framed w later) :
    Encloses site ctx later stack where
  -- A framed step closes no handle that was open before it.
  active := encloses.active
  based := by
    intro tx active
    obtain ⟨handle, base, found, rest⟩ := encloses.based tx active
    exact ⟨handle, base, (framed.handles tx (encloses.active_lt active)).trans found, rest⟩
  opened := by
    intro block member
    obtain ⟨older, live⟩ := encloses.opened block member
    have grown := framed.begun_le
    exact ⟨by omega, (framed.isOpen older).trans live⟩

/-- A handle named by the context sends every operation while the context is live. -/
theorem unsent (encloses : Encloses site ctx w stack) {handle : TxHandle Provider Stmt}
    (chained : handle.chain = stack.map OpenBlock.tx) (inner : TxContext) :
    w.unsent site inner handle =
      (inner.err w.now).map (site.contextDone (some handle.root)) := by
  -- Every handle of the chain is open.
  have live : handle.chain.all w.isOpen = true := by
    rw [chained, List.all_map, List.all_eq_true]
    exact fun block member => (encloses.opened block member).2
  simp [TxWorld.unsent, live]

/-- The work of a manager lands on the provider of the outermost block's manager. -/
theorem host (encloses : Encloses site ctx w stack) (m : Manager) :
    hostOf site m ctx w = some (site.provider (outermost stack m)) := by
  cases active : txFromContext ctx with
  | none =>
    -- Without a transaction there is no block.
    have empty : stack = [] := by
      have head := encloses.active.symm.trans active
      simpa using head
    simp [hostOf, active, empty, outermost]
  | some tx =>
    obtain ⟨handle, base, found, -, last, provider, -⟩ := encloses.based tx active
    simp [hostOf, active, found, outermost, last, provider]

/-- A block that begins encloses its body together with the blocks around it. -/
theorem begin (encloses : Encloses site ctx w stack) {m : Manager}
    {begun : TxWorld Manager Provider Stmt} (begins : Begins site m ctx w (begun, .ok w.begun)) :
    Encloses site (ctx.withValue .txKey w.begun) begun (⟨m, w.begun⟩ :: stack) := by
  obtain ⟨fresh, live, handles, counted, -⟩ := begins.opens
  refine ⟨rfl, ?_, ?_⟩
  · intro tx active
    obtain rfl : w.begun = tx := by simpa using active
    cases begins with
    | root absent =>
      -- A root has nothing around it.
      have empty : stack = [] := by
        have head := encloses.active.symm.trans absent
        simpa using head
      exact ⟨_, ⟨m, w.begun⟩, update_self _ _ _, by simp [empty, TxHandle.begin],
        by simp [empty], rfl, rfl⟩
    | savepoint active found sent =>
      obtain ⟨handle, base, held, chained, last, provider, root⟩ := encloses.based _ active
      obtain rfl : _ = handle := Option.some.inj (found.symm.trans held)
      refine ⟨_, base, update_self _ _ _, by simp [TxHandle.savepoint, chained], ?_, provider, root⟩
      simp [List.getLast?_cons, last]
  · intro block member
    rw [counted]
    simp only [TxWorld.isOpen, handles]
    rcases List.mem_cons.mp member with rfl | member
    · simp [live]
    · obtain ⟨older, held⟩ := encloses.opened block member
      refine ⟨by omega, ?_⟩
      rw [update_other _ _ (by omega)]
      exact held

end Encloses

/-- The handle of a block that begins inside others shares their root, and is not its own. -/
theorem Begins.root_lt {site : Site Manager Provider Stmt Result} {ctx : TxContext}
    {w begun : TxWorld Manager Provider Stmt} {stack : List (OpenBlock Manager)} {m : Manager}
    {handle : TxHandle Provider Stmt} (encloses : Encloses site ctx w stack)
    (begins : Begins site m ctx w (begun, .ok w.begun))
    (found : begun.handles w.begun = some handle) (enclosed : txFromContext ctx ≠ none) :
    handle.root < w.begun := by
  obtain ⟨existing, active⟩ := Option.ne_none_iff_exists'.mp enclosed
  obtain ⟨outer, held, rfl, -⟩ := begins.nested active found
  obtain ⟨same, base, here, -, last, -, root⟩ := encloses.based existing active
  obtain rfl : outer = same := Option.some.inj (held.symm.trans here)
  -- The root is the handle of the outermost block, which is open already.
  have older := (encloses.opened base (List.mem_of_getLast? last)).1
  show outer.root < w.begun
  omega

/-- The cleanup of a block is sent exactly while the context of the block is live. -/
theorem Begins.unsent {site : Site Manager Provider Stmt Result} {ctx : TxContext}
    {w begun ran : TxWorld Manager Provider Stmt} {stack : List (OpenBlock Manager)} {m : Manager}
    {handle : TxHandle Provider Stmt} (encloses : Encloses site ctx w stack)
    (begins : Begins site m ctx w (begun, .ok w.begun))
    (found : begun.handles w.begun = some handle) (framed : Framed begun ran) :
    ran.unsent site ctx handle =
      (ctx.err ran.now).map (site.contextDone (some handle.root)) := by
  have enclosing := encloses.begin begins
  obtain ⟨own, base, held, chained, -⟩ := enclosing.based w.begun rfl
  obtain rfl : handle = own := Option.some.inj (found.symm.trans held)
  -- The body has left the block and all blocks around it open.
  exact (enclosing.framed framed).unsent chained ctx

/-- Nothing becomes durable inside a block. -/
theorem runBody_durable [DecidableEq Provider] {site : Site Manager Provider Stmt Result}
    {ctx : TxContext} {w : TxWorld Manager Provider Stmt} {stack : List (OpenBlock Manager)}
    (body : Body Manager Stmt Result) (encloses : Encloses site ctx w stack)
    (enclosed : txFromContext ctx ≠ none) : (runBody site body ctx w).1.durable = w.durable := by
  revert encloses enclosed
  revert stack
  apply runBody_steps (R := fun ctx w later => ∀ {stack}, Encloses site ctx w stack →
    txFromContext ctx ≠ none → later.durable = w.durable)
  · exact fun _ _ _ _ _ => rfl
  · intro ctx w middle later framed _ first second stack encloses enclosed
    rw [second (encloses.framed framed) enclosed, first encloses enclosed]
  · intro ctx w m stmt result queries stack _ enclosed
    cases queries with
    | unissued => rfl
    | failed host => rfl
    | stored absent => exact absurd absent enclosed
    | written active found => rfl
  · exact fun _ _ _ _ _ _ _ => rfl
  · intro ctx inner w m fn begun handle ran exit last same begins found _ _ body closes stack
      encloses enclosed
    have around := encloses.derived same
    have within := body (around.begin begins) (by simp)
    have inside := begins.root_lt around found (by rwa [same])
    -- Only the commit of a root writes to a database, and this block is not one.
    have kept : last.1.durable = ran.durable := by
      cases closes with
      | committed sent top => omega
      | released sent inner => rfl
      | undone sent failed => rfl
      | dropped unsent top failed => rfl
      | leaked unsent inner failed => rfl
    exact kept.trans (within.trans begins.durable)

end Encloses

section Observer

variable {Manager Provider Stmt Result : Type}

/-- The blocks that enclose what follows an event. -/
def shiftBlocks (stack : List (OpenBlock Manager)) :
    TxEvent Manager Provider Stmt → List (OpenBlock Manager)
  | .begun m _ tx => ⟨m, tx⟩ :: stack
  -- Whatever is closed is taken to be the innermost block.
  | .closed _ => stack.tail
  | _ => stack

/-- An observer that follows the open blocks and accepts only events that pass its check. -/
def observer (check : List (OpenBlock Manager) → TxEvent Manager Provider Stmt → Bool) :
    Machine (List (OpenBlock Manager)) (TxEvent Manager Provider Stmt) where
  step stack event := if check stack event then some (shiftBlocks stack event) else none

/-- An event that passes the check moves the observer on. -/
theorem observer_accepts {check : List (OpenBlock Manager) → TxEvent Manager Provider Stmt → Bool}
    {stack : List (OpenBlock Manager)} {event : TxEvent Manager Provider Stmt}
    (rest : List (TxEvent Manager Provider Stmt)) (passed : check stack event = true) :
    (observer check).run stack (event :: rest) =
      (observer check).run (shiftBlocks stack event) rest := by
  simp [Machine.run_cons, observer, passed]

/-- An observer with a weaker check accepts what one with a stronger check does. -/
theorem observer_weaken
    {strong weak : List (OpenBlock Manager) → TxEvent Manager Provider Stmt → Bool}
    (weaker : ∀ stack event, strong stack event = true → weak stack event = true)
    {stack finish : List (OpenBlock Manager)} {events : List (TxEvent Manager Provider Stmt)}
    (accepted : (observer strong).run stack events = some finish) :
    (observer weak).run stack events = some finish := by
  -- Both observers move in the same way, so only the checks are compared.
  refine Machine.run_weaken _ ?_ accepted
  intro state event next taken
  simp only [observer, Option.ite_none_right_eq_some] at taken ⊢
  exact ⟨weaker state event taken.1, taken.2⟩

/-- Statements go to the innermost block, and blocks are closed innermost first. -/
def wellNested (stack : List (OpenBlock Manager)) : TxEvent Manager Provider Stmt → Bool
  | .executed _ _ target _ => target = stack.head?.map OpenBlock.tx
  | .closed tx => stack.head?.map OpenBlock.tx = some tx
  -- A rollback that came too late is not one of an open block.
  | .idle tx => tx ∉ stack.map OpenBlock.tx
  -- A block is left after it was closed.
  | .exited (some tx) _ => tx ∉ stack.map OpenBlock.tx
  | .begun _ _ tx => tx ∉ stack.map OpenBlock.tx
  | .ended _ _ | .exited none _ => true

/-- Statements and blocks happen on the provider of the outermost block's manager. -/
def wellHosted [DecidableEq Provider] (provider : Manager → Provider)
    (stack : List (OpenBlock Manager)) : TxEvent Manager Provider Stmt → Bool
  | .begun m p _ | .executed m p _ _ => p = provider (outermost stack m)
  | .ended _ _ | .closed _ | .idle _ | .exited _ _ => true

variable [DecidableEq Provider] {site : Site Manager Provider Stmt Result}

/-- Both checks at once. -/
def wellFormed (provider : Manager → Provider) (stack : List (OpenBlock Manager))
    (event : TxEvent Manager Provider Stmt) : Bool :=
  wellNested stack event && wellHosted provider stack event

/-- The cleanup of the innermost block is accepted, and leaves the blocks around it. -/
theorem observer_closing {provider : Manager → Provider} {stack : List (OpenBlock Manager)}
    {m : Manager} {tx : Nat} (err : Option Err) (exit left : Exit)
    (outside : tx ∉ stack.map OpenBlock.tx) :
    (observer (wellFormed provider)).run (⟨m, tx⟩ :: stack)
      (.ended tx err :: (closingEvents tx exit ++ [.exited (some tx) left]) :
        List (TxEvent Manager Provider Stmt)) = some stack := by
  have closed : wellFormed provider (⟨m, tx⟩ :: stack)
      (.closed tx : TxEvent Manager Provider Stmt) = true := by
    simp [wellFormed, wellNested, wellHosted]
  have idle : wellFormed provider stack (.idle tx : TxEvent Manager Provider Stmt) = true := by
    simpa [wellFormed, wellNested, wellHosted] using outside
  have exited : wellFormed provider stack
      (.exited (some tx) left : TxEvent Manager Provider Stmt) = true := by
    simpa [wellFormed, wellNested, wellHosted] using outside
  rw [observer_accepts _ rfl]
  -- A block left by a panic has no second rollback.
  cases exit with
  | panicked value =>
    show (observer _).run (⟨m, tx⟩ :: stack) [.closed tx, .exited (some tx) left] = some stack
    exact (observer_accepts _ closed).trans (observer_accepts _ exited)
  | returned result =>
    show (observer _).run (⟨m, tx⟩ :: stack) [.closed tx, .idle tx, .exited (some tx) left] =
      some stack
    exact (observer_accepts _ closed).trans
      ((observer_accepts _ idle).trans (observer_accepts _ exited))

/-- The observer accepts every program, and ends with the blocks it started with. -/
theorem runBody_observed (body : Body Manager Stmt Result) (ctx : TxContext)
    (w : TxWorld Manager Provider Stmt) (stack : List (OpenBlock Manager))
    (encloses : Encloses site ctx w stack) :
    ∃ events, (runBody site body ctx w).1.trace = w.trace ++ events ∧
      (observer (wellFormed site.provider)).run stack events = some stack := by
  revert stack
  apply runBody_steps (R := fun ctx w later => ∀ stack, Encloses site ctx w stack →
    ∃ events, later.trace = w.trace ++ events ∧
      (observer (wellFormed site.provider)).run stack events = some stack)
  · intro ctx w stack _
    exact ⟨[], by simp, rfl⟩
  · -- The second part is enclosed by the same blocks as the first.
    intro ctx w middle later framed _ first second stack encloses
    obtain ⟨before, grownFirst, acceptedFirst⟩ := first stack encloses
    obtain ⟨after, grownSecond, acceptedSecond⟩ := second stack (encloses.framed framed)
    refine ⟨before ++ after, by rw [grownSecond, grownFirst, List.append_assoc], ?_⟩
    rw [Machine.run_append, acceptedFirst]
    exact acceptedSecond
  · intro ctx w m stmt result queries stack encloses
    have target := encloses.active
    have accepted : ∀ p, hostOf site m ctx w = some p →
        (observer (wellFormed site.provider)).run stack
          [.executed m p (txFromContext ctx) stmt] = some stack := by
      intro p host
      have same := host.symm.trans (encloses.host m)
      refine observer_accepts _ ?_
      simp [wellFormed, wellNested, wellHosted, target, Option.some.inj same]
    cases queries with
    | unissued => exact ⟨[], by simp, rfl⟩
    | failed host => exact ⟨_, rfl, accepted _ host⟩
    | stored absent =>
      refine ⟨_, rfl, ?_⟩
      rw [← absent]
      exact accepted _ (by simp [hostOf, absent])
    | written active found =>
      refine ⟨_, rfl, ?_⟩
      rw [← active]
      exact accepted _ (by simp [hostOf, active, found])
  · intro ctx w later err stack _
    exact ⟨_, rfl, observer_accepts _ rfl⟩
  · intro ctx inner w m fn begun handle ran exit last same begins found _ framed body closes stack
      encloses
    have around := encloses.derived same
    have inside := around.begin begins
    obtain ⟨opened, -, handles, -, tracedBegun⟩ := begins.opens
    obtain ⟨events, tracedBody, accepted⟩ := body _ inside
    obtain ⟨-, -, tracedLast⟩ := closes.closes
    -- The handle of the block stands on the provider of the outermost block.
    have hosted : opened.provider = site.provider (outermost stack m) := by
      obtain ⟨fresh, base, held, -, last, provider, -⟩ := inside.based w.begun rfl
      rw [handles, update_self] at held
      rw [Option.some.inj held, provider, outermost_last last]
    refine ⟨.begun m opened.provider w.begun :: (events ++ .ended w.begun (inner.err ran.now) ::
      (closingEvents w.begun exit ++ [.exited (some w.begun) last.2])), ?_, ?_⟩
    · show last.1.trace ++ _ = _
      rw [tracedLast]
      simp [TxWorld.emit, tracedBody, tracedBegun]
    · have fresh := encloses.fresh
      rw [observer_accepts _ (by simpa [wellFormed, wellNested, wellHosted, hosted] using fresh)]
      rw [Machine.run_append]
      show ((observer _).run (⟨m, w.begun⟩ :: stack) events).bind _ = _
      rw [accepted]
      exact observer_closing (inner.err ran.now) exit last.2 fresh

/-- A write was issued to a provider, through the given transaction or to the provider itself. -/
def Issued (events : List (TxEvent Manager Provider Stmt)) (p : Provider) (write : Write Stmt) :
    Prop :=
  ∃ m, .executed m p write.tx write.stmt ∈ events

omit [DecidableEq Provider] in
/-- What was issued in a part was issued in the whole. -/
theorem Issued.mono {part whole : List (TxEvent Manager Provider Stmt)} {p : Provider}
    {write : Write Stmt} (issued : Issued part p write) (within : part ⊆ whole) :
    Issued whole p write := by
  -- The statement is among more events.
  obtain ⟨m, member⟩ := issued
  exact ⟨m, within member⟩

/--
Writes end up where they were issued.

A write that became durable on a provider was issued to it, and so was a write that the active
transaction may still commit there.
-/
structure Lands (ctx : TxContext) (w later : TxWorld Manager Provider Stmt)
    (events : List (TxEvent Manager Provider Stmt)) : Prop where
  grown : later.trace = w.trace ++ events
  durable : ∀ p, ∀ write ∈ later.durable p, write ∈ w.durable p ∨ Issued events p write
  work : ∀ tx handle, txFromContext ctx = some tx → w.handles tx = some handle →
    ∀ write ∈ later.work handle.root,
      write ∈ w.work handle.root ∨ Issued events handle.provider write

omit [DecidableEq Provider] in
/-- What changes no write lets every write be where it was. -/
theorem Lands.quiet {ctx : TxContext} {w later : TxWorld Manager Provider Stmt}
    {events : List (TxEvent Manager Provider Stmt)} (grown : later.trace = w.trace ++ events)
    (durable : later.durable = w.durable) (work : later.work = w.work) :
    Lands ctx w later events where
  -- No write is made anywhere.
  grown := grown
  durable := fun p write member => .inl (by rwa [durable] at member)
  work := fun tx handle _ _ write member => .inl (by rwa [work] at member)

omit [DecidableEq Provider] in
/-- One part after another lets writes land where they were issued. -/
theorem Lands.trans {ctx : TxContext} {w middle later : TxWorld Manager Provider Stmt}
    {stack : List (OpenBlock Manager)} {before after : List (TxEvent Manager Provider Stmt)}
    (encloses : Encloses site ctx w stack) (framed : Framed w middle)
    (first : Lands ctx w middle before) (second : Lands ctx middle later after) :
    Lands ctx w later (before ++ after) where
  -- A write was made by the first part, by the second, or was there before; the handle of the
  -- context outlives both.
  grown := by rw [second.grown, first.grown, List.append_assoc]
  durable := by
    intro p write member
    rcases second.durable p write member with earlier | now
    · rcases first.durable p write earlier with old | then_
      · exact .inl old
      · exact .inr (then_.mono (List.subset_append_left _ _))
    · exact .inr (now.mono (List.subset_append_right _ _))
  work := by
    intro tx handle active found write member
    have still := (framed.handles tx (encloses.active_lt active)).trans found
    rcases second.work tx handle active still write member with earlier | now
    · rcases first.work tx handle active found write earlier with old | then_
      · exact .inl old
      · exact .inr (then_.mono (List.subset_append_left _ _))
    · exact .inr (now.mono (List.subset_append_right _ _))

/-- A statement is written where it was issued, if it is written at all. -/
theorem Queries.lands {ctx : TxContext} {w : TxWorld Manager Provider Stmt} {m : Manager}
    {stmt : Stmt} {result : TxWorld Manager Provider Stmt × Except Err Result}
    (queries : Queries site m stmt ctx w result) : ∃ events, Lands ctx w result.1 events := by
  cases queries with
  | unissued => exact ⟨[], .quiet (List.append_nil _).symm rfl rfl⟩
  | failed host => exact ⟨_, .quiet rfl rfl rfl⟩
  | stored absent =>
    refine ⟨_, rfl, ?_, by simp [absent]⟩
    intro p write member
    rcases mem_update_append member with old | ⟨rfl, new⟩
    · exact .inl old
    · obtain rfl := List.mem_singleton.mp new
      exact .inr ⟨m, List.mem_cons_self⟩
  | @written later tx handle result active found =>
    refine ⟨_, rfl, fun p write member => .inl member, ?_⟩
    intro other outer named held write member
    -- The active transaction is the one that was written to.
    obtain rfl := Option.some.inj (active.symm.trans named)
    obtain rfl := Option.some.inj (found.symm.trans held)
    rcases mem_update_append member with old | ⟨-, new⟩
    · exact .inl old
    · obtain rfl := List.mem_singleton.mp new
      exact .inr ⟨m, List.mem_cons_self⟩

/-- A block lets the writes of its body land where they were issued, or undoes them. -/
theorem Closes.lands {ctx : TxContext} {w begun ran : TxWorld Manager Provider Stmt}
    {stack : List (OpenBlock Manager)} {m : Manager} {handle : TxHandle Provider Stmt}
    {err : Option Err} {exit : Exit} {last : TxWorld Manager Provider Stmt × Exit}
    {inside : List (TxEvent Manager Provider Stmt)} (encloses : Encloses site ctx w stack)
    (begins : Begins site m ctx w (begun, .ok w.begun))
    (found : begun.handles w.begun = some handle)
    (body : Lands (ctx.withValue .txKey w.begun) begun ran inside)
    (closes : Closes site ctx w.begun handle (ran.emit (.ended w.begun err)) exit last) :
    ∃ events, Lands ctx w (last.1.emit (.exited (some w.begun) last.2)) events := by
  obtain ⟨opened, -, -, -, tracedBegun⟩ := begins.opens
  -- The events of the body stand between those of the block.
  obtain ⟨events, grown, within⟩ : ∃ events,
      (last.1.emit (.exited (some w.begun) last.2)).trace = w.trace ++ events ∧
        inside ⊆ events := by
    refine ⟨.begun m opened.provider w.begun :: (inside ++ .ended w.begun err ::
      (closingEvents w.begun exit ++ [.exited (some w.begun) last.2])), ?_, ?_⟩
    · show last.1.trace ++ _ = _
      rw [closes.closes.2.2]
      simp [TxWorld.emit, body.grown, tracedBegun]
    · intro event member
      simp [member]
  have older : ∀ p, ∀ write ∈ ran.durable p, write ∈ w.durable p ∨ Issued inside p write := by
    intro p write member
    have held := body.durable p write member
    rwa [begins.durable] at held
  refine ⟨events, grown, ?_, ?_⟩
  · intro p write member
    have kept : write ∈ ran.durable p → write ∈ w.durable p ∨ Issued events p write :=
      fun member => (older p write member).imp id fun issued => issued.mono within
    cases closes with
    | committed sent top =>
      rcases mem_update_append member with before | ⟨rfl, written⟩
      · exact kept before
      · -- The root was opened with no writes, so its body has issued them all.
        have absent : txFromContext ctx = none := by
          by_contra enclosed
          have below := begins.root_lt encloses found enclosed
          omega
        have empty := (begins.top absent found).2
        have issued := body.work w.begun handle rfl found write (by rw [top]; exact written)
        rw [top, empty] at issued
        exact .inr ((issued.resolve_left (by simp)).mono within)
    | released | undone | dropped | leaked => exact kept member
  · intro tx outer active held write member
    obtain ⟨same, here, rfl, unchanged⟩ := begins.nested active found
    obtain rfl := Option.some.inj (held.symm.trans here)
    have below := begins.root_lt encloses found (by simp [active])
    have kept : write ∈ ran.work outer.root →
        write ∈ w.work outer.root ∨ Issued events outer.provider write := by
      intro member
      have issued := body.work w.begun _ rfl found write member
      rw [unchanged] at issued
      exact issued.imp id fun issued => issued.mono within
    cases closes with
    | committed sent top | dropped unsent top => omega
    | released | leaked => exact kept member
    | undone sent failed =>
      -- The connection is back where the block began.
      have member : write ∈ update ran.work outer.root (w.work outer.root) outer.root := member
      rw [update_self] at member
      exact .inl member

/-- Every program lets writes land where they were issued. -/
theorem runBody_lands (body : Body Manager Stmt Result) {ctx : TxContext}
    {w : TxWorld Manager Provider Stmt} {stack : List (OpenBlock Manager)}
    (encloses : Encloses site ctx w stack) :
    ∃ events, Lands ctx w (runBody site body ctx w).1 events := by
  -- One case for each thing that a body can do.
  revert encloses
  revert stack
  apply runBody_steps (R := fun ctx w later => ∀ {stack}, Encloses site ctx w stack →
    ∃ events, Lands ctx w later events)
  · intro ctx w stack _
    exact ⟨[], .quiet (List.append_nil _).symm rfl rfl⟩
  · intro ctx w middle later framed _ first second stack encloses
    obtain ⟨before, landed⟩ := first encloses
    obtain ⟨after, later⟩ := second (encloses.framed framed)
    exact ⟨before ++ after, landed.trans encloses framed later⟩
  · intro ctx w m stmt result queries stack _
    exact queries.lands
  · intro ctx w later err stack _
    exact ⟨_, .quiet rfl rfl rfl⟩
  · intro ctx inner w m fn begun handle ran exit last same begins found _ _ body closes stack
      encloses
    -- A block lands what its body has issued, by way of its commit.
    have around := encloses.derived same
    obtain ⟨inside, landed⟩ := body (around.begin begins)
    obtain ⟨events, whole⟩ := closes.lands around begins found landed
    refine ⟨events, whole.grown, whole.durable, ?_⟩
    intro tx outer active
    exact whole.work tx outer (same.trans active)

/--
Every statement and every block happens on the provider of the outermost enclosing block.

A manager's own provider is used when no block encloses the call, whoever opened it. What became
durable on a provider is what was executed there.
-/
theorem work_follows_outermost (site : Site Manager Provider Stmt Result)
    (body : Body Manager Stmt Result) (ctx : TxContext) (outside : txFromContext ctx = none)
    (w : TxWorld Manager Provider Stmt) :
    ∃ events, (runBody site body ctx w).1.trace = w.trace ++ events ∧
      (observer (wellHosted site.provider)).run [] events = some [] ∧
      ∀ p, ∀ write ∈ (runBody site body ctx w).1.durable p, write ∈ w.durable p ∨
        ∃ m, .executed m p write.tx write.stmt ∈ events := by
  -- The start context carries no transaction, so the observer starts with no block.
  have encloses : Encloses site ctx w [] := .outside outside w
  obtain ⟨events, grown, accepted⟩ := runBody_observed body ctx w [] encloses
  obtain ⟨same, landed⟩ := runBody_lands body encloses
  obtain rfl : events = same := List.append_cancel_left (grown.symm.trans landed.grown)
  refine ⟨events, grown, observer_weaken ?_ accepted, landed.durable⟩
  intro stack event passed
  exact (Bool.and_eq_true _ _ ▸ passed : _ ∧ _).2

end Observer

/-- Two managers, each over a database of its own that accepts every statement. -/
def twoDatabases : Site Bool Bool String Unit where
  provider := id
  respond := fun _ _ _ => .ok ()
  contextDone := fun _ err => err.annotate "context already done"

/-- A block of one manager around a statement and a block of the other. -/
def crossing : Body Bool String Unit :=
  .withTx false none none none
    (.exec true "insert" none fun _ =>
      .withTx true none none none (.exec true "update" none fun _ => .ret none) .ret) .ret

/-- The crossing program is observed from outside any block. -/
theorem work_follows_outermost_crossing :
    txFromContext .background = none ∧
      ∃ events, (runBody twoDatabases crossing .background TxWorld.init).1.trace = [] ++ events ∧
        (observer (wellHosted twoDatabases.provider)).run [] events = some [] ∧
        ∀ p, ∀ write ∈ (runBody twoDatabases crossing .background TxWorld.init).1.durable p,
          write ∈ [] ∨ ∃ m, .executed m p write.tx write.stmt ∈ events :=
  ⟨rfl, work_follows_outermost twoDatabases crossing .background rfl TxWorld.init⟩

/-- A statement and a savepoint of one manager land on the database of the other. -/
theorem work_captured :
    twoDatabases.provider true ≠ twoDatabases.provider false ∧
      .executed true (twoDatabases.provider false) (some 0) "insert" ∈
        (runBody twoDatabases crossing .background TxWorld.init).1.trace ∧
      .begun true (twoDatabases.provider false) 1 ∈
        (runBody twoDatabases crossing .background TxWorld.init).1.trace ∧
      (runBody twoDatabases crossing .background TxWorld.init).1.durable
        (twoDatabases.provider false) = [⟨some 0, "insert"⟩, ⟨some 1, "update"⟩] ∧
      (runBody twoDatabases crossing .background TxWorld.init).1.durable
        (twoDatabases.provider true) = [] := by
  decide +kernel

end Bootkit
