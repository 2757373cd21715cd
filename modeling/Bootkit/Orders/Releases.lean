import Bootkit.Orders.Locks
import Bootkit.Orders.Shop

/-! Row locks are held by transactions that can go on, and given back after a few steps. -/

namespace Bootkit.Orders

open Go

variable {s next : State} {r : Nat}

/-- The row that a transaction works on behind its wait for the lock. -/
def Phase.transaction : Phase → Option Int
  | .locked productID _ _ | .decremented productID _ _ _ | .inserted productID _ _
  | .failing productID _ _ | .lingering productID _ _ _ => some productID
  | _ => none

/-- How many steps of its own a request takes at most until nothing is left to do for it. -/
def Phase.remaining : Phase → Nat
  | .idle => 9
  | .called _ => 8
  | .begun _ _ => 5
  | .locked _ _ _ => 4
  | .decremented _ _ _ _ => 3
  | .missed _ | .inserted _ _ _ | .failing _ _ _ => 2
  | .loaded _ _ _ | .lingering _ _ _ _ | .committed _ _ _ => 1
  | .rejected _ | .answered _ _ => 0

/-- Who holds the lock of a row is in a transaction on it. -/
structure Owned (s : State) : Prop where
  locked : Locked s
  inside : ∀ id holder, s.locks id = some holder → (s.requests holder).transaction = some id

/-- Giving every lock back leaves none. -/
theorem unlock_self (s : State) (r : Nat) (id : Int) : (s.unlock r).locks id ≠ some r := by
  -- All locks of the request are given up.
  simp only [State.unlock]
  split
  · simp
  · assumption

/-- Giving locks back gives none to the others. -/
theorem unlock_held {id : Int} {holder : Nat} (held : (s.unlock r).locks id = some holder) :
    s.locks id = some holder := by
  -- No lock is taken.
  simp only [State.unlock] at held
  split at held
  · cases held
  · exact held

/-- A step of one request gives no lock to another. -/
theorem Move.held {action : Action} (moved : Move s r action next) {id : Int} {holder : Nat}
    (apart : holder ≠ r) (held : next.locks id = some holder) : s.locks id = some holder := by
  -- A request takes locks for itself.
  cases moved with
  | @lock productID _ _ _ _ _ =>
    have held : update s.locks productID (some r) id = some holder := held
    by_cases same : id = productID
    · subst same
      rw [update_self] at held
      exact absurd (Option.some.inj held).symm apart
    · rwa [update_other _ _ same] at held
  | commit | apply | rollback | discard => exact unlock_held held
  | _ => exact held

/-- An operation that fails inside a transaction leaves it on the same row. -/
theorem Fails.transaction {err : Err} {before after : Phase} (fails : Fails err before after)
    {id : Int} (inside : before.transaction = some id) : after.transaction = some id := by
  cases fails <;> first | exact inside | cases inside

/-- A request that keeps a lock through its step is still in the transaction. -/
theorem Move.owned {action : Action} (moved : Move s r action next) (owned : Owned s) {id : Int}
    (held : next.locks id = some r) : (next.requests r).transaction = some id := by
  -- Locks are taken behind the wait, and all of them are given back at the end.
  cases moved with
  | @lock productID quantity product phase _ _ =>
    rw [State.move_self]
    have held : update s.locks productID (some r) id = some r := held
    by_cases same : id = productID
    · rw [same]
      rfl
    · rw [update_other _ _ same] at held
      have before := owned.inside id r held
      rw [phase] at before
      cases before
  | commit | apply | rollback | discard => exact absurd held (unlock_self _ r id)
  | fail _ fails =>
    rw [State.move_self]
    exact fails.transaction (owned.inside id r held)
  | notReady phase | insertProduct phase | cacheHit phase | cacheMiss phase | cacheError phase
  | noProduct phase | load phase | populate phase | populateFails phase | begin phase
  | unknownProduct phase | insufficient phase | decrement phase | insertOrder phase
  | commitFails phase | rollbackFails phase | invalidate phase | invalidateFails phase
  | noOrder phase | readOrder phase | getPanics phase | setPanics phase | deletePanics phase =>
    have before := owned.inside id r held
    rw [phase] at before
    rw [State.move_self]
    first | exact before | cases before

/-- A step of anybody leaves the locks with transactions. -/
theorem Step.owned {label : Label} (owned : Owned s) (stepped : Step s label next) :
    Owned next := by
  have frame := stepped.frame owned.locked
  refine ⟨stepped.locked owned.locked, ?_⟩
  intro id holder held
  cases stepped with
  | tick d | connect | evict key => exact owned.inside id holder held
  | @receive r http phase =>
    have before := owned.inside id holder held
    -- A request that is only now received cannot hold anything.
    have apart : holder ≠ r := by
      rintro rfl
      rw [phase] at before
      cases before
    rwa [frame.requests holder (by simpa [Label.mover] using apart)]
  | @act r action _ moved =>
    by_cases same : holder = r
    · subst same
      exact moved.owned owned held
    · rw [frame.requests holder (by simpa [Label.mover] using same)]
      exact owned.inside id holder (moved.held same held)

/-- In every run the locks are held by transactions. -/
theorem owned_run {labels : List Label} (reached : machine.run State.init labels = some s) :
    Owned s := by
  -- Nobody holds a lock at first, and every step keeps that locks are owned.
  have start : machine.run State.init [] = some State.init := rfl
  have initial : Owned State.init := by
    refine ⟨locked_run start, ?_⟩
    intro id holder held
    cases held
  have keeps : ∀ (state : State) (label : Label) (after : State), Owned state →
      machine.step state label = some after → Owned after := by
    intro state label after owned taken
    exact (step_cases taken).owned owned
  exact machine.run_invariant initial keeps reached

/-- An operation that fails brings its request closer to its end. -/
theorem Fails.remaining {err : Err} {before after : Phase} (fails : Fails err before after) :
    after.remaining < before.remaining := by
  cases fails <;> simp [Phase.remaining]

/-- Every step of a request brings it closer to its end. -/
theorem Move.remaining {action : Action} (moved : Move s r action next) :
    (next.requests r).remaining < (s.requests r).remaining := by
  -- The phases of a request are in a line, and each move is one step along it.
  cases moved with
  | fail _ fails =>
    rw [State.move_self]
    exact fails.remaining
  | notReady phase | insertProduct phase | cacheHit phase | cacheMiss phase | cacheError phase
  | noProduct phase | load phase | populate phase | populateFails phase | begin phase
  | unknownProduct phase | lock phase | insufficient phase | decrement phase | insertOrder phase
  | commit phase | commitFails phase | rollback phase | rollbackFails phase | apply phase
  | discard phase | invalidate phase | invalidateFails phase | noOrder phase | readOrder phase
  | getPanics phase | setPanics phase | deletePanics phase =>
    rw [State.move_self, phase]
    simp [Phase.remaining]

/-- The steps of a request use up what remains for it, and nobody else adds to it. -/
theorem remaining_spent (r : Nat) :
    machine.Spends Owned (fun s => (s.requests r).remaining)
      (fun label => label.mover = some r) := by
  -- A step of the request itself pays, and the others do not move it.
  intro state label after owned taken
  have stepped : Step state label after := step_cases taken
  refine ⟨stepped.owned owned, ?_⟩
  by_cases mine : label.mover = some r
  · simp only [mine, decide_true, Bool.toNat_true]
    rcases stepped.own mine with ⟨http, -, phase, rfl⟩ | ⟨action, -, moved⟩
    · rw [State.move_self, phase]
      cases handle http <;> simp [Phase.entered, Phase.remaining]
    · exact moved.remaining
  · simp only [mine, decide_false, Bool.toNat_false, Nat.add_zero]
    rw [(stepped.frame owned.locked).requests r (Ne.symm mine)]

/-- A transaction behind its wait can always take a step, whatever the others hold. -/
theorem transaction_enabled {id : Int} (inside : (s.requests r).transaction = some id) :
    ∃ action after, machine.step s (.act r action) = some after := by
  -- A statement that is refused fails, and a transaction that has failed is rolled back.
  have known : foreign (.new canceled) = true := by decide
  cases phase : s.requests r with
  | locked productID quantity product =>
    by_cases short : product.stock < quantity
    · exact ⟨.decrement, _, by simp [machine, step, actStep, phase, short]; rfl⟩
    · exact ⟨.fail (.new canceled), _,
        by simp [machine, step, actStep, known, failed, phase, short]; rfl⟩
  | decremented productID quantity product row =>
    exact ⟨.fail (.new canceled), _, by simp [machine, step, actStep, known, failed, phase]; rfl⟩
  | inserted productID quantity writes =>
    exact ⟨.commit, _, by simp [machine, step, actStep, phase]; rfl⟩
  | failing productID quantity err =>
    exact ⟨.rollback none, _, by simp [machine, step, actStep, phase]; rfl⟩
  | lingering productID quantity writes err =>
    exact ⟨.settle false, _, by cases writes <;> simp [machine, step, actStep, phase] <;> rfl⟩
  | _ =>
    rw [phase] at inside
    cases inside

/-- A transaction has at most four steps left, and at least one. -/
theorem transaction_remaining {phase : Phase} {id : Int} (inside : phase.transaction = some id) :
    1 ≤ phase.remaining ∧ phase.remaining ≤ 4 := by
  cases phase <;> simp [Phase.transaction] at inside <;> simp [Phase.remaining]

/--
Orders never block each other for good: whoever holds the lock of a row is in a transaction on that
row and holds no other lock. Without any step of the others it can go on until it has given the lock
back, and whatever they do, it keeps the lock for three more steps of its own at most. What Postgres
does for a lost connection counts as a step of the request that lost it.
-/
theorem locks_are_given_back (labels : List Label) (s : State)
    (reached : machine.run State.init labels = some s) (id : Int) (holder : Nat)
    (held : s.locks id = some holder) :
    (s.requests holder).transaction = some id ∧
    (∀ other, s.locks other = some holder → other = id) ∧
    (∃ rest t, (∀ label ∈ rest, label.mover = some holder) ∧
      machine.run s rest = some t ∧ t.locks id ≠ some holder) ∧
    ∀ rest t, machine.run s rest = some t → t.locks id = some holder →
      rest.countP (fun label => label.mover = some holder) ≤ 3 := by
  have owned := owned_run reached
  have inside := owned.inside id holder held
  refine ⟨inside, ?_, ?_, ?_⟩
  · intro other alsoHeld
    have elsewhere := owned.inside other holder alsoHeld
    rw [inside] at elsewhere
    exact (Option.some.inj elsewhere).symm
  · -- As long as it holds the lock it is in the transaction, where a step is always possible.
    have enabled : ∀ state, Owned state → ¬ state.locks id ≠ some holder →
        ∃ label next, decide (label.mover = some holder) = true ∧
          machine.step state label = some next := by
      intro state owned still
      have working := owned.inside id holder (not_not.mp still)
      obtain ⟨action, next, taken⟩ := transaction_enabled working
      exact ⟨.act holder action, next, by simp [Label.mover], taken⟩
    obtain ⟨rest, t, all, later, free⟩ := (remaining_spent holder).reaches enabled owned
    exact ⟨rest, t, fun label among => by simpa using all label among, later, free⟩
  · -- What remains at the end is at least one step, and at the beginning at most four.
    intro rest t later still
    have whole : machine.run State.init (labels ++ rest) = some t := by
      rw [machine.run_append, reached]
      exact later
    have spent := (remaining_spent holder).bound owned later
    have start := (transaction_remaining inside).2
    have finish := (transaction_remaining ((owned_run whole).inside id holder still)).1
    omega

/-- Of two customers for the last piece, the one that is first makes the other one wait briefly. -/
theorem locks_are_given_back_race : ∃ s, machine.run State.init (raceForLast.take 8) = some s ∧
    s.locks 7 = some 1 ∧ (s.requests 1).transaction = some 7 ∧
    ∀ rest t, machine.run s rest = some t → t.locks 7 = some 1 →
      rest.countP (fun label => label.mover = some 1) ≤ 3 := by
  -- The first order of the race has the row locked after eight steps.
  obtain ⟨s, reached, held⟩ := machine.run_observe State.init (raceForLast.take 8)
    (fun s => s.locks 7 = some 1) (by decide +kernel)
  have law := locks_are_given_back _ s reached 7 1 held
  exact ⟨s, reached, held, law.1, law.2.2.2⟩

end Bootkit.Orders
