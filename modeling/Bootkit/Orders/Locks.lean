import Bootkit.Orders.Moves

/-! The lock of a row keeps what its transaction has read and written up to date. -/

namespace Bootkit.Orders

open Go

variable {s next : State} {r : Nat}

/-- What a transaction has written to a row is the committed row with that much less stock. -/
structure Drawn (s : State) (productID quantity : Int) (product : Product) (row : Option Product) :
    Prop where
  read : s.products productID = some product
  enough : quantity ≤ product.stock
  written : row = some { product with stock := product.stock - quantity }

/-- The order that a transaction has written is for the product and the quantity asked for. -/
structure Orderly (product : Product) (productID quantity : Int) (order : Order) : Prop where
  ofProduct : order.productID = productID
  ofQuantity : order.quantity = quantity
  positive : 0 < quantity
  total : order.total = totalOf product quantity
  charged : 0 ≤ totalOf product quantity

/-- A transaction that can be committed. -/
def Complete (s : State) (productID quantity : Int) (writes : Writes) : Prop :=
  ∃ product, Drawn s productID quantity product writes.row ∧
    Orderly product productID quantity writes.order

/-- The transaction of a phase holds its lock, and what it knows of the row is up to date. -/
def Phase.Holds (s : State) (r : Nat) : Phase → Prop
  | .locked productID _ product =>
    s.locks productID = some r ∧ s.products productID = some product
  | .decremented productID quantity product row =>
    s.locks productID = some r ∧ Drawn s productID quantity product row
  | .inserted productID quantity writes =>
    s.locks productID = some r ∧ Complete s productID quantity writes
  | .lingering productID quantity (some writes) _ =>
    s.locks productID = some r ∧ Complete s productID quantity writes
  | _ => True

/-- A row is stored under its own number, and the constraints of the table hold. -/
structure Stored (id : Int) (product : Product) : Prop where
  number : product.id = id
  price : 0 ≤ product.price
  stock : 0 ≤ product.stock

/-- Every row is stored as it should be, and every transaction holds what it needs. -/
structure Locked (s : State) : Prop where
  stored : ∀ id product, s.products id = some product → Stored id product
  holds : ∀ r, (s.requests r).Holds s r

/-- What a step of one request, or of none, leaves to the transactions of the others. -/
structure Frame (s next : State) (mover : Option Nat) : Prop where
  requests : ∀ other, some other ≠ mover → next.requests other = s.requests other
  locks : ∀ id other, some other ≠ mover → s.locks id = some other → next.locks id = some other
  -- A row that is stored and locked by somebody else is not written.
  rows : ∀ id other product, some other ≠ mover → s.locks id = some other →
    s.products id = some product → next.products id = some product

/-- What a transaction has written stays right while its row does. -/
theorem Complete.keep {productID quantity : Int} {writes : Writes}
    (complete : Complete s productID quantity writes)
    (rows : ∀ product, s.products productID = some product →
      next.products productID = some product) :
    Complete next productID quantity writes := by
  -- The row that was read is still there.
  obtain ⟨product, drawn, orderly⟩ := complete
  exact ⟨product, ⟨rows product drawn.read, drawn.enough, drawn.written⟩, orderly⟩

/-- A step of somebody else leaves a transaction what it holds. -/
theorem Phase.Holds.keep {phase : Phase} {other : Nat} {mover : Option Nat}
    (holds : phase.Holds s other) (frame : Frame s next mover) (apart : some other ≠ mover) :
    phase.Holds next other := by
  -- Another request neither takes the lock nor writes to a row under it.
  have lock : ∀ id, s.locks id = some other → next.locks id = some other :=
    fun id held => frame.locks id other apart held
  have row : ∀ id, s.locks id = some other → ∀ product, s.products id = some product →
      next.products id = some product :=
    fun id held product found => frame.rows id other product apart held found
  cases phase with
  | locked productID quantity product =>
    exact ⟨lock productID holds.1, row productID holds.1 product holds.2⟩
  | decremented productID quantity product written =>
    obtain ⟨held, drawn⟩ := holds
    exact ⟨lock productID held, row productID held product drawn.read, drawn.enough,
      drawn.written⟩
  | inserted productID quantity writes =>
    exact ⟨lock productID holds.1, holds.2.keep (row productID holds.1)⟩
  | lingering productID quantity writes err =>
    cases writes with
    | none => trivial
    | some writes => exact ⟨lock productID holds.1, holds.2.keep (row productID holds.1)⟩
  | _ => trivial

/-- A step that leaves the tables and the locks alone. -/
theorem Frame.quiet {mover : Option Nat}
    (requests : ∀ other, some other ≠ mover → next.requests other = s.requests other)
    (locks : next.locks = s.locks) (products : next.products = s.products) :
    Frame s next mover where
  -- Neither locks nor rows change.
  requests := requests
  locks := fun _ _ _ held => by rw [locks, held]
  rows := fun _ _ _ _ _ found => by rw [products, found]

/-- Another request is another one. -/
theorem other_of_mover {other : Nat} (apart : some other ≠ some r) : other ≠ r :=
  fun same => apart (congrArg some same)

/-- Giving locks back takes none from the others. -/
theorem unlock_other {id : Int} {other : Nat} (apart : other ≠ r)
    (locked : s.locks id = some other) : (s.unlock r).locks id = some other := by
  simp [State.unlock, locked, apart]

/-- A step that only gives locks back. -/
theorem Frame.unlock (s : State) (r : Nat) (phase : Phase) :
    Frame s ((s.unlock r).move r phase) (some r) where
  -- A request gives up its own locks only.
  requests := fun _ apart => State.move_other _ phase (other_of_mover apart)
  locks := fun _ _ apart held => unlock_other (other_of_mover apart) held
  rows := fun _ _ _ _ _ found => found

/-- The writes of a complete transaction change the row that it has locked, and no other. -/
theorem install_other {productID quantity id : Int} {writes : Writes}
    (locked : Locked s) (complete : Complete s productID quantity writes) (other : id ≠ productID) :
    (s.install writes).products id = s.products id := by
  -- The order writes to the row of its product.
  obtain ⟨product, drawn, -⟩ := complete
  have number : product.id = productID := (locked.stored productID product drawn.read).number
  simp [State.install, drawn.written, number, other]

/-- The row that a transaction has locked becomes the one that it has written. -/
theorem install_self {productID quantity : Int} {product : Product} {writes : Writes}
    (locked : Locked s) (drawn : Drawn s productID quantity product writes.row) :
    (s.install writes).products productID =
      some { product with stock := product.stock - quantity } := by
  -- The row written is the row read, with its stock lowered.
  have number : product.id = productID := (locked.stored productID product drawn.read).number
  simp [State.install, drawn.written, number]

/-- Making the writes of a transaction visible leaves the rows that the others have locked. -/
theorem Frame.install {productID quantity : Int} {writes : Writes} (phase : Phase)
    (locked : Locked s) (mine : s.locks productID = some r)
    (complete : Complete s productID quantity writes) :
    Frame s (((s.install writes).unlock r).move r phase) (some r) where
  requests := fun _ apart => State.move_other _ phase (other_of_mover apart)
  locks := fun _ _ apart held => unlock_other (s := s) (other_of_mover apart) held
  rows := by
    intro id other product apart held found
    -- A row has one holder, so the row of somebody else is another row.
    have elsewhere : id ≠ productID := by
      intro same
      rw [same, mine] at held
      exact apart held.symm
    exact (install_other locked complete elsewhere).trans found

/-- A step of a request leaves the transactions of the others alone. -/
theorem Move.frame {action : Action} (locked : Locked s) (moved : Move s r action next) :
    Frame s next (some r) := by
  have holds := locked.holds r
  cases moved with
  | @insertProduct _ _ _ number _ _ _ _ _ _ _ fresh _ =>
    refine ⟨fun _ apart => State.move_other _ _ (other_of_mover apart), fun _ _ _ held => held, ?_⟩
    intro id other product _ _ found
    -- The new row is stored where there was none.
    have elsewhere : id ≠ number := by
      intro same
      rw [same, fresh] at found
      cases found
    exact (update_other s.products _ elsewhere).trans found
  | @lock productID _ _ _ _ free =>
    refine ⟨fun _ apart => State.move_other _ _ (other_of_mover apart), ?_,
      fun _ _ _ _ _ found => found⟩
    intro id other _ held
    -- Postgres granted a row that nobody held.
    have unheld : s.locks productID = none := free
    have elsewhere : id ≠ productID := by
      intro same
      rw [same, unheld] at held
      cases held
    exact (update_other s.locks _ elsewhere).trans held
  | commit phase =>
    rw [phase] at holds
    exact Frame.install _ locked holds.1 holds.2
  | apply phase =>
    rw [phase] at holds
    exact Frame.install _ locked holds.1 holds.2
  | rollback => exact Frame.unlock s r _
  | discard => exact Frame.unlock s r _
  | _ => exact Frame.quiet (fun _ apart => State.move_other _ _ (other_of_mover apart)) rfl rfl

/-- An operation that fails leaves its request without anything to hold. -/
theorem Fails.holds {err : Err} {before after : Phase} (fails : Fails err before after) :
    after.Holds s r := by
  cases fails <;> trivial

/-- A step of a request leaves it with what its next phase needs. -/
theorem Move.holds {action : Action} (locked : Locked s) (moved : Move s r action next) :
    (next.requests r).Holds next r := by
  have holds := locked.holds r
  cases moved with
  | fail unknown fails =>
    rw [State.move_self]
    exact fails.holds
  | lock phase found free =>
    rw [State.move_self]
    exact ⟨update_self s.locks _ _, found⟩
  | decrement phase enough written =>
    rw [phase] at holds
    obtain ⟨mine, read⟩ := holds
    -- The row has not changed since it was read, so the statement uses the stock that was checked.
    rw [read, decrementStock] at written
    split at written
    · cases written
      rw [State.move_self]
      exact ⟨mine, read, enough, rfl⟩
    · cases written
  | insertOrder phase positive total fresh bounded =>
    rw [phase] at holds
    obtain ⟨mine, drawn⟩ := holds
    rw [State.move_self]
    exact ⟨mine, _, ⟨drawn.read, drawn.enough, drawn.written⟩, ⟨rfl, rfl, positive, rfl, total⟩⟩
  | commitFails phase unknown =>
    rw [phase] at holds
    obtain ⟨mine, complete⟩ := holds
    rw [State.move_self]
    exact ⟨mine, complete.keep fun _ found => found⟩
  | _ =>
    rw [State.move_self]
    trivial

/-- What a complete transaction writes is a row as it should be stored. -/
theorem install_stored {productID quantity : Int} {writes : Writes} (locked : Locked s)
    (complete : Complete s productID quantity writes) :
    ∀ id product, (s.install writes).products id = some product → Stored id product := by
  -- The stock was sufficient, so that it does not become negative.
  intro id product found
  by_cases same : id = productID
  · subst same
    obtain ⟨read, drawn, -⟩ := complete
    rw [install_self locked drawn] at found
    cases found
    have stored := locked.stored id read drawn.read
    exact ⟨stored.number, stored.price, Int.sub_nonneg_of_le drawn.enough⟩
  · rw [install_other locked complete same] at found
    exact locked.stored id product found

/-- A step of a request keeps every row as it should be stored. -/
theorem Move.stored {action : Action} (locked : Locked s) (moved : Move s r action next) :
    ∀ id product, next.products id = some product → Stored id product := by
  -- Three moves write to the rows: a new product, and an order by its commit or by a commit that
  -- took effect after all.
  have holds := locked.holds r
  cases moved with
  | @insertProduct _ _ _ number _ _ _ priced stocked _ _ _ _ =>
    intro id product found
    by_cases same : id = number
    · subst same
      obtain rfl := Option.some.inj ((update_self s.products _ _).symm.trans found)
      exact ⟨rfl, priced, stocked⟩
    · exact locked.stored id product ((update_other s.products _ same).symm.trans found)
  | commit phase =>
    rw [phase] at holds
    exact install_stored locked holds.2
  | apply phase =>
    rw [phase] at holds
    exact install_stored locked holds.2
  | _ => exact locked.stored

/-- Every step of the service leaves alone what it is not about. -/
theorem Step.frame {label : Label} (locked : Locked s) (stepped : Step s label next) :
    Frame s next label.mover := by
  -- Steps outside of requests touch neither requests nor locks nor rows.
  cases stepped with
  | tick d => exact Frame.quiet (fun _ _ => rfl) rfl rfl
  | connect => exact Frame.quiet (fun _ _ => rfl) rfl rfl
  | evict key => exact Frame.quiet (fun _ _ => rfl) rfl rfl
  | receive phase =>
    exact Frame.quiet (fun _ apart => State.move_other _ _ (other_of_mover apart)) rfl rfl
  | act moved => exact moved.frame locked

/-- Every step of the service keeps the transactions apart. -/
theorem Step.locked {label : Label} (locked : Locked s) (stepped : Step s label next) :
    Locked next := by
  have frame := stepped.frame locked
  -- Only the request that moves needs a look at its step.
  have own : ∀ r, label.mover = some r → (next.requests r).Holds next r := by
    intro r mine
    rcases stepped.own mine with ⟨http, rfl, -, rfl⟩ | ⟨action, rfl, moved⟩
    · rw [State.move_self]
      cases handle http <;> trivial
    · exact moved.holds locked
  refine ⟨?_, ?_⟩
  · cases stepped with
    | act moved => exact moved.stored locked
    | _ => exact locked.stored
  · intro r
    by_cases mine : some r = label.mover
    · exact own r mine.symm
    · rw [frame.requests r mine]
      exact (locked.holds r).keep frame mine

/-- In every run the transactions are kept apart. -/
theorem locked_run {labels : List Label} (reached : machine.run State.init labels = some s) :
    Locked s := by
  -- Nothing is stored and nobody holds a lock at first.
  have initial : Locked State.init := by
    refine ⟨?_, fun _ => trivial⟩
    intro id product found
    cases found
  exact machine.run_invariant initial
    (fun _ _ _ locked taken => (step_cases taken).locked locked) reached

/-- A request that was never received is idle. -/
theorem idle_run {labels : List Label} (reached : machine.run State.init labels = some s)
    (never : ∀ http, .receive r http ∉ labels) : s.requests r = .idle := by
  -- A request that was never received takes no step.
  refine machine.run_history (fun labels s => (∀ http, .receive r http ∉ labels) →
    s.requests r = .idle) (fun _ => rfl) ?_ labels s reached never
  intro labels state label next prior idle taken never
  have before : state.requests r = .idle :=
    idle fun http member => never http (List.mem_append_left _ member)
  have stepped : Step state label next := step_cases taken
  by_cases mine : label.mover = some r
  · rcases stepped.own mine with ⟨http, rfl, -, -⟩ | ⟨action, -, moved⟩
    · exact absurd (List.mem_append_right _ List.mem_cons_self) (never http)
    · have active := moved.active
      rw [before] at active
      cases active
  · rw [(stepped.frame (locked_run prior)).requests r (Ne.symm mine)]
    exact before

end Bootkit.Orders
