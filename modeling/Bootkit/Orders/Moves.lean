import Bootkit.Orders.Service

/-! What each step of a request can do, and the locks that keep transactions apart. -/

namespace Bootkit.Orders

open Go

variable {s next : State} {r : Nat}

/-- The operations that can fail, each with what the failure leads to. -/
inductive Fails (err : Err) : Phase → Phase → Prop
  | insertProduct (name : String) (price stock : Int) :
      Fails err (.called (.createProduct name price stock))
        (.answered (.createProduct name price stock) (.failed (err.annotate "insert product")))
  | begin (productID quantity : Int) : Fails err (.called (.createOrder productID quantity))
      (.answered (.createOrder productID quantity)
        (.failed (err.annotate "failed to begin transaction")))
  | selectOrder (id : Int) : Fails err (.called (.getOrder id))
      (.answered (.getOrder id) (.failed (scanOrder err)))
  | selectProduct (id : Int) : Fails err (.missed id)
      (.answered (.getProduct id) (.failed (scanProduct err)))
  | lockProduct (productID quantity : Int) : Fails err (.begun productID quantity)
      (.failing productID quantity (scanProduct err))
  | decrement (productID quantity : Int) (product : Product) :
      Fails err (.locked productID quantity product)
        (.failing productID quantity (err.annotate "decrement stock"))
  | insertOrder (productID quantity : Int) (product : Product) (row : Option Product) :
      Fails err (.decremented productID quantity product row)
        (.failing productID quantity (err.annotate "insert order"))

/-- What a failed operation leads to is one of these. -/
theorem failed_fails {err : Err} {before after : Phase} (failure : failed err before = some after) :
    Fails err before after := by
  -- Any statement can fail, and each phase with a statement out has one way to fail; the phase
  -- after the read of the row fails only if its check of the stock passes.
  cases before with
  | called request =>
    cases request with
    | createProduct name price stock => cases failure; exact .insertProduct name price stock
    | getProduct id => cases failure
    | createOrder productID quantity => cases failure; exact .begin productID quantity
    | getOrder id => cases failure; exact .selectOrder id
  | missed id => cases failure; exact .selectProduct id
  | begun productID quantity => cases failure; exact .lockProduct productID quantity
  | locked productID quantity product =>
    simp only [failed] at failure
    split at failure <;> cases failure
    exact .decrement productID quantity product
  | decremented productID quantity product row =>
    cases failure
    exact .insertOrder productID quantity product row
  | _ => cases failure

/-- The steps of one request, each with what it needs and what it leads to. -/
inductive Move (s : State) (r : Nat) : Action → State → Prop
  | notReady {productID quantity : Int} {err : Err}
      (phase : s.requests r = .called (.createOrder productID quantity))
      (unknown : foreign err = true) :
      Move s r (.notReady err) (s.move r (.answered (.createOrder productID quantity)
        (.failed (poolNotReady err))))
  | fail {phase : Phase} {err : Err} (unknown : foreign err = true)
      (fails : Fails err (s.requests r) phase) :
      Move s r (.fail err) (s.move r phase)
  | insertProduct {name : String} {price stock id : Int} {createdAt : Nat} {lost : Option Err}
      (phase : s.requests r = .called (.createProduct name price stock))
      (priced : 0 ≤ price) (stocked : 0 ≤ stock) (positive : 0 < id) (bounded : id < 2 ^ 63)
      (fresh : s.products id = none) (unknown : ∀ err, lost = some err → foreign err = true) :
      Move s r (.insertProduct id createdAt lost)
        ((s.store ⟨id, name, price, stock, createdAt⟩).move r
          (.answered (.createProduct name price stock)
            (lost.elim (.product ⟨id, name, price, stock, createdAt⟩) fun err =>
              .failed (err.annotate "insert product"))))
  | cacheHit {id : Int} {product : Product} (phase : s.requests r = .called (.getProduct id))
      (connected : s.client = true) (hit : s.cached id = some product) :
      Move s r .cacheHit (s.move r (.answered (.getProduct id) (.product product)))
  | cacheMiss {id : Int} (phase : s.requests r = .called (.getProduct id))
      (connected : s.client = true) (miss : s.cached id = none) :
      Move s r .cacheMiss (s.move r (.missed id))
  | cacheError {id : Int} (phase : s.requests r = .called (.getProduct id))
      (connected : s.client = true) : Move s r .cacheError (s.move r (.missed id))
  | noProduct {id : Int} (phase : s.requests r = .missed id) (absent : s.products id = none) :
      Move s r .selectProduct
        (s.move r (.answered (.getProduct id) (.failed (.new errNotFound))))
  | load {id : Int} {product : Product} (phase : s.requests r = .missed id)
      (found : s.products id = some product) :
      Move s r .selectProduct (s.move r (.loaded id product s.now))
  | populate {id : Int} {product : Product} {since : Nat}
      (phase : s.requests r = .loaded id product since) (connected : s.client = true) :
      Move s r (.cacheSet true)
        ((s.setCache (productCacheKey id) (some ⟨product, s.now + productCacheTTL⟩)).move r
          (.answered (.getProduct id) (.product product)))
  | populateFails {id : Int} {product : Product} {since : Nat}
      (phase : s.requests r = .loaded id product since) (connected : s.client = true) :
      Move s r (.cacheSet false) (s.move r (.answered (.getProduct id) (.product product)))
  | begin {productID quantity : Int}
      (phase : s.requests r = .called (.createOrder productID quantity)) :
      Move s r .begin (s.move r (.begun productID quantity))
  | unknownProduct {productID quantity : Int} (phase : s.requests r = .begun productID quantity)
      (absent : s.products productID = none) :
      Move s r .lockProduct (s.move r (.failing productID quantity (.new errNotFound)))
  | lock {productID quantity : Int} {product : Product}
      (phase : s.requests r = .begun productID quantity)
      (found : s.products productID = some product) (free : s.Grants productID) :
      Move s r .lockProduct
        ((s.lock productID r).move r (.locked productID quantity product))
  | insufficient {productID quantity : Int} {product : Product}
      (phase : s.requests r = .locked productID quantity product)
      (short : product.stock < quantity) :
      Move s r .decrement
        (s.move r (.failing productID quantity (insufficientStock product.stock quantity)))
  | decrement {productID quantity : Int} {product : Product} {row : Option Product}
      (phase : s.requests r = .locked productID quantity product)
      (enough : quantity ≤ product.stock)
      (written : decrementStock quantity (s.products productID) = some row) :
      Move s r .decrement (s.move r (.decremented productID quantity product row))
  | insertOrder {productID quantity id : Int} {product : Product} {row : Option Product}
      {createdAt : Nat} (phase : s.requests r = .decremented productID quantity product row)
      (positive : 0 < quantity) (total : 0 ≤ totalOf product quantity)
      (fresh : s.nextOrder ≤ id) (bounded : id < 2 ^ 63) :
      Move s r (.insertOrder id createdAt)
        ({ s with nextOrder := id + 1 }.move r (.inserted productID quantity
          ⟨row, ⟨id, productID, quantity, totalOf product quantity, createdAt⟩⟩))
  | commit {productID quantity : Int} {writes : Writes}
      (phase : s.requests r = .inserted productID quantity writes) :
      Move s r .commit
        (((s.install writes).unlock r).move r (.committed productID quantity writes.order))
  | commitFails {productID quantity : Int} {writes : Writes} {err : Err}
      (phase : s.requests r = .inserted productID quantity writes)
      (unknown : foreign err = true) :
      Move s r (.commitFails err) (s.move r (.lingering productID quantity (some writes)
        (err.annotate "failed to commit transaction")))
  | rollback {productID quantity : Int} {err : Err}
      (phase : s.requests r = .failing productID quantity err) :
      Move s r (.rollback none)
        ((s.unlock r).move r (.answered (.createOrder productID quantity) (.failed err)))
  | rollbackFails {productID quantity : Int} {err failure : Err}
      (phase : s.requests r = .failing productID quantity err)
      (unknown : foreign failure = true) :
      Move s r (.rollback (some failure))
        (s.move r (.lingering productID quantity none (rolledBack err (some failure))))
  | apply {productID quantity : Int} {writes : Writes} {err : Err}
      (phase : s.requests r = .lingering productID quantity (some writes) err) :
      Move s r (.settle true)
        (((s.install writes).unlock r).move r
          (.answered (.createOrder productID quantity) (.failed err)))
  | discard {productID quantity : Int} {writes : Option Writes} {err : Err}
      (phase : s.requests r = .lingering productID quantity writes err) :
      Move s r (.settle false)
        ((s.unlock r).move r (.answered (.createOrder productID quantity) (.failed err)))
  | invalidate {productID quantity : Int} {order : Order}
      (phase : s.requests r = .committed productID quantity order) (connected : s.client = true) :
      Move s r (.invalidate true)
        ((s.setCache (productCacheKey productID) none).move r
          (.answered (.createOrder productID quantity) (.order order)))
  | invalidateFails {productID quantity : Int} {order : Order}
      (phase : s.requests r = .committed productID quantity order) (connected : s.client = true) :
      Move s r (.invalidate false)
        (s.move r (.answered (.createOrder productID quantity) (.order order)))
  | noOrder {id : Int} (phase : s.requests r = .called (.getOrder id))
      (absent : s.orders.find? (·.id = id) = none) :
      Move s r .selectOrder (s.move r (.answered (.getOrder id) (.failed (.new errNotFound))))
  | readOrder {id : Int} {order : Order} (phase : s.requests r = .called (.getOrder id))
      (found : s.orders.find? (·.id = id) = some order) :
      Move s r .selectOrder (s.move r (.answered (.getOrder id) (.order order)))
  | getPanics {id : Int} (phase : s.requests r = .called (.getProduct id))
      (unconnected : s.client = false) :
      Move s r .panic (s.move r (.answered (.getProduct id) .panicked))
  | setPanics {id : Int} {product : Product} {since : Nat}
      (phase : s.requests r = .loaded id product since) (unconnected : s.client = false) :
      Move s r .panic (s.move r (.answered (.getProduct id) .panicked))
  | deletePanics {productID quantity : Int} {order : Order}
      (phase : s.requests r = .committed productID quantity order)
      (unconnected : s.client = false) :
      Move s r .panic (s.move r (.answered (.createOrder productID quantity) .panicked))

/-- The error of a query without a row is the domain's own. -/
theorem scanErr_noRows (label : String) : scanErr label (.new errNoRows) = .new errNotFound := by
  simp [scanErr, Err.is]

section Inversion

/-- An order is answered at once if the pool does not get ready. -/
theorem move_notReady {err : Err} (taken : actStep s r (.notReady err) = some next) :
    Move s r (.notReady err) next := by
  -- The gate refuses before the transaction begins, with an error of its own.
  simp only [actStep] at taken
  split at taken
  · next productID quantity phase =>
    split at taken
    · next unknown =>
      cases taken
      exact .notReady phase unknown
    · cases taken
  · cases taken

/-- An operation on Postgres that fails is one of those that are waited for. -/
theorem move_fail {err : Err} (taken : actStep s r (.fail err) = some next) :
    Move s r (.fail err) next := by
  -- The error is none that the service knows, and the phase says what becomes of it.
  simp only [actStep] at taken
  split at taken
  · next unknown =>
    obtain ⟨phase, failure, rfl⟩ := Option.map_eq_some_iff.mp taken
    exact .fail unknown (failed_fails failure)
  · cases taken

/-- A product is inserted with what Postgres checks of it. -/
theorem move_insertProduct {id : Int} {createdAt : Nat} {lost : Option Err}
    (taken : actStep s r (.insertProduct id createdAt lost) = some next) :
    Move s r (.insertProduct id createdAt lost) next := by
  -- The checks of the table and the fresh id are the premises of the row.
  simp only [actStep] at taken
  split at taken
  · next name price stock phase =>
    split at taken
    · next allowed =>
      obtain ⟨⟨priced, stocked, positive, bounded, fresh⟩, unknown⟩ := allowed
      cases taken
      exact .insertProduct phase priced stocked positive bounded fresh
        (fun err reply => by simpa [reply] using unknown)
    · cases taken
  · cases taken

/-- The cache answers a read with what it has. -/
theorem move_cacheHit (taken : actStep s r .cacheHit = some next) : Move s r .cacheHit next := by
  -- A nil client has no answer; the entry is one that has not expired.
  simp only [actStep] at taken
  split at taken
  · next id phase =>
    split at taken
    · next connected =>
      obtain ⟨product, hit, rfl⟩ := Option.map_eq_some_iff.mp taken
      exact .cacheHit phase connected hit
    · cases taken
  · cases taken

/-- The cache has nothing to answer with. -/
theorem move_cacheMiss (taken : actStep s r .cacheMiss = some next) :
    Move s r .cacheMiss next := by
  -- The entry is absent or has expired.
  simp only [actStep] at taken
  split at taken
  · next id phase =>
    split at taken
    · next missed =>
      cases taken
      exact .cacheMiss phase missed.1 missed.2
    · cases taken
  · cases taken

/-- The cache fails to answer. -/
theorem move_cacheError (taken : actStep s r .cacheError = some next) :
    Move s r .cacheError next := by
  -- Any other error of the cache is a miss to the service.
  simp only [actStep] at taken
  split at taken
  · next id phase =>
    split at taken
    · next connected =>
      cases taken
      exact .cacheError phase connected
    · cases taken
  · cases taken

/-- A product is read from its table, or is not there. -/
theorem move_selectProduct (taken : actStep s r .selectProduct = some next) :
    Move s r .selectProduct next := by
  -- No rows become the error for a missing product.
  simp only [actStep, scanProduct, scanErr_noRows] at taken
  split at taken
  · next id phase =>
    split at taken
    · next absent =>
      cases taken
      exact .noProduct phase absent
    · next product found =>
      cases taken
      exact .load phase found
  · cases taken

/-- What was read is put into the cache, or not. -/
theorem move_cacheSet {stored : Bool} (taken : actStep s r (.cacheSet stored) = some next) :
    Move s r (.cacheSet stored) next := by
  -- Whether the write succeeds makes no difference to the answer.
  simp only [actStep] at taken
  split at taken
  · next id product since phase =>
    split at taken
    · next connected =>
      cases stored <;> cases taken
      · exact .populateFails phase connected
      · exact .populate phase connected
    · cases taken
  · cases taken

/-- A transaction is opened for an order. -/
theorem move_begin (taken : actStep s r .begin = some next) : Move s r .begin next := by
  -- A transaction is begun by an order and by nothing else.
  simp only [actStep] at taken
  split at taken
  · next productID quantity phase =>
    cases taken
    exact .begin phase
  · cases taken

/-- A row is locked once Postgres grants it, or is not there. -/
theorem move_lockProduct (taken : actStep s r .lockProduct = some next) :
    Move s r .lockProduct next := by
  -- The read waits while another transaction has the row; without a row there is nothing to wait
  -- for.
  simp only [actStep, scanProduct, scanErr_noRows] at taken
  split at taken
  · next productID quantity phase =>
    split at taken
    · next absent =>
      cases taken
      exact .unknownProduct phase absent
    · next product found =>
      split at taken
      · next free =>
        cases taken
        exact .lock phase found free
      · cases taken
  · cases taken

/-- The stock is too low, or the row is written with less of it. -/
theorem move_decrement (taken : actStep s r .decrement = some next) :
    Move s r .decrement next := by
  -- The service compares before it writes.
  simp only [actStep] at taken
  split at taken
  · next productID quantity product phase =>
    split at taken
    · next short =>
      cases taken
      exact .insufficient phase short
    · next enough =>
      obtain ⟨row, written, rfl⟩ := Option.map_eq_some_iff.mp taken
      exact .decrement phase (by omega) written
  · cases taken

/-- An order is inserted with what Postgres checks of it. -/
theorem move_insertOrder {id : Int} {createdAt : Nat}
    (taken : actStep s r (.insertOrder id createdAt) = some next) :
    Move s r (.insertOrder id createdAt) next := by
  -- The checks of the table and the fresh id are the premises of the row.
  simp only [actStep] at taken
  split at taken
  · next productID quantity product row phase =>
    split at taken
    · next allowed =>
      obtain ⟨positive, total, fresh, bounded⟩ := allowed
      cases taken
      exact .insertOrder phase positive total fresh bounded
    · cases taken
  · cases taken

/-- A transaction is committed. -/
theorem move_commit (taken : actStep s r .commit = some next) : Move s r .commit next := by
  -- Only a transaction with both writes is committed.
  simp only [actStep] at taken
  split at taken
  · next productID quantity writes phase =>
    cases taken
    exact .commit phase
  · cases taken

/-- A commit fails for the client, whatever the server makes of it. -/
theorem move_commitFails {err : Err} (taken : actStep s r (.commitFails err) = some next) :
    Move s r (.commitFails err) next := by
  -- After a failed commit the transaction may or may not have taken effect.
  simp only [actStep] at taken
  split at taken
  · next productID quantity writes phase =>
    split at taken
    · next unknown =>
      cases taken
      exact .commitFails phase unknown
    · cases taken
  · cases taken

/-- A transaction is rolled back, or its client gives it up. -/
theorem move_rollback {failure : Option Err}
    (taken : actStep s r (.rollback failure) = some next) : Move s r (.rollback failure) next := by
  -- A rollback that fails leaves its transaction to the server.
  simp only [actStep] at taken
  split at taken
  · next productID quantity err phase =>
    cases failure with
    | none =>
      cases taken
      exact .rollback phase
    | some failure =>
      simp only at taken
      split at taken
      · next unknown =>
        cases taken
        exact .rollbackFails phase unknown
      · cases taken
  · cases taken

/-- The server ends a transaction that was given up, and applies it only if it was asked to. -/
theorem move_settle {applied : Bool} (taken : actStep s r (.settle applied) = some next) :
    Move s r (.settle applied) next := by
  -- The server ends what was left to it; it can apply only what it was asked to commit.
  simp only [actStep] at taken
  split at taken
  · next productID quantity writes err phase =>
    cases applied with
    | false =>
      cases taken
      exact .discard phase
    | true =>
      cases writes with
      | none => cases taken
      | some writes =>
        cases taken
        exact .apply phase
  · cases taken

/-- The cached product is dropped behind the commit, or not. -/
theorem move_invalidate {deleted : Bool}
    (taken : actStep s r (.invalidate deleted) = some next) :
    Move s r (.invalidate deleted) next := by
  -- Whether the delete succeeds makes no difference to the answer.
  simp only [actStep] at taken
  split at taken
  · next productID quantity order phase =>
    split at taken
    · next connected =>
      cases deleted <;> cases taken
      · exact .invalidateFails phase connected
      · exact .invalidate phase connected
    · cases taken
  · cases taken

/-- An order is read from its table, or is not there. -/
theorem move_selectOrder (taken : actStep s r .selectOrder = some next) :
    Move s r .selectOrder next := by
  -- No rows become the error for a missing order.
  simp only [actStep, scanOrder, scanErr_noRows] at taken
  split at taken
  · next id phase =>
    cases found : s.orders.find? (·.id = id) with
    | none =>
      rw [found] at taken
      cases taken
      exact .noOrder phase found
    | some order =>
      rw [found] at taken
      cases taken
      exact .readOrder phase found
  · cases taken

/-- An operation of the cache panics while the cache has no client. -/
theorem move_panic (taken : actStep s r .panic = some next) : Move s r .panic next := by
  simp only [actStep] at taken
  split at taken
  · next request unconnected caches =>
    cases taken
    -- Three phases wait for the cache.
    unfold Phase.caches at caches
    split at caches <;> cases caches
    · exact .getPanics (by assumption) unconnected
    · exact .setPanics (by assumption) unconnected
    · exact .deletePanics (by assumption) unconnected
  · cases taken

end Inversion

/-- Every step of a request is one of its moves. -/
theorem actStep_move {action : Action} (taken : actStep s r action = some next) :
    Move s r action next := by
  -- One lemma for each action.
  cases action with
  | notReady err => exact move_notReady taken
  | fail err => exact move_fail taken
  | insertProduct id createdAt lost => exact move_insertProduct taken
  | cacheHit => exact move_cacheHit taken
  | cacheMiss => exact move_cacheMiss taken
  | cacheError => exact move_cacheError taken
  | selectProduct => exact move_selectProduct taken
  | cacheSet stored => exact move_cacheSet taken
  | begin => exact move_begin taken
  | lockProduct => exact move_lockProduct taken
  | decrement => exact move_decrement taken
  | insertOrder id createdAt => exact move_insertOrder taken
  | commit => exact move_commit taken
  | commitFails err => exact move_commitFails taken
  | rollback failure => exact move_rollback taken
  | settle applied => exact move_settle taken
  | invalidate deleted => exact move_invalidate taken
  | selectOrder => exact move_selectOrder taken
  | panic => exact move_panic taken

/-- A request that is answered makes no more moves. -/
def Phase.active : Phase → Bool
  | .idle => false
  | .rejected _ => false
  | .answered _ _ => false
  | _ => true

/-- Only an operation that is still to be made can fail. -/
theorem Fails.active {err : Err} {before after : Phase} (fails : Fails err before after) :
    before.active = true := by
  cases fails <;> rfl

/-- Only a request that has entered and has no answer yet can move. -/
theorem Move.active {action : Action} (moved : Move s r action next) :
    (s.requests r).active = true := by
  -- Every move has a phase of a request that is being served.
  cases moved with
  | fail unknown fails => exact fails.active
  | _ => rw [‹s.requests r = _›]; rfl

/-- The steps of the service. -/
inductive Step (s : State) : Label → State → Prop
  | tick (d : Nat) : Step s (.tick d) { s with now := s.now + d }
  | connect : Step s .connect { s with client := true }
  | evict (key : String) : Step s (.evict key) (s.setCache key none)
  | receive {r : Nat} {http : HttpRequest} (phase : s.requests r = .idle) :
      Step s (.receive r http) (s.move r (.entered (handle http)))
  | act {r : Nat} {action : Action} {next : State} (moved : Move s r action next) :
      Step s (.act r action) next

/-- Every step of the machine is one of the service. -/
theorem step_cases {label : Label} (taken : machine.step s label = some next) :
    Step s label next := by
  -- Only two kinds of labels have a guard.
  cases label with
  | tick d =>
    cases taken
    exact .tick d
  | connect =>
    cases taken
    exact .connect
  | evict key =>
    cases taken
    exact .evict key
  | receive r http =>
    simp only [machine, step] at taken
    split at taken
    · next phase =>
      cases taken
      exact .receive phase
    · cases taken
  | act r action => exact .act (actStep_move taken)

/-- Which request takes a step. -/
def Label.mover : Label → Option Nat
  | .receive r _ => some r
  | .act r _ => some r
  | _ => none

/-- A request enters or makes a move when it takes a step. -/
theorem Step.own {label : Label} (stepped : Step s label next) (mine : label.mover = some r) :
    (∃ http, label = .receive r http ∧ s.requests r = .idle ∧
      next = s.move r (.entered (handle http))) ∨
      ∃ action, label = .act r action ∧ Move s r action next := by
  -- Time, the connection and evictions are nobody's steps.
  cases stepped with
  | tick d => cases mine
  | connect => cases mine
  | evict key => cases mine
  | receive phase =>
    cases mine
    exact .inl ⟨_, rfl, phase, rfl⟩
  | act moved =>
    cases mine
    exact .inr ⟨_, rfl, moved⟩

namespace State

/-- A request that is moved is in its new phase. -/
@[simp] theorem move_self (s : State) (r : Nat) (phase : Phase) :
    (s.move r phase).requests r = phase :=
  update_self s.requests r phase

/-- Every other request stays where it is. -/
@[simp] theorem move_other (s : State) {r other : Nat} (phase : Phase) (apart : other ≠ r) :
    (s.move r phase).requests other = s.requests other :=
  update_other s.requests phase apart

end State

end Bootkit.Orders
