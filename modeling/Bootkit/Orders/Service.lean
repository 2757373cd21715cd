import Bootkit.Core.Retry
import Bootkit.Databasekit.Seam
import Bootkit.Databasekit.TxManager
import Bootkit.Go.Machine
import Bootkit.Go.Strconv

/-!
The orders service: requests over HTTP, transactions on Postgres, and a cache of products.

What the steps rely on in Postgres (row locks, constraints, sequences), in Redis (what a read of
the cache returns), and in the driver (the errors that it returns) is named in definitions of its
own, which the steps and the results about them mention.
-/

namespace Bootkit.Orders

open Go

/-- A row of the table of products; its numbers are 64-bit integers. -/
structure Product where
  id : Int
  name : String
  price : Int
  stock : Int
  createdAt : Nat
  deriving Repr, DecidableEq

/-- A row of the table of orders. -/
structure Order where
  id : Int
  productID : Int
  quantity : Int
  total : Int
  createdAt : Nat
  deriving Repr, DecidableEq

/-- Returned when a requested product or order does not exist. -/
def errNotFound : Sentinel := ⟨"orders", "not found"⟩

/-- Returned when an order requests more units than are in stock. -/
def errInsufficientStock : Sentinel := ⟨"orders", "insufficient stock"⟩

/-- The error of an order that is too large, with both numbers in its text. -/
def insufficientStock (stock quantity : Int) : Err :=
  .wrap ("insufficient stock: have " ++ toString stock ++ ", want " ++ toString quantity)
    [.new errInsufficientStock]

/-- How long a product stays in the cache. -/
def productCacheTTL : Nat := 60 * 10 ^ 9

/-- The key under which a product is cached. -/
def productCacheKey (id : Int) : String :=
  "product:" ++ toString id

/-- A call of the service. -/
inductive Request where
  | createProduct (name : String) (price stock : Int)
  | getProduct (id : Int)
  | createOrder (productID quantity : Int)
  | getOrder (id : Int)
  deriving Repr, DecidableEq

/-- What the service returns. -/
inductive Answer where
  | product (product : Product)
  | order (order : Order)
  | failed (err : Err)
  -- It does not return: a call on a cache without a client dereferences nil.
  | panicked
  deriving Repr, DecidableEq

/-- The body of a request that creates a product. -/
structure CreateProductRequest where
  name : String
  priceCents : Int
  stock : Int
  deriving Repr, DecidableEq

/-- The body of a request that creates an order. -/
structure CreateOrderRequest where
  productID : Int
  quantity : Int
  deriving Repr, DecidableEq

/-- A request as it comes in; a body that cannot be decoded comes with the decoder's message. -/
inductive HttpRequest where
  | createProduct (body : Except String CreateProductRequest)
  | getProduct (param : String)
  | createOrder (body : Except String CreateOrderRequest)
  | getOrder (param : String)

/-- What is written to the client. -/
inductive ResponseBody where
  | product (product : Product)
  | order (order : Order)
  | error (code message : String)
  -- The router recovers a panic and writes nothing but the status.
  | empty
  deriving Repr, DecidableEq

/-- A response with its status code. -/
structure Response where
  status : Nat
  body : ResponseBody
  deriving Repr, DecidableEq

/-- The uniform error response. -/
def writeError (status : Nat) (code message : String) : Response :=
  ⟨status, .error code message⟩

/-- The path parameter as a positive number. -/
def pathID (param : String) : Option Int :=
  (parseInt param).bind fun id => if id ≤ 0 then none else some id

/-- The rejection of a request that is not well formed. -/
def invalidRequest (message : String) : Response :=
  writeError 400 "invalid_request" message

/-- What the handlers let through to the service, or answer themselves. -/
def handle : HttpRequest → Except Response Request
  | .createProduct (.error message) => .error (invalidRequest message)
  | .createProduct (.ok body) =>
    if body.name = "" then .error (invalidRequest "name is required")
    else if body.priceCents < 0 then
      .error (invalidRequest "price_cents must not be negative")
    else if body.stock < 0 then .error (invalidRequest "stock must not be negative")
    else .ok (.createProduct body.name body.priceCents body.stock)
  | .getProduct param =>
    match pathID param with
    | none => .error (invalidRequest "id must be a positive integer")
    | some id => .ok (.getProduct id)
  | .createOrder (.error message) => .error (invalidRequest message)
  | .createOrder (.ok body) =>
    if body.productID ≤ 0 then .error (invalidRequest "product_id is required")
    else if body.quantity ≤ 0 then
      .error (invalidRequest "quantity must be greater than zero")
    else .ok (.createOrder body.productID body.quantity)
  | .getOrder param =>
    match pathID param with
    | none => .error (invalidRequest "id must be a positive integer")
    | some id => .ok (.getOrder id)

/-- A service error as a response; what is not a domain error is not shown to the client. -/
def renderServiceError (err : Err) : Response :=
  if err.is errNotFound then writeError 404 "not_found" "resource not found"
  else if err.is errInsufficientStock then writeError 409 "insufficient_stock" err.text
  else writeError 500 "internal_error" "an unexpected error occurred"

/-- What is written for the answer of the service, by the handler or by the router around it. -/
def respond (request : Request) : Answer → Response
  | .failed err => renderServiceError err
  | .panicked => ⟨500, .empty⟩
  | .product product =>
    match request with
    | .createProduct _ _ _ => ⟨201, .product product⟩
    | _ => ⟨200, .product product⟩
  | .order order =>
    match request with
    | .createOrder _ _ => ⟨201, .order order⟩
    | _ => ⟨200, .order order⟩

/-- What a transaction has written: the row of the product, unless it matched none, and an order. -/
structure Writes where
  row : Option Product
  order : Order
  deriving Repr, DecidableEq

/-- Where a request is. -/
inductive Phase where
  | idle
  -- The handler has answered without calling the service.
  | rejected (response : Response)
  -- In the service, before its first operation.
  | called (request : Request)
  -- The cache had no product to give.
  | missed (id : Int)
  -- The row was read at the given time, and the cache is not populated yet.
  | loaded (id : Int) (product : Product) (since : Nat)
  -- The transaction is open, and the row is not locked yet.
  | begun (productID quantity : Int)
  -- The row is locked, and this is what was read.
  | locked (productID quantity : Int) (product : Product)
  -- The transaction has written the row, which nobody else sees.
  | decremented (productID quantity : Int) (product : Product) (row : Option Product)
  -- The transaction has also written the order.
  | inserted (productID quantity : Int) (writes : Writes)
  -- The body of the transaction has failed, and the rollback is due.
  | failing (productID quantity : Int) (err : Err)
  -- The caller has an error, and the server has not settled the transaction.
  | lingering (productID quantity : Int) (writes : Option Writes) (err : Err)
  -- The transaction is committed, and the cached product is not dropped yet.
  | committed (productID quantity : Int) (order : Order)
  | answered (request : Request) (answer : Answer)
  deriving Repr, DecidableEq

/-- Where a request is once its handler has looked at it. -/
def Phase.entered : Except Response Request → Phase
  | .error response => .rejected response
  | .ok request => .called request

/-- The request whose next operation is one of the cache: `Get`, `Set`, or `Delete`. -/
def Phase.caches : Phase → Option Request
  | .called (.getProduct id) | .loaded id _ _ => some (.getProduct id)
  | .committed productID quantity _ => some (.createOrder productID quantity)
  | _ => none

/-- What the client of a request has been sent. -/
def Phase.response : Phase → Option Response
  | .rejected response => some response
  | .lingering _ _ _ err => some (renderServiceError err)
  | .answered request answer => some (respond request answer)
  | _ => none

/-- A cached product with the instant at which it expires. -/
structure CacheEntry where
  product : Product
  expiresAt : Nat
  deriving Repr, DecidableEq

/-- The committed tables, the row locks, the cache, and every request. -/
structure State where
  now : Nat
  products : Int → Option Product
  orders : List Order
  -- The lowest number that the sequence of orders has not handed out.
  nextOrder : Int
  -- Which request's transaction holds the lock of a row.
  locks : Int → Option Nat
  cache : String → Option CacheEntry
  -- Whether the cache has its client, which it gets when it connects to Redis.
  client : Bool
  requests : Nat → Phase

namespace State

/-- The empty tables, and an empty cache that is not connected. -/
def init : State where
  now := 0
  products := fun _ => none
  orders := []
  nextOrder := 1
  locks := fun _ => none
  cache := fun _ => none
  client := false
  requests := fun _ => .idle

/-- One request moved to a phase. -/
def move (s : State) (r : Nat) (phase : Phase) : State :=
  { s with requests := update s.requests r phase }

/-- One more row in the table of products, or another row under its number. -/
def store (s : State) (product : Product) : State :=
  { s with products := update s.products product.id (some product) }

/-- The writes of a transaction made visible. -/
def install (s : State) (writes : Writes) : State :=
  { s with
    products := writes.row.elim s.products fun row => update s.products row.id (some row)
    orders := s.orders ++ [writes.order] }

/-- The lock of a row taken by a request. -/
def lock (s : State) (productID : Int) (r : Nat) : State :=
  { s with locks := update s.locks productID (some r) }

/-- Every row lock of one request given back. -/
def unlock (s : State) (r : Nat) : State :=
  { s with locks := fun id => if s.locks id = some r then none else s.locks id }

/-- The entry of the cache under one key. -/
def setCache (s : State) (key : String) (entry : Option CacheEntry) : State :=
  { s with cache := update s.cache key entry }

/-- What Redis returns for a product: the value that was set last, until it expires. -/
def cached (s : State) (id : Int) : Option Product :=
  (s.cache (productCacheKey id)).bind fun entry =>
    if s.now < entry.expiresAt then some entry.product else none

/-- What Postgres checks of a new product, and its number, which no other row has. -/
def AdmitsProduct (s : State) (id price stock : Int) : Prop :=
  0 ≤ price ∧ 0 ≤ stock ∧ 0 < id ∧ id < 2 ^ 63 ∧ s.products id = none

instance (s : State) (id price stock : Int) : Decidable (s.AdmitsProduct id price stock) :=
  inferInstanceAs (Decidable (_ ∧ _))

/-- What Postgres checks of a new order, and its number, which the sequence hands out once. -/
def AdmitsOrder (s : State) (id quantity total : Int) : Prop :=
  0 < quantity ∧ 0 ≤ total ∧ s.nextOrder ≤ id ∧ id < 2 ^ 63

instance (s : State) (id quantity total : Int) : Decidable (s.AdmitsOrder id quantity total) :=
  inferInstanceAs (Decidable (_ ∧ _))

/-- Postgres gives the lock of a row to one transaction at a time. -/
def Grants (s : State) (productID : Int) : Prop :=
  s.locks productID = none

instance (s : State) (productID : Int) : Decidable (s.Grants productID) :=
  inferInstanceAs (Decidable (_ = _))

end State

/-- The next thing that a request does, with what the other side replies. -/
inductive Action where
  -- The readiness gate of the pool gives up.
  | notReady (err : Err)
  -- The operation on Postgres fails.
  | fail (err : Err)
  -- The row is inserted, and the reply may still be lost.
  | insertProduct (id : Int) (createdAt : Nat) (lost : Option Err)
  | cacheHit
  | cacheMiss
  -- The cache fails, or the entry is malformed.
  | cacheError
  | selectProduct
  -- The cache is populated, or fails to be.
  | cacheSet (stored : Bool)
  | begin
  -- The row is read `FOR UPDATE`, once nobody else holds its lock.
  | lockProduct
  -- The check of the stock, and the update behind it.
  | decrement
  | insertOrder (id : Int) (createdAt : Nat)
  | commit
  | commitFails (err : Err)
  | rollback (failure : Option Err)
  -- The server ends a transaction that its client has given up.
  | settle (applied : Bool)
  -- The cached product is dropped, or fails to be.
  | invalidate (deleted : Bool)
  | selectOrder
  -- An operation of the cache panics because the cache has no client.
  | panic
  deriving Repr, DecidableEq

/-- Who takes the next step. -/
inductive Label where
  | tick (d : Nat)
  -- The cache connects and gets its client.
  | connect
  | receive (r : Nat) (http : HttpRequest)
  | act (r : Nat) (action : Action)
  -- The cache drops an entry on its own.
  | evict (key : String)

/-- What the driver returns as an error: none of those that the service tells apart. -/
def foreign (err : Err) : Bool :=
  !err.is errNotFound && !err.is errInsufficientStock && !err.is errNoRows

/-- What a repository returns for the error of a query for one row. -/
def scanErr (label : String) (err : Err) : Err :=
  if err.is errNoRows then .new errNotFound else err.annotate label

/-- The error of reading a product. -/
def scanProduct (err : Err) : Err := scanErr "select product" err

/-- The error of reading an order. -/
def scanOrder (err : Err) : Err := scanErr "select order" err

/-- What a failed operation leads to, with the text that the repository or the manager adds. -/
def failed (err : Err) : Phase → Option Phase
  | .called (.createProduct name price stock) =>
    some (.answered (.createProduct name price stock) (.failed (err.annotate "insert product")))
  | .called (.createOrder productID quantity) =>
    some (.answered (.createOrder productID quantity)
      (.failed (err.annotate "failed to begin transaction")))
  | .called (.getOrder id) => some (.answered (.getOrder id) (.failed (scanOrder err)))
  | .missed id => some (.answered (.getProduct id) (.failed (scanProduct err)))
  | .begun productID quantity => some (.failing productID quantity (scanProduct err))
  | .locked productID quantity product =>
    -- The stock is checked before the update is sent.
    if product.stock < quantity then none
    else some (.failing productID quantity (err.annotate "decrement stock"))
  | .decremented productID quantity _ _ =>
    some (.failing productID quantity (err.annotate "insert order"))
  | _ => none

/-- What the manager returns for a failed body and the outcome of its rollback. -/
def rolledBack (err : Err) : Option Err → Err
  | none => err
  | some failure => if failure.is errTxClosed then err else transactionFailed err failure

/-- The row that `stock = stock - $1` writes, unless a constraint of the table is violated. -/
def decrementStock (quantity : Int) : Option Product → Option (Option Product)
  -- An update that matches no row is no error.
  | none => some none
  | some row =>
    if 0 ≤ row.stock - quantity ∧ row.stock - quantity < 2 ^ 63 then
      some (some { row with stock := row.stock - quantity })
    else none

/-- The price of a quantity, in 64 bits. -/
def totalOf (product : Product) (quantity : Int) : Int :=
  wrap64 (product.price * quantity)

/-- One step of a request. -/
def actStep (s : State) (r : Nat) : Action → Option State
  | .notReady err =>
    match s.requests r with
    | .called (.createOrder productID quantity) =>
      if foreign err then some (s.move r (.answered (.createOrder productID quantity)
        (.failed (poolNotReady err))))
      else none
    | _ => none
  | .fail err => if foreign err then (failed err (s.requests r)).map (s.move r) else none
  | .insertProduct id createdAt lost =>
    match s.requests r with
    | .called (.createProduct name price stock) =>
      if s.AdmitsProduct id price stock ∧ lost.all foreign then
        let product : Product := ⟨id, name, price, stock, createdAt⟩
        let answer := lost.elim (.product product) fun err =>
          .failed (err.annotate "insert product")
        some ((s.store product).move r (.answered (.createProduct name price stock) answer))
      else none
    | _ => none
  | .cacheHit =>
    match s.requests r with
    | .called (.getProduct id) =>
      if s.client then (s.cached id).map fun product =>
        s.move r (.answered (.getProduct id) (.product product))
      else none
    | _ => none
  | .cacheMiss =>
    match s.requests r with
    | .called (.getProduct id) =>
      if s.client ∧ s.cached id = none then some (s.move r (.missed id)) else none
    | _ => none
  | .cacheError =>
    match s.requests r with
    | .called (.getProduct id) => if s.client then some (s.move r (.missed id)) else none
    | _ => none
  | .selectProduct =>
    match s.requests r with
    | .missed id =>
      match s.products id with
      | none =>
        some (s.move r (.answered (.getProduct id) (.failed (scanProduct (.new errNoRows)))))
      | some product => some (s.move r (.loaded id product s.now))
    | _ => none
  | .cacheSet stored =>
    match s.requests r with
    | .loaded id product _ =>
      -- A failure to populate the cache does not fail the read.
      let populated := if stored then
        s.setCache (productCacheKey id) (some ⟨product, s.now + productCacheTTL⟩) else s
      if s.client then some (populated.move r (.answered (.getProduct id) (.product product)))
      else none
    | _ => none
  | .begin =>
    match s.requests r with
    | .called (.createOrder productID quantity) => some (s.move r (.begun productID quantity))
    | _ => none
  | .lockProduct =>
    match s.requests r with
    | .begun productID quantity =>
      match s.products productID with
      | none =>
        some (s.move r (.failing productID quantity (scanProduct (.new errNoRows))))
      | some product =>
        if s.Grants productID then
          some ((s.lock productID r).move r (.locked productID quantity product))
        else none
    | _ => none
  | .decrement =>
    match s.requests r with
    | .locked productID quantity product =>
      if product.stock < quantity then some (s.move r
        (.failing productID quantity (insufficientStock product.stock quantity)))
      else
        -- The statement computes the new stock from the row as it is now.
        (decrementStock quantity (s.products productID)).map fun row =>
          s.move r (.decremented productID quantity product row)
    | _ => none
  | .insertOrder id createdAt =>
    match s.requests r with
    | .decremented productID quantity product row =>
      let total := totalOf product quantity
      if s.AdmitsOrder id quantity total then
        some ({ s with nextOrder := id + 1 }.move r
          (.inserted productID quantity ⟨row, ⟨id, productID, quantity, total, createdAt⟩⟩))
      else none
    | _ => none
  | .commit =>
    match s.requests r with
    | .inserted productID quantity writes =>
      some (((s.install writes).unlock r).move r (.committed productID quantity writes.order))
    | _ => none
  | .commitFails err =>
    match s.requests r with
    | .inserted productID quantity writes =>
      if foreign err then some (s.move r (.lingering productID quantity (some writes)
        (err.annotate "failed to commit transaction")))
      else none
    | _ => none
  | .rollback failure =>
    match s.requests r with
    | .failing productID quantity err =>
      match failure with
      | none => some ((s.unlock r).move r
          (.answered (.createOrder productID quantity) (.failed (rolledBack err none))))
      | some failure =>
        if foreign failure then some (s.move r
          (.lingering productID quantity none (rolledBack err (some failure))))
        else none
    | _ => none
  | .settle applied =>
    match s.requests r with
    | .lingering productID quantity writes err =>
      match applied, writes with
      -- Only a commit that was asked for can have been applied.
      | true, some writes => some (((s.install writes).unlock r).move r
          (.answered (.createOrder productID quantity) (.failed err)))
      | true, none => none
      | false, _ => some ((s.unlock r).move r
          (.answered (.createOrder productID quantity) (.failed err)))
    | _ => none
  | .invalidate deleted =>
    match s.requests r with
    | .committed productID quantity order =>
      -- A failure to drop the cached product does not fail the order.
      let dropped := if deleted then s.setCache (productCacheKey productID) none else s
      if s.client then
        some (dropped.move r (.answered (.createOrder productID quantity) (.order order)))
      else none
    | _ => none
  | .selectOrder =>
    match s.requests r with
    | .called (.getOrder id) =>
      let answer := (s.orders.find? (·.id = id)).elim (.failed (scanOrder (.new errNoRows)))
        Answer.order
      some (s.move r (.answered (.getOrder id) answer))
    | _ => none
  | .panic =>
    match s.client, (s.requests r).caches with
    | false, some request => some (s.move r (.answered request .panicked))
    | _, _ => none

/-- One step of the service. -/
def step (s : State) : Label → Option State
  | .tick d => some { s with now := s.now + d }
  | .connect => some { s with client := true }
  | .receive r http =>
    match s.requests r with
    | .idle => some (s.move r (.entered (handle http)))
    | _ => none
  | .act r action => actStep s r action
  | .evict key => some (s.setCache key none)

/-- The machine whose runs interleave every request. -/
def machine : Machine State Label where
  step := step

end Bootkit.Orders
